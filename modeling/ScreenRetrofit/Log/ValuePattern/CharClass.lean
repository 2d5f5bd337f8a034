import ScreenRetrofit.Text.Category
import ScreenRetrofit.Text.Folding

/-!
# Character classes

A class is a set of characters, built from ranges and Unicode properties by the operations on
sets. `CharClass.contains` says what is in it, and the operations are those of sets.
-/

namespace ScreenRetrofit.Log

/-- A set of characters. -/
inductive CharClass where
  /-- No character. -/
  | nothing
  /-- The characters from a first to a last one. -/
  | range (first last : Char)
  /-- The decimal digits of all scripts. -/
  | digit
  /-- The blank characters. -/
  | blank
  /-- The characters that stand in words. -/
  | word
  /-- The characters of a major class. -/
  | category (category : Text.Category)
  /-- What is in one class or the other. -/
  | either (left right : CharClass)
  /-- What is in both classes. -/
  | both (left right : CharClass)
  /-- What is not in a class. -/
  | not (inner : CharClass)
  /-- What is in a class in some case. -/
  | anyCase (inner : CharClass)
  deriving DecidableEq, Repr

namespace CharClass

/-- Whether a character is in a class. -/
def contains : CharClass → Char → Bool
  | nothing, _ => false
  | range first last, c => first ≤ c && c ≤ last
  | digit, c => Text.isDecimalDigit c
  | blank, c => Text.isBlank c
  | word, c => Text.isWordCharacter c
  | category wanted, c => Text.category c = wanted
  | either left right, c => left.contains c || right.contains c
  | both left right, c => left.contains c && right.contains c
  | not inner, c => !inner.contains c
  | anyCase inner, c => (Text.caseVariants c).any inner.contains

/-- One character. -/
def single (c : Char) : CharClass := range c c

/-- A class of one character holds that character alone. -/
theorem contains_single {member c : Char} : (single member).contains c = true ↔ c = member := by
  simp only [single, contains, Bool.and_eq_true, decide_eq_true_eq]
  constructor
  · exact fun ⟨low, high⟩ => Char.le_antisymm high low
  · rintro rfl
    exact ⟨Char.le_refl _, Char.le_refl _⟩

/-- What is in any of several classes. -/
def anyOf (classes : List CharClass) : CharClass := classes.foldr either nothing

/-- A character is in any of several classes exactly when one of them holds it. -/
theorem contains_anyOf {classes : List CharClass} {c : Char} :
    (anyOf classes).contains c = true ↔ ∃ inner ∈ classes, inner.contains c = true := by
  induction classes with
  | nil => simp [anyOf, contains]
  | cons first rest ih =>
    have step : (anyOf (first :: rest)).contains c =
        (first.contains c || (anyOf rest).contains c) := rfl
    simp [step, ih]

/-- Some characters. -/
def members (characters : String) : CharClass := anyOf (characters.toList.map single)

/-- Every character. -/
def everything : CharClass := not nothing

/-- The characters of ASCII. -/
def ascii : CharClass := range '\x00' '\x7f'

/-- What is in the first class and not in the second. -/
def without (left right : CharClass) : CharClass := both left (not right)

/-- What is in exactly one of two classes. -/
def oneOf (left right : CharClass) : CharClass :=
  either (without left right) (without right left)

/-- The digits of ASCII. -/
def asciiDigit : CharClass := range '0' '9'

/-- The capital letters of ASCII. -/
def asciiUpper : CharClass := range 'A' 'Z'

/-- The small letters of ASCII. -/
def asciiLower : CharClass := range 'a' 'z'

/-- The letters of ASCII. -/
def asciiLetter : CharClass := either asciiUpper asciiLower

/-- The characters of ASCII that stand in words. -/
def asciiWord : CharClass := anyOf [asciiLetter, asciiDigit, single '_']

/-- The blank characters of ASCII. -/
def asciiBlank : CharClass := either (range '\t' '\r') (single ' ')

/-- The class of ASCII with a name. -/
def ofAsciiName? (name : Text) : Option CharClass :=
  match String.ofList name with
  | "alnum" => some (either asciiLetter asciiDigit)
  | "alpha" => some asciiLetter
  | "ascii" => some ascii
  | "blank" => some (members "\t ")
  | "cntrl" => some (either (range '\x00' '\x1f') (single '\x7f'))
  | "digit" => some asciiDigit
  | "graph" => some (range '!' '~')
  | "lower" => some asciiLower
  | "print" => some (range ' ' '~')
  | "punct" => some (anyOf [range '!' '/', range ':' '@', range '[' '\x60', range '\x7b' '~'])
  | "space" => some asciiBlank
  | "upper" => some asciiUpper
  | "word" => some asciiWord
  | "xdigit" => some (anyOf [asciiDigit, range 'A' 'F', range 'a' 'f'])
  | _ => none

/-- The major class with a letter, small or capital. -/
def ofCategoryLetter? (letter : Char) : Option CharClass :=
  match letter.toLower with
  | 'l' => some (category .letter)
  | 'm' => some (category .mark)
  | 'n' => some (category .number)
  | 'p' => some (category .punctuation)
  | 's' => some (category .symbol)
  | 'z' => some (category .separator)
  | 'c' => some (category .other)
  | _ => none

end CharClass

end ScreenRetrofit.Log
