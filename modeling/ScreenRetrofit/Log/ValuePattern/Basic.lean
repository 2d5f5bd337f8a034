import ScreenRetrofit.Log.ValuePattern.CharClass

/-!
# Value patterns

A value pattern describes texts by the ways of going through them. The ways have an order: the
first of two choices comes before the second, and one more round of a repetition before its end,
or after it if the repetition is reluctant. The ways from the start of a text are followed side by
side; one that ends calls off those after it. A pattern accepts a text when the way that is left
at the end of the text ends there, so the first way that ends at all decides, and it has to take
the whole text.
-/

namespace ScreenRetrofit.Log

/-- What stands around a place in a text. -/
structure Place where
  /-- The character before, if any. -/
  before : Option Char
  /-- The character after, if any. -/
  after : Option Char
  deriving DecidableEq, Repr

/-- A condition on a place in a text. -/
inductive Edge where
  /-- The text starts here. -/
  | textStart
  /-- The text ends here. -/
  | textEnd
  /-- A line starts here; lines end with a line feed, or with a carriage return as well. -/
  | lineStart (returns : Bool)
  /-- A line ends here. -/
  | lineEnd (returns : Bool)
  /-- A word starts or ends here. -/
  | wordEdge
  /-- No word starts or ends here. -/
  | noWordEdge
  /-- A word starts here. -/
  | wordStart
  /-- A word ends here. -/
  | wordEnd
  /-- Any of the conditions on words, for the words of all scripts. -/
  | scriptEdge
  deriving DecidableEq, Repr

namespace Edge

/-- Whether a character is there and stands in a word of ASCII. -/
private def inWord (c? : Option Char) : Bool := c?.any CharClass.asciiWord.contains

/-- Whether a condition holds at a place. Those on the words of all scripts hold nowhere. -/
def holds : Edge → Place → Bool
  | textStart, place => place.before = none
  | textEnd, place => place.after = none
  | lineStart false, place => place.before = none || place.before = some '\n'
  | lineStart true, place =>
    place.before = none || place.before = some '\n' ||
      (place.before = some '\r' && place.after != some '\n')
  | lineEnd false, place => place.after = none || place.after = some '\n'
  | lineEnd true, place =>
    place.after = none || place.after = some '\r' ||
      (place.after = some '\n' && place.before != some '\r')
  | wordEdge, place => inWord place.before != inWord place.after
  | noWordEdge, place => inWord place.before == inWord place.after
  | wordStart, place => !inWord place.before && inWord place.after
  | wordEnd, place => inWord place.before && !inWord place.after
  | scriptEdge, _ => false

end Edge

/-- A pattern for the texts of values. -/
inductive ValuePattern where
  /-- The empty text. -/
  | empty
  /-- One character of a class. -/
  | one (kind : CharClass)
  /-- The empty text at a place where a condition holds. -/
  | edge (condition : Edge)
  /-- A text of one pattern and then a text of another. -/
  | sequence (first second : ValuePattern)
  /-- A text of one pattern or else a text of another. -/
  | choice (first second : ValuePattern)
  /-- Texts of a pattern one after the other, as many as can be had or as few. -/
  | many (greedy : Bool) (body : ValuePattern)
  deriving DecidableEq, Repr

namespace ValuePattern

/-- A way to go on at a place: to end there, or to take a character of a class and to go on with
a pattern. -/
abbrev Way := Option (CharClass × ValuePattern)

/-- One pattern after another, where nothing need be said of a first one that is empty. -/
def andThen : ValuePattern → ValuePattern → ValuePattern
  | empty, second => second
  | first, second => sequence first second

/-- The ways to go on with a pattern at a place, in order. A round of a repetition that takes
nothing ends the repetition. -/
def ways (place : Place) : ValuePattern → List Way
  | empty => [none]
  | one kind => [some (kind, empty)]
  | edge condition => if condition.holds place then [none] else []
  | sequence first second =>
    ((first.ways place).flatMap fun
      | none => second.ways place
      | some (kind, rest) => [some (kind, rest.andThen second)]).eraseDups
  | choice first second => (first.ways place ++ second.ways place).eraseDups
  | many greedy body =>
    let rounds := (body.ways place).map fun way =>
      way.map fun (kind, rest) => (kind, rest.andThen (many greedy body))
    (if greedy then rounds ++ [none] else none :: rounds).eraseDups

/-- What is left of patterns after a character: of their ways those before the first that ends,
as far as they take the character. -/
def advance (place : Place) (c : Char) (patterns : List ValuePattern) : List ValuePattern :=
  let going := (patterns.flatMap (ways place)).takeWhile Option.isSome
  (going.filterMap fun way => way.bind fun (kind, rest) =>
    if kind.contains c then some rest else none).eraseDups

/-- Whether one of several patterns, followed side by side, ends with a text. -/
def endsWith : List ValuePattern → (before : Option Char) → Text → Bool
  | patterns, before, [] => (patterns.flatMap (ways ⟨before, none⟩)).contains none
  | patterns, before, c :: rest => endsWith (advance ⟨before, some c⟩ c patterns) (some c) rest

/-- Whether a pattern accepts a text. -/
def accepts (pattern : ValuePattern) (text : Text) : Bool := endsWith [pattern] none text

/-- Whether a pattern asks for edges of the words of all scripts. -/
def asksForScripts : ValuePattern → Bool
  | empty | one _ => false
  | edge condition => condition = .scriptEdge
  | sequence first second | choice first second => first.asksForScripts || second.asksForScripts
  | many _ body => body.asksForScripts

/-- The pattern of one text. -/
def ofText : Text → ValuePattern
  | [] => empty
  | c :: rest => sequence (one (.single c)) (ofText rest)

/-- A pattern of a text that is not empty has one way to go on. -/
private theorem ways_ofText_cons (place : Place) (c : Char) (rest : Text) :
    ways place (ofText (c :: rest)) = [some (.single c, ofText rest)] := by
  simp [ofText, ways, andThen, List.eraseDups_cons]

/-- After a character a pattern of a text is left if that character is its first. -/
private theorem advance_ofText_cons (place : Place) (found c : Char) (rest : Text) :
    advance place found [ofText (c :: rest)] = if found = c then [ofText rest] else [] := by
  by_cases same : found = c
  · simp [advance, ways_ofText_cons, CharClass.contains_single, same, List.eraseDups_cons]
  · simp [advance, ways_ofText_cons, CharClass.contains_single, same]

/-- No pattern ends with no text. -/
private theorem endsWith_nil (before : Option Char) (text : Text) :
    endsWith [] before text = false := by
  induction text generalizing before with
  | nil => rfl
  | cons c rest ih => simpa [endsWith, advance] using ih (some c)

/-- The pattern of a text accepts that text and no other. -/
theorem accepts_ofText {expected text : Text} :
    (ofText expected).accepts text = true ↔ text = expected := by
  suffices follows : ∀ before,
      endsWith [ofText expected] before text = true ↔ text = expected from follows none
  intro before
  induction text generalizing expected before with
  | nil =>
    cases expected with
    | nil => simp [endsWith, ofText, ways]
    | cons c rest => simp [endsWith, ways_ofText_cons]
  | cons found text ih =>
    cases expected with
    | nil => simp [endsWith, advance, ofText, ways, endsWith_nil]
    | cons c rest =>
      by_cases same : found = c
      · simp [endsWith, advance_ofText_cons, same, ih]
      · simp [endsWith, advance_ofText_cons, same, endsWith_nil]

end ValuePattern

end ScreenRetrofit.Log
