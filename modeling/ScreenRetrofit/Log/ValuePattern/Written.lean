import ScreenRetrofit.Log.ValuePattern.Basic
import ScreenRetrofit.Text.Reader

/-!
# Written value patterns

A pattern is written as its parts one after the other. Most characters stand for themselves; a dot
stands for any, a class in brackets for one of several, and a backslash gives a character or a
class by a letter. A bar separates choices, parentheses group, a star, a plus and a question mark
repeat what comes before. A group can change how the rest of it is understood. It is read from
left to right, with the groups and the classes that are still open kept from the inside out. A
pattern is the value of a field of a directive, where no brace is closed, so an opening brace has
no meaning.
-/

namespace ScreenRetrofit.Log

open Text

/-- How a written pattern is understood from some place on. -/
structure PatternModes where
  /-- A letter stands for itself in any case. -/
  anyCase : Bool := false
  /-- The marks for the start and the end are those of a line. -/
  byLine : Bool := false
  /-- The dot stands for the ends of lines too. -/
  dotTakesAll : Bool := false
  /-- A repetition is greedy where it is marked as reluctant, and reluctant where it is not. -/
  swapped : Bool := false
  /-- Classes hold characters of all scripts, and not of ASCII alone. -/
  allScripts : Bool := true
  /-- Lines end with a carriage return as well. -/
  returns : Bool := false
  /-- Blanks and comments have no meaning. -/
  spaced : Bool := false
  deriving DecidableEq, Repr

namespace PatternModes

/-- Switch the mode with a letter on or off. -/
def switch (on : Bool) (modes : PatternModes) : Char → Option PatternModes
  | 'i' => some { modes with anyCase := on }
  | 'm' => some { modes with byLine := on }
  | 's' => some { modes with dotTakesAll := on }
  | 'U' => some { modes with swapped := on }
  | 'u' => some { modes with allScripts := on }
  | 'R' => some { modes with returns := on }
  | 'x' => some { modes with spaced := on }
  | _ => none

/-- The modes after a change: letters to switch on, and behind a dash letters to switch off. No
letter stands there twice, and the dash has a letter behind it. -/
def changed? (modes : PatternModes) (change : Text) : Option PatternModes :=
  if change.Nodup ∧ change.getLast? ≠ some '-' then do
    let modes ← (change.takeWhile (· != '-')).foldlM (switch true) modes
    ((change.dropWhile (· != '-')).drop 1).foldlM (switch false) modes
  else none

/-- What a class stands for, letters in any case if they are to be. Letters outside ASCII have no
other case where classes are of ASCII alone. -/
def folded (modes : PatternModes) (kind : CharClass) : CharClass :=
  if !modes.anyCase then kind
  else if modes.allScripts then .anyCase kind
  else .either kind (.both (.anyCase kind) .ascii)

/-- The class of the two that is meant. -/
private def choose (modes : PatternModes) (wide narrow : CharClass) : CharClass :=
  if modes.allScripts then wide else narrow

/-- The class that a letter behind a backslash gives. -/
def classOf? (modes : PatternModes) : Char → Option CharClass
  | 'd' | 'D' => some (modes.choose .digit .asciiDigit)
  | 's' | 'S' => some (modes.choose .blank .asciiBlank)
  | 'w' | 'W' => some (modes.choose .word .asciiWord)
  | _ => none

/-- What the dot stands for. -/
def dot (modes : PatternModes) : CharClass :=
  if modes.dotTakesAll then .everything
  else .not (.members (if modes.returns then "\r\n" else "\n"))

/-- The edge that the mark for the start stands for. -/
def startEdge (modes : PatternModes) : Edge :=
  if modes.byLine then .lineStart modes.returns else .textStart

/-- The edge that the mark for the end stands for. -/
def endEdge (modes : PatternModes) : Edge :=
  if modes.byLine then .lineEnd modes.returns else .textEnd

/-- The edge of words that is meant: that of ASCII, or that of all scripts. -/
def wordEdge (modes : PatternModes) (narrow : Edge) : Edge :=
  if modes.allScripts then .scriptEdge else narrow

end PatternModes

/-- What one character or one escape of a written pattern stands for. -/
inductive PatternAtom where
  /-- A character. -/
  | char (c : Char)
  /-- A character given by two digits, which is one of ASCII where classes are. -/
  | byte (c : Char)
  /-- A class. -/
  | kind (kind : CharClass)
  /-- An edge. -/
  | edge (condition : Edge)
  deriving DecidableEq, Repr

namespace PatternAtom

/-- The character that an atom is, if it is one. -/
def char? (modes : PatternModes) : PatternAtom → Option Char
  | char c => some c
  | byte c => if modes.allScripts ∨ c.toNat < 0x80 then some c else none
  | kind _ | edge _ => none

/-- The character that an atom is in a class, which is one of ASCII where classes are. -/
def classChar? (modes : PatternModes) : PatternAtom → Option Char
  | char c | byte c => char? modes (byte c)
  | kind _ | edge _ => none

end PatternAtom

namespace PatternReader

open Reader

/-- A text without the blanks and comments in front of it; a comment ends with its line. -/
def skipGap : (comment : Bool) → Text → Text
  | _, [] => []
  | true, c :: rest => skipGap (c != '\n') rest
  | false, c :: rest =>
    if isBlank c then skipGap false rest
    else if c = '#' then skipGap true rest
    else c :: rest

/-- What has no meaning between two parts. -/
def gap (modes : PatternModes) : Reader Unit := fun text =>
  some ((), if modes.spaced then skipGap false text else text)

/-- A value that there has to be. -/
def known {α : Type} (value? : Option α) : Reader α := fun text => value?.map (·, text)

/-- A number of hexadecimal digits. -/
def hexDigits (modes : PatternModes) : Nat → Reader Text
  | 0 => pure []
  | count + 1 => do
    gap modes
    let digit ← one isHexDigit
    return digit :: (← hexDigits modes count)

/-- A character given by a number of hexadecimal digits. -/
def codePoint (modes : PatternModes) (count : Nat) : Reader Char := do
  let value := numeral 16 (← hexDigits modes count)
  if value.isValidChar then return Char.ofNat value else failure

/-- The class that a property gives, or all other characters. -/
def property (modes : PatternModes) (inverted : Bool) : Reader CharClass := do
  gap modes
  let kind ← known (CharClass.ofCategoryLetter? (← any))
  let kind := modes.folded kind
  if modes.allScripts then return if inverted then .not kind else kind else failure

/-- What stands behind a backslash. Every sign of ASCII but the angle brackets stands for itself;
a digit stands for nothing. -/
def escape (modes : PatternModes) : Reader PatternAtom := do
  match ← any with
  | 'x' => return .byte (← codePoint modes 2)
  | 'u' => return .char (← codePoint modes 4)
  | 'U' => return .char (← codePoint modes 8)
  | 'p' => return .kind (← property modes false)
  | 'P' => return .kind (← property modes true)
  | 'a' => return .char '\x07'
  | 'f' => return .char '\x0c'
  | 't' => return .char '\t'
  | 'n' => return .char '\n'
  | 'r' => return .char '\r'
  | 'v' => return .char '\x0b'
  | 'A' => return .edge .textStart
  | 'z' => return .edge .textEnd
  | 'b' => return .edge (modes.wordEdge .wordEdge)
  | 'B' => return .edge (modes.wordEdge .noWordEdge)
  | '<' => return .edge (modes.wordEdge .wordStart)
  | '>' => return .edge (modes.wordEdge .wordEnd)
  | c =>
    match modes.classOf? c with
    | some kind =>
      if c.isLower then return .kind kind
      else if modes.allScripts then return .kind (.not kind)
      else failure
    | none => if c.toNat < 0x80 && !c.isAlphanum then return .char c else failure

/-- A class in brackets of which the end has not been read yet. -/
structure OpenClass where
  /-- Whether it stands for all other characters. -/
  inverted : Bool
  /-- What is made of the items read since the last operation. -/
  finish : CharClass → CharClass := id
  /-- The items read since the last operation. -/
  items : CharClass := .nothing

namespace OpenClass

/-- One more item. -/
def add (level : OpenClass) (item : CharClass) : OpenClass :=
  { level with items := .either level.items item }

/-- An operation between all that was read before and what is read next. -/
def operate (modes : PatternModes) (operation : CharClass → CharClass → CharClass)
    (level : OpenClass) : OpenClass :=
  let left := modes.folded (level.finish level.items)
  { level with
    finish := fun right => operation left (modes.folded right)
    items := .nothing }

/-- The class at its end. -/
def closed (modes : PatternModes) (level : OpenClass) : CharClass :=
  let kind := modes.folded (level.finish level.items)
  if level.inverted then .not kind else kind

end OpenClass

/-- The start of a class behind its bracket: the sign that inverts it, and the dashes or else the
closing bracket that stand for themselves there. -/
def openClass (modes : PatternModes) : Reader OpenClass := do
  gap modes
  let inverted ← present '^'
  gap modes
  let dashes ← many (one (· = '-') <* gap modes)
  let bracket ← if dashes.isEmpty then present ']' else pure false
  let items := .members (String.ofList (dashes ++ if bracket then [']'] else []))
  return { inverted, items }

/-- A class of ASCII by its name, behind an opening bracket. -/
def namedClass (modes : PatternModes) : Reader CharClass := do
  fixed ":"
  let inverted ← present '^'
  let kind ← known (CharClass.ofAsciiName? (← allOf (· != ':')))
  fixed ":]"
  return if inverted then .not (modes.folded kind) else modes.folded kind

/-- One character of a class, or what an escape gives there. -/
def classAtom (modes : PatternModes) : Reader PatternAtom := do
  match ← any with
  | '\\' => escape modes
  | c => return .char c

/-- Whether the item that was read is the start of a range: a dash follows it, and the dash is
neither the last character of the class nor the first of an operation. -/
def startsRange (modes : PatternModes) : Reader Bool := fun text =>
  let starts := match text with
    | '-' :: rest =>
      let next := if modes.spaced then skipGap false rest else rest
      next.head? != some ']' && next.head? != some '-'
    | _ => false
  some (starts, text.drop starts.toNat)

/-- One item of a class. -/
def classItem (modes : PatternModes) : Reader CharClass := do
  let first ← classAtom modes
  gap modes
  if ← startsRange modes then
    gap modes
    let low ← known (first.classChar? modes)
    let high ← known ((← classAtom modes).classChar? modes)
    if low ≤ high then return .range low high else failure
  else
    match first with
    | .kind kind => return kind
    | atom => return .single (← known (atom.classChar? modes))

/-- The rest of a class, with the classes around it from the inside out. -/
def classRest (modes : PatternModes) : Nat → OpenClass → List OpenClass → Reader CharClass
  | 0, _, _ => failure
  | bound + 1, level, outer => do
    gap modes
    match ← get with
    | '[' :: rest =>
      set rest
      match ← Option.some <$> namedClass modes <|> pure none with
      | some kind => classRest modes bound (level.add kind) outer
      | none => classRest modes bound (← openClass modes) (level :: outer)
    | ']' :: rest =>
      set rest
      match outer with
      | [] => return level.closed modes
      | around :: outer => classRest modes bound (around.add (level.closed modes)) outer
    | '&' :: '&' :: rest =>
      set rest
      classRest modes bound (level.operate modes .both) outer
    | '-' :: '-' :: rest =>
      set rest
      classRest modes bound (level.operate modes .without) outer
    | '~' :: '~' :: rest =>
      set rest
      classRest modes bound (level.operate modes .oneOf) outer
    | _ => classRest modes bound (level.add (← classItem modes)) outer

/-- A class behind its bracket. Where classes are of ASCII alone it must not hold anything else. -/
def bracketed (modes : PatternModes) : Reader CharClass := do
  let first ← openClass modes
  let kind ← classRest modes ((← get).length + 1) first []
  if modes.allScripts || !kind.contains '\x80' then return kind else failure

/-- A group of which the end has not been read yet. -/
structure OpenGroup where
  /-- How the pattern is understood around the group. -/
  outside : PatternModes := {}
  /-- The choices before the one that is being read, the last one first. -/
  choices : List ValuePattern := []
  /-- The parts of the choice that is being read, the last one first. A change of the modes is
  there as a part that there is not, as it cannot be repeated. -/
  parts : List (Option ValuePattern) := []

namespace OpenGroup

/-- Patterns one after the other. -/
def inSequence : List ValuePattern → ValuePattern
  | [] => .empty
  | [last] => last
  | first :: rest => .sequence first (inSequence rest)

/-- One pattern or the other. -/
def anyOf : List ValuePattern → ValuePattern
  | [] => .empty
  | [last] => last
  | first :: rest => .choice first (anyOf rest)

/-- The choice that is being read. -/
def choice (group : OpenGroup) : ValuePattern := inSequence (group.parts.reverse.filterMap id)

/-- The group at the start of another choice. -/
def nextChoice (group : OpenGroup) : OpenGroup :=
  { group with choices := group.choice :: group.choices, parts := [] }

/-- The pattern of the group at its end. -/
def closed (group : OpenGroup) : ValuePattern := anyOf (group.choice :: group.choices).reverse

end OpenGroup

/-- What has been read of a pattern. -/
structure Progress where
  /-- How it is understood from here on. -/
  modes : PatternModes := {}
  /-- The innermost group. -/
  group : OpenGroup := {}
  /-- The groups around it from the inside out. -/
  outer : List OpenGroup := []
  /-- The names of groups so far. -/
  names : List Text := []

namespace Progress

/-- One more part. -/
def add (progress : Progress) (part : ValuePattern) : Progress :=
  { progress with group := { progress.group with parts := some part :: progress.group.parts } }

/-- One more class. -/
def addClass (progress : Progress) (kind : CharClass) : Progress := progress.add (.one kind)

/-- One more character. -/
def addChar (progress : Progress) (c : Char) : Progress :=
  progress.addClass (progress.modes.folded (.single c))

/-- Other modes for the rest of the innermost group. -/
def change (progress : Progress) (modes : PatternModes) : Progress :=
  { progress with
    modes
    group := { progress.group with parts := none :: progress.group.parts } }

/-- A group that starts, with its own modes. -/
def enter (progress : Progress) (modes : PatternModes) : Progress :=
  { progress with
    modes
    group := { outside := progress.modes }
    outer := progress.group :: progress.outer }

/-- A group with a name that starts. -/
def enterNamed? (progress : Progress) (name : Text) : Option Progress :=
  let starts (c : Char) : Bool := c = '_' || isAlphabetic c
  let goesOn (c : Char) : Bool := c ∈ ['_', '.', '[', ']'] || isAlphanumeric c
  if name.head?.any starts && (name.drop 1).all goesOn && !progress.names.contains name then
    some { progress.enter progress.modes with names := name :: progress.names }
  else none

/-- The innermost group that ends. -/
def leave? (progress : Progress) : Option Progress :=
  match progress.outer with
  | [] => none
  | around :: outer =>
    some ({ progress with modes := progress.group.outside, group := around, outer }.add
      progress.group.closed)

end Progress

/-- The start of a group behind its parenthesis, or a change of the modes. -/
def groupStart (progress : Progress) : Reader Progress := do
  gap progress.modes
  match ← get with
  | '?' :: 'P' :: '<' :: rest | '?' :: '<' :: rest =>
    set rest
    let name ← allOf (· != '>')
    fixed ">"
    known (progress.enterNamed? name)
  | '?' :: rest =>
    set rest
    let change ← allOf fun c => c != ':' && c != ')'
    let modes ← known (progress.modes.changed? change)
    match ← any with
    | ':' => return progress.enter modes
    | _ => if change.isEmpty then failure else return progress.change modes
  | _ => return progress.enter progress.modes

/-- A repetition of the last part, which a question mark behind it makes reluctant. -/
def repetition (progress : Progress) (repeated : Bool → ValuePattern → ValuePattern) :
    Reader Progress := do
  match progress.group.parts with
  | some part :: parts =>
    let reluctant ← present '?'
    let greedy := reluctant == progress.modes.swapped
    return { progress with group := { progress.group with parts } }.add (repeated greedy part)
  | _ => failure

/-- One more piece of a pattern. -/
def piece (progress : Progress) : Reader Progress := do
  let modes := progress.modes
  match ← any with
  | '(' => groupStart progress
  | ')' => known progress.leave?
  | '|' => return { progress with group := progress.group.nextChoice }
  | '?' => repetition progress fun greedy part =>
    if greedy then .choice part .empty else .choice .empty part
  | '*' => repetition progress fun greedy part => .many greedy part
  | '+' => repetition progress fun greedy part => .sequence part (.many greedy part)
  | '\x7b' => failure
  | '[' => return progress.addClass (← bracketed modes)
  | '.' => if modes.allScripts then return progress.addClass modes.dot else failure
  | '^' => return progress.add (.edge modes.startEdge)
  | '$' => return progress.add (.edge modes.endEdge)
  | '\\' =>
    match ← escape modes with
    | .kind kind => return progress.addClass kind
    | .edge condition => return progress.add (.edge condition)
    | atom => return progress.addChar (← known (atom.char? modes))
  | c => return progress.addChar c

/-- The pieces of a pattern up to its end, each of which takes a character at least. -/
def pieces : Nat → Progress → Reader Progress
  | 0, progress => pure progress
  | bound + 1, progress => do
    gap progress.modes
    if (← get).isEmpty then return progress else pieces bound (← piece progress)

/-- A pattern, all groups of which are closed at its end. -/
def pattern : Reader ValuePattern := do
  let progress ← pieces (← get).length {}
  if progress.outer.isEmpty then return progress.group.closed else failure

end PatternReader

namespace ValuePattern

/-- Why a text is no pattern. -/
inductive Fault where
  /-- It does not have the form of one. -/
  | malformed
  /-- It asks for the edges of the words of all scripts, which cannot be told from one character
  to the next. -/
  | scriptEdge
  deriving DecidableEq, Repr

/-- The pattern that a text is written as. -/
def read (text : Text) : Except Fault ValuePattern :=
  match Reader.readAll? PatternReader.pattern text with
  | none => .error .malformed
  | some pattern => if pattern.asksForScripts then .error .scriptEdge else .ok pattern

end ValuePattern

end ScreenRetrofit.Log
