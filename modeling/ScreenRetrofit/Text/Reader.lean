import ScreenRetrofit.Text.Basic

/-!
# Readers

A reader takes a value from the front of a text and leaves the rest, or fails. A failed reader
takes nothing, so another one can be tried in its place. Repetition is bounded by the length of
what is left, which every repetition that takes something stays within.
-/

namespace ScreenRetrofit.Text

/-- Takes a value from the front of a text. -/
abbrev Reader := StateT Text Option

namespace Reader

/-- The next character, if it is of a kind. -/
def one (kind : Char → Bool) : Reader Char := fun text =>
  match text with
  | [] => none
  | c :: rest => if kind c then some (c, rest) else none

/-- The next character. -/
def any : Reader Char := one fun _ => true

/-- A fixed text. -/
def fixed (expected : String) : Reader Unit := fun text =>
  (Text.after? expected.toList text).map ((), ·)

/-- All characters of a kind up to the first other one. -/
def allOf (kind : Char → Bool) : Reader Text := fun text =>
  some (text.takeWhile kind, text.dropWhile kind)

/-- An exact number of characters of a kind. -/
def exactly (kind : Char → Bool) : Nat → Reader Text
  | 0 => pure []
  | count + 1 => do
    let c ← one kind
    return c :: (← exactly kind count)

/-- A value as often as it can be read, up to a bound. -/
def upTo {α : Type} (reader : Reader α) : Nat → Reader (List α)
  | 0 => pure []
  | bound + 1 =>
    (do
      let value ← reader
      return value :: (← upTo reader bound)) <|> pure []

/-- A value as often as it can be read. -/
def many {α : Type} (reader : Reader α) : Reader (List α) := do
  upTo reader (← get).length

/-- Values with separators between them, at least one. -/
def separated {α : Type} (reader : Reader α) (separator : Reader Unit) : Reader (List α) := do
  let first ← reader
  return first :: (← many (separator *> reader))

/-- Nothing, at the end of the text. -/
def finished : Reader Unit := fun text => if text = [] then some ((), []) else none

/-- Nothing, or a value left out. -/
def skip {α : Type} (reader : Reader α) : Reader Unit := (reader *> pure ()) <|> pure ()

/-- Whether a character comes next, which is taken then. -/
def present (c : Char) : Reader Bool := (one (· = c) *> pure true) <|> pure false

/-- What a reader makes of a whole text. -/
def readAll? {α : Type} (reader : Reader α) (text : Text) : Option α :=
  (StateT.run (reader <* finished) text).map Prod.fst

end Reader

/-- A digit of base 16. -/
def isHexDigit (c : Char) : Bool :=
  c.isDigit || ('a' ≤ c && c ≤ 'f') || ('A' ≤ c && c ≤ 'F')

/-- The value of a digit of any base up to 16. -/
def digitValue (c : Char) : Nat :=
  if c.isDigit then c.toNat - '0'.toNat
  else if 'a' ≤ c then c.toNat - 'a'.toNat + 10
  else c.toNat - 'A'.toNat + 10

/-- The number that digits of a base stand for. -/
def numeral (base : Nat) (digits : Text) : Nat :=
  digits.foldl (fun value digit => base * value + digitValue digit) 0

end ScreenRetrofit.Text
