import ScreenRetrofit.Text.Basic

/-!
# Log levels

The five levels of a log message and their names. A name is read in capital or small letters, and
where a bound is asked for a number can stand for it.
-/

namespace ScreenRetrofit.Log

/-- How much a message matters, from the most to the least talkative. -/
inductive Level where
  | trace
  | debug
  | info
  | warn
  | error
  deriving DecidableEq, Repr

namespace Level

/-- How talkative a level is; a higher number lets more messages through. -/
def verbosity : Level → Nat
  | error => 1
  | warn => 2
  | info => 3
  | debug => 4
  | trace => 5

/-- The name of a level in capitals. -/
def name : Level → Text
  | trace => "TRACE".toList
  | debug => "DEBUG".toList
  | info => "INFO".toList
  | warn => "WARN".toList
  | error => "ERROR".toList

/-- All levels. -/
def all : List Level := [trace, debug, info, warn, error]

/-- The level with a name, in letters of either case. -/
def ofName? (name : Text) : Option Level :=
  all.find? fun level => Text.lowerAscii level.name = Text.lowerAscii name

/-- Every level is read from its own name. -/
theorem ofName?_name (level : Level) : ofName? level.name = some level := by
  cases level <;> rfl

/-- The number that digits stand for, which may have a plus sign in front. -/
def numberOf? (text : Text) : Option Nat :=
  let digits := (Text.after? ['+'] text).getD text
  if digits.isEmpty || !digits.all Char.isDigit then none
  else some (digits.foldl (fun value digit => 10 * value + (digit.toNat - '0'.toNat)) 0)

/-- How talkative a name of a level or one of the numbers from 0 to 5 lets sources be. -/
def verbosityOf? (name : Text) : Option Nat :=
  if Text.lowerAscii name = "off".toList then some 0
  else match numberOf? name with
    | some number => if number ≤ trace.verbosity then some number else none
    | none => (ofName? name).map verbosity

end Level

end ScreenRetrofit.Log
