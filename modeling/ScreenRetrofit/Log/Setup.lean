import ScreenRetrofit.Log.Level

/-!
# Log settings

What the flags of a call say about its log: how talkative it is, and whether messages name their
source.
-/

namespace ScreenRetrofit.Log

/-- What a log shows. -/
structure Setup where
  /-- The least important level shown. -/
  level : Level := .info
  /-- Whether a message names its source. -/
  showSource : Bool := false
  deriving DecidableEq, Repr

namespace Setup

/-- The level that a user asked for by name; a name of no level asks for `info`. -/
def levelOf (name : Text) : Level := (Level.ofName? name).getD .info

/-- What a user is told whose name of a level is none. -/
def complaint? (name : Text) : Option Text :=
  if (Level.ofName? name).isSome then none
  else some ("Invalid log level '".toList ++ name ++
    "', defaulting to INFO. Valid levels: trace, debug, info, warn, error".toList)

/-- The settings of a call: a named level wins over the verbose flag, and that over the quiet
flag. The verbose flag alone decides about sources. -/
def ofFlags (level? : Option Text) (verbose quiet : Bool) : Setup where
  level :=
    match level? with
    | some name => levelOf name
    | none => if verbose then .debug else if quiet then .error else .info
  showSource := verbose

/-- The settings with a level and nothing else said. -/
def ofLevel (level : Level) : Setup := { level := level }

end Setup

end ScreenRetrofit.Log
