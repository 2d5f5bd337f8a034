import ScreenRetrofit.CommandLine.Arguments
import ScreenRetrofit.CommandLine.Help
import ScreenRetrofit.CommandLine.Terminal

/-!
# Answers without a run

What the program says when its arguments ask for the help or the version, or are refused. A
question is answered with exit code 0; a refusal ends with exit code 2 and says how to go on.
-/

namespace ScreenRetrofit.CommandLine.Refusal

/-- What is wrong with the arguments; a question has nothing wrong. What the user typed is quoted
as the medium shows it. -/
def fault? (medium : Medium) : Refusal → Option Text
  | help _ | version => none
  | unknown argument =>
    some ("unexpected argument '".toList ++ shown medium argument ++ "' found".toList)
  | noValue opt =>
    some ("a value is required for '".toList ++ opt.shown ++ "' but none was supplied".toList)
  | extraValue opt value =>
    some ("unexpected value '".toList ++ shown medium value ++ "' for '".toList ++ opt.shown ++
      "' found; no more were expected".toList)
  | repeated opt =>
    some ("the argument '".toList ++ opt.shown ++ "' cannot be used multiple times".toList)
  | conflict first second =>
    some ("the argument '".toList ++ first.shown ++ "' cannot be used with '".toList ++
      second.shown ++ ['\''])

/-- The text that a question is answered with. -/
def answer? : Refusal → Option Text
  | help long => some (helpText long)
  | version => some versionText
  | _ => none

/-- Everything that is said. -/
def message (medium : Medium) (refusal : Refusal) : Text :=
  match refusal.fault? medium with
  | none => refusal.answer?.getD []
  | some fault =>
    "error: ".toList ++ fault ++ "\n\n".toList ++ usage ++
      "\nFor more information, try '--help'.\n".toList

/-- The exit code. -/
def exitCode (refusal : Refusal) : Nat := if refusal.answer?.isSome then 0 else 2

end ScreenRetrofit.CommandLine.Refusal
