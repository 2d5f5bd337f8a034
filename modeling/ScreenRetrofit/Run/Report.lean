import ScreenRetrofit.Run.Basic

/-!
# The report of a run

What a run tells the user: a banner, one line for each file, and a block of counts at the end.
-/

namespace ScreenRetrofit.Report

/-- The words that a run starts with. -/
def greeting : Text := "🎮 Updating games with video system...".toList

/-- The greeting and the newline that sets it apart. -/
def banner : Text := greeting ++ ['\n']

/-- The line on one file. -/
def fileLine (file : Text) : Outcome → Text
  | .updated => "✅ Updated: ".toList ++ file
  | .unchanged => "⏭️  Unchanged: ".toList ++ file
  | .missing => "❌ Missing: ".toList ++ file
  | .failed message => "❌ Error in ".toList ++ file ++ ": ".toList ++ message

/-- A count. -/
private def count (n : Nat) : Text := Nat.toDigits 10 n

/-- The block of counts: missing files are counted as errors and told apart if there are any. -/
def summary (summary : Summary) : Text :=
  let missing :=
    if summary.missing = 0 then [] else " (".toList ++ count summary.missing ++ " missing)".toList
  "\n📊 Summary:\n".toList ++
    "  ✅ Updated: ".toList ++ count summary.updated ++ ['\n'] ++
    "  ⏭️  Unchanged: ".toList ++ count summary.unchanged ++ ['\n'] ++
    "  ❌ Errors: ".toList ++ count summary.failures ++ missing ++ ['\n'] ++
    "  📁 Total: ".toList ++ count summary.total

/-- The lines on the files of a run. -/
def fileLines (run : Run) : List Text :=
  run.visits.map fun visit => fileLine visit.file visit.outcome

end ScreenRetrofit.Report
