import ScreenRetrofit.Text.Basic

/-!
# Outcomes

What became of one file, and how many files had each kind of outcome.
-/

namespace ScreenRetrofit

/-- What became of one file. -/
inductive Outcome where
  /-- The file was rewritten. -/
  | updated
  /-- The file was left as it is. -/
  | unchanged
  /-- There is no such file. -/
  | missing
  /-- The file could not be read or written. -/
  | failed (message : Text)
  deriving DecidableEq, Repr

/-- The words for an outcome. -/
def Outcome.describe : Outcome → Text
  | updated => "updated".toList
  | unchanged => "unchanged".toList
  | missing => "missing".toList
  | failed message => "error: ".toList ++ message

/-- How many files had each kind of outcome. -/
structure Summary where
  /-- Files rewritten. -/
  updated : Nat := 0
  /-- Files left as they are. -/
  unchanged : Nat := 0
  /-- Files that are not there. -/
  missing : Nat := 0
  /-- Files that could not be read or written. -/
  errors : Nat := 0
  deriving DecidableEq, Repr

namespace Summary

/-- Count one more outcome. -/
def record (summary : Summary) : Outcome → Summary
  | .updated => { summary with updated := summary.updated + 1 }
  | .unchanged => { summary with unchanged := summary.unchanged + 1 }
  | .missing => { summary with missing := summary.missing + 1 }
  | .failed _ => { summary with errors := summary.errors + 1 }

/-- The counts of a list of outcomes. -/
def ofOutcomes (outcomes : List Outcome) : Summary := outcomes.foldl record {}

/-- The files that a user is told of as errors: the missing ones are among them. -/
def failures (summary : Summary) : Nat := summary.errors + summary.missing

/-- All files counted. -/
def total (summary : Summary) : Nat :=
  summary.updated + summary.unchanged + summary.missing + summary.errors

/-- One more outcome adds one to the total, whatever it is. -/
theorem total_record (summary : Summary) (outcome : Outcome) :
    (summary.record outcome).total = summary.total + 1 := by
  cases outcome <;> simp only [record, total] <;> omega

end Summary

end ScreenRetrofit
