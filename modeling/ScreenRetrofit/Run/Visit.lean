import ScreenRetrofit.Run.Event
import ScreenRetrofit.Screen.Pipeline
import ScreenRetrofit.Store.Basic

/-!
# Visits

A visit to a file reads it, applies a pipeline, and writes the result back if it differs from
what was read. Every failure is part of the outcome.
-/

namespace ScreenRetrofit

/-- What a visit to one file came to. -/
structure Visit where
  /-- The name of the file. -/
  file : Text
  /-- Where the file was looked for. -/
  path : Path
  /-- What became of it. -/
  outcome : Outcome
  /-- What was logged on the way. -/
  log : List Event
  deriving DecidableEq, Repr

namespace Visit

/-- Visit the file with a name in a directory. -/
def perform {m : Type → Type} [Monad m] (store : Store m) (pipeline : Screen.Pipeline)
    (baseDir : Path) (file : Text) : m Visit := do
  let path := baseDir.join ⟨file⟩
  if ← store.isFile path then
    match ← store.read path with
    | .error fault => return ⟨file, path, .failed fault.message, []⟩
    | .ok source =>
      let edited := pipeline.run source
      let result := edited.result source
      let notices := edited.notices.map Event.remark
      if result = source then return ⟨file, path, .unchanged, notices⟩
      else match ← store.write path result with
        | .error fault => return ⟨file, path, .failed fault.message, notices⟩
        | .ok () =>
          let sizes := Event.wrote (Text.utf8Length source) (Text.utf8Length result)
          return ⟨file, path, .updated, notices ++ [sizes]⟩
  else return ⟨file, path, .missing, [.notRegular path]⟩

end Visit

end ScreenRetrofit
