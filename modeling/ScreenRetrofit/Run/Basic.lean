import ScreenRetrofit.Config.Basic
import ScreenRetrofit.Run.Visit

/-!
# Runs

A run visits every file of a configuration in order and never stops early. All that it reports
follows from its visits: the summary counts their outcomes, and the log holds, between the start
and the end of the run, the events of each group in order, every failure told once more after the
events of its own visit.
-/

namespace ScreenRetrofit

/-- The visits to the files of one group. -/
structure Run.GroupVisits where
  /-- The subject of the group. -/
  subject : Text
  /-- The visits in order. -/
  visits : List Visit
  deriving DecidableEq, Repr

/-- All that a run did. -/
structure Run where
  /-- The directory of the screens. -/
  baseDir : Path
  /-- The visits by group, in order. -/
  groups : List Run.GroupVisits
  deriving DecidableEq, Repr

namespace Run

/-- Visit every file of a configuration. -/
def perform {m : Type → Type} [Monad m] (store : Store m) (config : Config) : m Run := do
  let groups ← config.groups.mapM fun group => do
    let visits ← group.files.mapM (Visit.perform store Screen.Pipeline.videoRetrofit config.baseDir)
    return ⟨group.subject, visits⟩
  return ⟨config.baseDir, groups⟩

/-- All visits in order. -/
def visits (run : Run) : List Visit := run.groups.flatMap GroupVisits.visits

/-- How many visits had each kind of outcome. -/
def summary (run : Run) : Summary := .ofOutcomes (run.visits.map Visit.outcome)

/-- An event of a run, and the file whose visit it belongs to. -/
structure Entry where
  /-- The file that is being visited, if one is. -/
  file? : Option Text
  /-- What is logged. -/
  event : Event
  deriving DecidableEq, Repr

/-- What is logged of one visit: its own events, then its failure. -/
def visitLog (visit : Visit) : List Entry :=
  visit.log.map (⟨some visit.file, ·⟩) ++
    match visit.outcome with
    | .failed message => [⟨none, .failed visit.file message⟩]
    | _ => []

/-- What is logged of one group. -/
def groupLog (group : GroupVisits) : List Entry :=
  ⟨none, .group group.subject group.visits.length⟩ :: group.visits.flatMap visitLog

/-- What a run logs. -/
def log (run : Run) : List Entry :=
  ⟨none, .started run.baseDir run.visits.length⟩ :: run.groups.flatMap groupLog ++
    [⟨none, .finished run.summary⟩]

end Run

end ScreenRetrofit
