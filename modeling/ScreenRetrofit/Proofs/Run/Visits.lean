import ScreenRetrofit.Run.Basic

/-!
# Runs as their visits

The groups of a configuration order the log of a run and nothing else: over any store the visits of
a run are those to the files in order (`visits_perform`), and its summary counts their outcomes
(`Summary.ofOutcomes_eq`), in whatever order they came.
-/

namespace ScreenRetrofit

/-- Whether a file could not be read or written. -/
def Outcome.isFailed : Outcome → Bool
  | failed _ => true
  | _ => false

namespace Summary

/-- Counting outcomes adds to each count as many as there are of its kind. -/
theorem foldl_record (outcomes : List Outcome) (summary : Summary) :
    outcomes.foldl record summary =
      ⟨summary.updated + outcomes.count .updated, summary.unchanged + outcomes.count .unchanged,
        summary.missing + outcomes.count .missing,
        summary.errors + outcomes.countP Outcome.isFailed⟩ := by
  induction outcomes generalizing summary with
  | nil => rfl
  | cons outcome outcomes ih =>
    rw [List.foldl_cons, ih]
    cases outcome <;> simp [record, Outcome.isFailed, List.countP_cons] <;> omega

/-- A summary has as many of each kind as there are outcomes of it. -/
theorem ofOutcomes_eq (outcomes : List Outcome) : ofOutcomes outcomes =
    ⟨outcomes.count .updated, outcomes.count .unchanged, outcomes.count .missing,
      outcomes.countP Outcome.isFailed⟩ := by
  rw [ofOutcomes, foldl_record]
  simp

/-- The order of outcomes does not show in their summary. -/
theorem ofOutcomes_eq_of_perm {outcomes outcomes' : List Outcome}
    (perm : outcomes.Perm outcomes') : ofOutcomes outcomes = ofOutcomes outcomes' := by
  simp only [ofOutcomes_eq, perm.count_eq, perm.countP_eq]

end Summary

namespace Run

/-- Work done on the files of groups, group by group, is work done on all files in order. -/
theorem flatMap_visits_mapM {m : Type → Type} [Monad m] [LawfulMonad m] (visit : Text → m Visit)
    (groups : List Config.Group) :
    (List.flatMap GroupVisits.visits <$> groups.mapM fun group => do
      let visits ← group.files.mapM visit
      return ⟨group.subject, visits⟩) = (groups.flatMap Config.Group.files).mapM visit := by
  induction groups with
  | nil => simp
  | cons group groups ih =>
    rw [List.flatMap_cons, List.mapM_append, ← ih]
    simp [List.mapM_cons]

/-- The visits of a run are those to the files in order. -/
theorem visits_perform {m : Type → Type} [Monad m] [LawfulMonad m] (store : Store m)
    (config : Config) : visits <$> perform store config =
      config.files.mapM (Visit.perform store Screen.Pipeline.videoRetrofit config.baseDir) := by
  rw [Config.files, ← flatMap_visits_mapM]
  simp [perform, visits]

end Run

end ScreenRetrofit
