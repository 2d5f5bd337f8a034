import ScreenRetrofit.Proofs.Screen.Once

/-!
# What a run changes

A run leaves a screen alone exactly when the screen comes out as it went in, so an output is always
a change (`run_changes`). An edit can therefore not be taken back by the edits after it. The witness
of this is the first stage that writes: it is not done before, it is done after its edit, and what
is done stays done to the end of the run (`Stage.Done.foldl`).
-/

namespace ScreenRetrofit.Screen

variable {source output : Text}

/-- A stage that writes was not done before. -/
theorem Stage.not_done_of_output {stage : Stage}
    (written : (stage.apply source).output = some output) : ¬ stage.Done source := by
  intro done
  rw [done.alone] at written
  contradiction

/-- What a stage has done is done after every run that follows. -/
theorem Stage.Done.foldl {stage : Stage} (done : stage.Done source) (stages : Pipeline) :
    stage.Done (stages.foldl (fun current next => next.after current) source) := by
  induction stages generalizing source with
  | nil => exact done
  | cons next stages ih => exact ih (done.after next)

/-- A run leaves a screen alone exactly when each application does. -/
theorem run_output_eq_none_iff (stages : Pipeline) (source : Text) :
    (stages.run source).output = none ↔ ∀ step ∈ stages.trace source, step.2.output = none := by
  rw [run_eq_trace, List.getLast?_eq_none_iff, List.filterMap_eq_nil_iff]

/-- A run in which a stage writes does not end with the screen that it started from. -/
theorem foldl_ne_of_written (stages : Pipeline)
    (wrote : ∃ step ∈ stages.trace source, step.2.output ≠ none) :
    stages.foldl (fun current stage => stage.after current) source ≠ source := by
  induction stages generalizing source with
  | nil =>
    obtain ⟨_, member, _⟩ := wrote
    contradiction
  | cons stage stages ih =>
    rw [List.foldl_cons]
    cases written : (stage.apply source).output with
    | some output =>
      have done := (Stage.done_of_output written).foldl stages
      rw [Stage.after_of_some written]
      intro same
      rw [same] at done
      exact Stage.not_done_of_output written done
    | none =>
      obtain ⟨step, member, wrote⟩ := wrote
      rw [Pipeline.trace, Stage.after_of_none written] at member
      rw [Stage.after_of_none written]
      rcases List.mem_cons.mp member with rfl | later
      · exact (wrote written).elim
      · exact ih ⟨step, later, wrote⟩

/-- A run makes of a screen what its stages make of it one after the other, and leaves it alone
exactly when that is the screen itself. So the edits of a run never cancel out: where any of its
applications writes, the screen is another one at the end. -/
theorem run_changes (stages : Pipeline) (source : Text) :
    (stages.run source).result source =
        stages.foldl (fun current stage => stage.after current) source ∧
      ((stages.run source).output = none ↔
        stages.foldl (fun current stage => stage.after current) source = source) ∧
      ((∃ step ∈ stages.trace source, step.2.output ≠ none) →
        stages.foldl (fun current stage => stage.after current) source ≠ source) := by
  have fold : (stages.run source).result source =
      stages.foldl (fun current stage => stage.after current) source :=
    Pipeline.result_run stages source
  refine ⟨fold, ?_, foldl_ne_of_written stages⟩
  constructor
  · intro alone
    rw [← fold, Edited.result_of_none alone]
  · intro same
    rw [run_output_eq_none_iff]
    intro step member
    cases wrote : step.2.output with
    | none => rfl
    | some output =>
      have writes : step.2.output ≠ none := by simp [wrote]
      exact (foldl_ne_of_written stages ⟨step, member, writes⟩ same).elim

end ScreenRetrofit.Screen
