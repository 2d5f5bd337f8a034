import ScreenRetrofit.Proofs.Screen.Edit

/-!
# Every edit is made once

In any run of the stages, in whatever order and however often each is applied, a stage rewrites
the screen at most once (`writes_at_most_once`). What carries this is that a stage which has
written is *done*: the screen has its mark, or, for build methods without a game area, none is
left to rewrite. A stage that is done leaves the screen alone (`Stage.Done.alone`), and no stage
undoes what another has done (`Stage.Done.after`).
-/

namespace ScreenRetrofit

namespace Screen

open Pattern (StandsIn Apart)

variable {source output : Text}

/-- A screen shows the video when both marks stand in it. -/
theorem showsVideo_iff : showsVideo source = true ↔
    StandsIn [.literal Template.widgetMark] source ∧
      StandsIn [.literal Template.showVideoMark] source := by
  rw [showsVideo, Bool.and_eq_true, Pattern.standsIn_literal, Pattern.standsIn_literal]

namespace Stage

/-- That a stage has nothing left to do on a screen, whatever the other stages do to it. -/
def Done : Stage → Text → Prop
  | insertImport, source => StandsIn [.literal Template.videoImport] source
  | insertHelper, source => StandsIn [.literal Template.helperMark] source
  | rewriteBuild, source =>
    showsVideo source = true ∨ ¬ Anchor.scaffoldBuild.pattern.StandsIn source

/-- A stage that is done leaves the screen alone. -/
theorem Done.alone {stage : Stage} (done : stage.Done source) :
    (stage.apply source).output = none := by
  cases stage with
  | insertImport =>
    exact insertImport_output_eq_none_iff.mpr (.inl (Pattern.standsIn_literal.mp done))
  | insertHelper =>
    exact insertHelper_output_eq_none_iff.mpr (.inl (Pattern.standsIn_literal.mp done))
  | rewriteBuild => exact rewriteBuild_output_eq_none_iff.mpr done

end Stage

/-- The row stands in a screen whose game area has been opened. -/
theorem standsIn_openRow (area : Anchor.gameArea.pattern.StandsIn source) :
    StandsIn [.literal Template.videoRow] ((openRow source).result source) := by
  rcases openRow_cases source with ⟨missing, _⟩ | ⟨area, _, ⟨_, course⟩ | ⟨closing, _, course⟩⟩
  · exact (missing area).elim
  · rw [course]
    exact ⟨area.before, _, area.after, rfl, Pattern.accepts_literal.mpr rfl⟩
  · rw [course]
    exact ⟨area.before, _, _, rfl, Pattern.accepts_literal.mpr rfl⟩

/-- Without a game area nothing is opened. -/
theorem openRow_of_missing (missing : ¬ Anchor.gameArea.pattern.StandsIn source) :
    (openRow source).result source = source := by
  rcases openRow_cases source with ⟨_, course⟩ | ⟨area, found, _⟩
  · rw [course]
    rfl
  · exact (missing (Anchor.gameArea_definite.standsIn found)).elim

/-- A second mark put in with the locals is there after the row has been opened. -/
theorem showVideoMark_openRow (stands : StandsIn [.literal Template.showVideoMark] source) :
    StandsIn [.literal Template.showVideoMark] ((openRow source).result source) := by
  have apart : ∀ change ∈ rowChanges, Apart [.literal Template.showVideoMark] change.cut :=
    Change.apart_cut Spelled.showVideoMark (by decide)
  exact (reaches_openRow source).standsIn apart stands

/-- With its locals no build method starts by returning a scaffold. -/
theorem not_standsIn_located (source : Text) : ¬ Anchor.scaffoldBuild.pattern.StandsIn
    (Anchor.scaffoldBuild.insertAtEach Template.buildLocals source) :=
  Anchor.scaffoldBuild_definite.not_standsIn_insertAtEach scaffoldBuild_closed rfl
    (Spelled.scaffoldBuild.apart Spelled.buildLocals (by decide)) source

/-- What a rewrite of build methods writes is the opened row of the screen with its locals. -/
theorem result_openRow_of_rewriteBuild (written : (rewriteBuild source).output = some output) :
    (openRow (Anchor.scaffoldBuild.insertAtEach Template.buildLocals source)).result
      (Anchor.scaffoldBuild.insertAtEach Template.buildLocals source) = output := by
  obtain ⟨_, _, course⟩ := exists_of_rewriteBuild written
  rw [course] at written
  exact Edited.result_of_some written

/-- A stage that has written is done. -/
theorem Stage.done_of_output {stage : Stage} (written : (stage.apply source).output = some output) :
    stage.Done output := by
  cases stage with
  | insertImport =>
    obtain ⟨left, right, _, rfl⟩ := exists_of_insertImport written
    exact ⟨left ++ ";\n".toList, _, ['\n'] ++ right, by simp [Template.videoImportLine],
      Pattern.accepts_literal.mpr rfl⟩
  | insertHelper =>
    obtain ⟨cut, _, rfl⟩ := exists_of_insertHelper written
    exact Template.helperMark_standsIn_helperMethod.trans
      ⟨cut.before, _, cut.found ++ cut.after, by simp, Pattern.accepts_literal.mpr rfl⟩
  | rewriteBuild =>
    rw [← result_openRow_of_rewriteBuild written]
    by_cases area : Anchor.gameArea.pattern.StandsIn
      (Anchor.scaffoldBuild.insertAtEach Template.buildLocals source)
    · obtain ⟨cut, found, _⟩ := exists_of_rewriteBuild written
      have locals := Anchor.scaffoldBuild_definite.standsIn_insertAtEach found Template.buildLocals
      exact .inl (showsVideo_iff.mpr
        ⟨Template.widgetMark_standsIn_videoRow.trans (standsIn_openRow area),
          showVideoMark_openRow (Template.showVideoMark_standsIn_buildLocals.trans locals)⟩)
    · rw [openRow_of_missing area]
      exact .inr (not_standsIn_located source)

/-- The import is apart from all that the other stages cut. -/
theorem videoImport_apart_cut {stage : Stage} (other : stage ≠ .insertImport) :
    ∀ change ∈ stage.changes, Apart [.literal Template.videoImport] change.cut := by
  cases stage with
  | insertImport => contradiction
  | insertHelper => exact Change.apart_cut Spelled.videoImport (by decide)
  | rewriteBuild => exact Change.apart_cut Spelled.videoImport (by decide)

/-- The mark of the helper is there after build methods have been rewritten. A closing may take
the parenthesis that ends it, but only where the row brings it in anew. -/
theorem helperMark_rewriteBuild (stands : StandsIn [.literal Template.helperMark] source) :
    StandsIn [.literal Template.helperMark] (Stage.rewriteBuild.after source) := by
  cases written : (Stage.rewriteBuild.apply source).output with
  | none => rwa [Stage.after_of_none written]
  | some output =>
    rw [Stage.after_of_some written, ← result_openRow_of_rewriteBuild written]
    by_cases area : Anchor.gameArea.pattern.StandsIn
      (Anchor.scaffoldBuild.insertAtEach Template.buildLocals source)
    · exact Template.helperMark_standsIn_videoRow.trans (standsIn_openRow area)
    · have apart : ∀ change ∈ [localsChange], Apart [.literal Template.helperMark] change.cut :=
        Change.apart_cut Spelled.helperMark (by decide)
      rw [openRow_of_missing area]
      exact (reaches_located source).standsIn apart stands

/-- The marks of a screen that shows the video are apart from all that the other stages cut. -/
theorem marks_apart_cut {stage : Stage} (other : stage ≠ .rewriteBuild) :
    (∀ change ∈ stage.changes, Apart [.literal Template.widgetMark] change.cut) ∧
      ∀ change ∈ stage.changes, Apart [.literal Template.showVideoMark] change.cut := by
  cases stage with
  | rewriteBuild => contradiction
  | insertImport =>
    exact ⟨Change.apart_cut Spelled.widgetMark (by decide),
      Change.apart_cut Spelled.showVideoMark (by decide)⟩
  | insertHelper =>
    exact ⟨Change.apart_cut Spelled.widgetMark (by decide),
      Change.apart_cut Spelled.showVideoMark (by decide)⟩

/-- Build methods that return a scaffold are apart from all that the other stages bring. -/
theorem scaffoldBuild_apart_brought {stage : Stage} (other : stage ≠ .rewriteBuild) :
    ∀ change ∈ stage.changes, Apart Anchor.scaffoldBuild.pattern change.brought := by
  cases stage with
  | rewriteBuild => contradiction
  | insertImport => exact Change.apart_brought Spelled.scaffoldBuild (by decide)
  | insertHelper => exact Change.apart_brought Spelled.scaffoldBuild (by decide)

/-- No stage undoes what a stage has done. -/
theorem Stage.Done.after {stage : Stage} (done : stage.Done source) (other : Stage) :
    stage.Done (other.after source) := by
  by_cases same : other = stage
  · subst same
    rwa [after_of_none done.alone]
  · have reaches := other.reaches_after source
    cases stage with
    | insertImport => exact reaches.standsIn (videoImport_apart_cut same) done
    | insertHelper =>
      cases other with
      | insertImport =>
        exact reaches.standsIn (Change.apart_cut Spelled.helperMark (by decide)) done
      | insertHelper => contradiction
      | rewriteBuild => exact helperMark_rewriteBuild done
    | rewriteBuild =>
      rcases done with shown | missing
      · obtain ⟨widget, locals⟩ := showsVideo_iff.mp shown
        exact .inl (showsVideo_iff.mpr ⟨reaches.standsIn (marks_apart_cut same).1 widget,
          reaches.standsIn (marks_apart_cut same).2 locals⟩)
      · exact .inr fun stands =>
          missing (reaches.standsIn_back (scaffoldBuild_apart_brought same) stands)

/-- A run application by application: each stage with what it made of the screen at its turn. -/
def Pipeline.trace : Pipeline → Text → List (Stage × Edited)
  | [], _ => []
  | stage :: stages, source =>
    (stage, stage.apply source) :: trace stages (stage.after source)

/-- A run writes what its last application that writes does, and gives the notices of all. -/
theorem run_eq_trace (stages : Pipeline) (source : Text) :
    stages.run source = ⟨((stages.trace source).filterMap (·.2.output)).getLast?,
      (stages.trace source).flatMap (·.2.notices)⟩ := by
  induction stages generalizing source with
  | nil => rfl
  | cons stage stages ih =>
    rw [Pipeline.run, ih, Pipeline.trace, List.flatMap_cons, List.filterMap_cons]
    cases written : (stage.apply source).output with
    | none => simp [Stage.after]
    | some output =>
      rw [List.getLast?_cons, Stage.after]
      generalize ((Pipeline.trace stages _).filterMap _).getLast? = later
      cases later <;> rfl

/-- Whether an application of a stage rewrote the screen. -/
def wroteBy (stage : Stage) (step : Stage × Edited) : Bool :=
  step.1 == stage && step.2.output.isSome

/-- A stage that is done never writes again. -/
theorem countP_trace_of_done {stage : Stage} (stages : Pipeline) (done : stage.Done source) :
    (stages.trace source).countP (wroteBy stage) = 0 := by
  induction stages generalizing source with
  | nil => rfl
  | cons next stages ih =>
    have silent : wroteBy stage (next, next.apply source) = false := by
      by_cases same : next = stage
      · subst same
        simp [wroteBy, done.alone]
      · simp [wroteBy, same]
    rw [Pipeline.trace, List.countP_cons_of_neg (by simp [silent])]
    exact ih (done.after next)

/-- In a run a stage writes at most once. -/
theorem countP_trace_le_one (stages : Pipeline) (source : Text) (stage : Stage) :
    (stages.trace source).countP (wroteBy stage) ≤ 1 := by
  induction stages generalizing source with
  | nil => exact Nat.zero_le 1
  | cons next stages ih =>
    rw [Pipeline.trace]
    cases wrote : wroteBy stage (next, next.apply source) with
    | false =>
      rw [List.countP_cons_of_neg (by simp [wrote])]
      exact ih _
    | true =>
      simp only [wroteBy, Bool.and_eq_true, beq_iff_eq, Option.isSome_iff_exists] at wrote
      obtain ⟨rfl, output, written⟩ := wrote
      have never := countP_trace_of_done stages (Stage.done_of_output written)
      rw [List.countP_cons_of_pos (by simp [wroteBy, written]), Stage.after_of_some written]
      omega

/-- The applications that wrote are those of the three stages. -/
theorem countP_isSome_eq (steps : List (Stage × Edited)) :
    steps.countP (·.2.output.isSome) = steps.countP (wroteBy .insertImport) +
      steps.countP (wroteBy .insertHelper) + steps.countP (wroteBy .rewriteBuild) := by
  induction steps with
  | nil => rfl
  | cons step steps ih =>
    obtain ⟨stage, edited⟩ := step
    simp only [List.countP_cons, ih, wroteBy]
    cases stage <;> simp <;> omega

/-- Applied to its own result a stage leaves it alone. -/
theorem Stage.alone_after (stage : Stage) (source : Text) :
    (stage.apply (stage.after source)).output = none := by
  cases written : (stage.apply source).output with
  | none => rw [after_of_none written, written]
  | some output =>
    rw [after_of_some written]
    exact (done_of_output written).alone

/-- In any run of the stages each of them rewrites the screen at most once, so at most three
applications rewrite it; and applied to its own result a stage leaves it alone. -/
theorem writes_at_most_once (stages : Pipeline) (source : Text) :
    (∀ stage, (stages.trace source).countP (wroteBy stage) ≤ 1) ∧
      (stages.trace source).countP (·.2.output.isSome) ≤ 3 ∧
      ∀ stage : Stage, (stage.apply (stage.after source)).output = none := by
  have once := countP_trace_le_one stages source
  have imports := once .insertImport
  have helpers := once .insertHelper
  have builds := once .rewriteBuild
  refine ⟨once, ?_, fun stage => stage.alone_after source⟩
  rw [countP_isSome_eq]
  omega

end Screen

end ScreenRetrofit
