import ScreenRetrofit.Proofs.Screen.Once

/-!
# Running a retrofit again

Of the three stages only the import can have something left to do after a retrofit, and
`insertImport_retrofit_iff` says when: the screen had neither the video's import nor any other
import, and the retrofit made one. An unfinished `import` is enough, since every template ends
statements of its own with a semicolon and a newline. Then a second retrofit differs from the
first (`retrofit_retrofit_eq_iff`), and a third never differs from the second.
-/

namespace ScreenRetrofit.Screen

open Text (occursIn)
open Pattern (StandsIn Apart)

variable {source output : Text}

/-- The source of a screen after the whole retrofit. -/
def retrofit (source : Text) : Text := (Pipeline.videoRetrofit.run source).result source

/-- The retrofit is the import, then the helper, then the build methods. -/
theorem retrofit_eq (source : Text) : retrofit source =
    Stage.rewriteBuild.after (Stage.insertHelper.after (Stage.insertImport.after source)) :=
  Pipeline.result_run Pipeline.videoRetrofit source

set_option maxRecDepth 8000 in
/-- The import of the video comes from its own stage alone. -/
theorem videoImport_apart_brought {stage : Stage} (other : stage ≠ .insertImport) :
    ∀ change ∈ stage.changes, Apart [.literal Template.videoImport] change.brought := by
  cases stage with
  | insertImport => contradiction
  | insertHelper => exact Change.apart_brought Spelled.videoImport (by decide)
  | rewriteBuild => exact Change.apart_brought Spelled.videoImport (by decide)

/-- With the video's import before the last two stages it is there after them. -/
theorem videoImport_retrofit
    (stands : StandsIn [.literal Template.videoImport] (Stage.insertImport.after source)) :
    StandsIn [.literal Template.videoImport] (retrofit source) := by
  have done : Stage.insertImport.Done (Stage.insertImport.after source) := stands
  rw [retrofit_eq]
  exact (done.after .insertHelper).after .rewriteBuild

/-- A screen whose import stage had nothing to put in or to put it after has no import of the video
after the retrofit. -/
theorem not_videoImport_retrofit (unmarked : ¬ StandsIn [.literal Template.videoImport] source)
    (missing : ¬ Anchor.importLine.pattern.StandsIn source) :
    ¬ StandsIn [.literal Template.videoImport] (retrofit source) := by
  have alone : Stage.insertImport.after source = source :=
    Stage.after_of_none (insertImport_output_eq_none_iff.mpr (.inr missing))
  rw [retrofit_eq, alone]
  intro stands
  have helped := (Stage.reaches_after .rewriteBuild _).standsIn_back
    (videoImport_apart_brought (by decide)) stands
  exact unmarked ((Stage.reaches_after .insertHelper source).standsIn_back
    (videoImport_apart_brought (by decide)) helped)

/-- Rewriting build methods gives the helper's stage nothing to do. -/
theorem insertHelper_after_rewriteBuild (alone : (insertHelper source).output = none) :
    (insertHelper (Stage.rewriteBuild.after source)).output = none := by
  rcases insertHelper_output_eq_none_iff.mp alone with marked | missing
  · have done : Stage.insertHelper.Done source := Pattern.standsIn_literal.mpr marked
    exact (done.after .rewriteBuild).alone
  · cases written : (Stage.rewriteBuild.apply source).output with
    | none => rwa [Stage.after_of_none written]
    | some output =>
      rw [Stage.after_of_some written, ← result_openRow_of_rewriteBuild written]
      by_cases area : Anchor.gameArea.pattern.StandsIn
        (Anchor.scaffoldBuild.insertAtEach Template.buildLocals source)
      · have done : Stage.insertHelper.Done _ :=
          Template.helperMark_standsIn_videoRow.trans (standsIn_openRow area)
        exact done.alone
      · have apart : ∀ change ∈ [localsChange], Apart Anchor.memberBuild.pattern change.brought :=
          Change.apart_brought Spelled.memberBuild (by decide)
        rw [openRow_of_missing area]
        exact insertHelper_output_eq_none_iff.mpr (.inr fun stands =>
          missing ((reaches_located source).standsIn_back apart stands))

/-- After a retrofit the helper's stage has nothing to do. -/
theorem insertHelper_retrofit (source : Text) : (insertHelper (retrofit source)).output = none := by
  rw [retrofit_eq]
  exact insertHelper_after_rewriteBuild (Stage.insertHelper.alone_after _)

/-- After a retrofit the stage of the build methods has nothing to do. -/
theorem rewriteBuild_retrofit (source : Text) : (rewriteBuild (retrofit source)).output = none := by
  rw [retrofit_eq]
  exact Stage.rewriteBuild.alone_after _

/-- After a retrofit the import has something left to do exactly when the screen had no import and
has one now. -/
theorem insertImport_retrofit_iff (source : Text) :
    (insertImport (retrofit source)).output ≠ none ↔
      occursIn Template.videoImport source = false ∧
        ¬ Anchor.importLine.pattern.StandsIn source ∧
          Anchor.importLine.pattern.StandsIn (retrofit source) := by
  rw [Ne, insertImport_output_eq_none_iff, not_or, Classical.not_not, ← Pattern.standsIn_literal,
    ← Bool.not_eq_true, ← Pattern.standsIn_literal]
  constructor
  · rintro ⟨unmarked, made⟩
    have before : ¬ StandsIn [.literal Template.videoImport] (Stage.insertImport.after source) :=
      fun stands => unmarked (videoImport_retrofit stands)
    cases written : (Stage.insertImport.apply source).output with
    | some output =>
      rw [Stage.after_of_some written] at before
      exact (before (Stage.done_of_output written)).elim
    | none =>
      rw [Stage.after_of_none written] at before
      refine ⟨before, ?_, made⟩
      rcases insertImport_output_eq_none_iff.mp written with marked | missing
      · exact (before (Pattern.standsIn_literal.mpr marked)).elim
      · exact missing
  · rintro ⟨unmarked, missing, made⟩
    exact ⟨not_videoImport_retrofit unmarked missing, made⟩

/-- A screen that every stage leaves alone is left alone by every pipeline. -/
theorem run_output_eq_none (alone : ∀ stage : Stage, (stage.apply source).output = none)
    (stages : Pipeline) : (stages.run source).output = none := by
  induction stages with
  | nil => rfl
  | cons stage stages ih =>
    rw [Pipeline.run, Edited.result_of_none (alone stage)]
    simp [ih, alone stage]

/-- After a retrofit that leaves the import nothing to do every pipeline leaves the screen
alone. -/
theorem run_retrofit (alone : (insertImport (retrofit source)).output = none) (stages : Pipeline) :
    (stages.run (retrofit source)).output = none := by
  refine run_output_eq_none (fun stage => ?_) stages
  cases stage with
  | insertImport => exact alone
  | insertHelper => exact insertHelper_retrofit source
  | rewriteBuild => exact rewriteBuild_retrofit source

/-- A second retrofit that leaves the import nothing to do changes nothing. -/
theorem retrofit_of_alone (alone : (insertImport (retrofit source)).output = none) :
    retrofit (retrofit source) = retrofit source :=
  Edited.result_of_none (run_retrofit alone _)

/-- After a retrofit of a screen that had the video's import or any other, the import has nothing
left to do. -/
theorem insertImport_retrofit_of_import (imported : occursIn Template.videoImport source = true ∨
    Anchor.importLine.pattern.StandsIn source) :
    (insertImport (retrofit source)).output = none := by
  refine Classical.not_not.mp fun left => ?_
  obtain ⟨unmarked, missing, _⟩ := (insertImport_retrofit_iff source).mp left
  rcases imported with marked | stands
  · rw [unmarked] at marked
    contradiction
  · exact missing stands

/-- When the screen had no import and the retrofit made one, a second retrofit puts in the import
of the video, which the first did not. -/
theorem retrofit_retrofit_ne (unmarked : occursIn Template.videoImport source = false)
    (missing : ¬ Anchor.importLine.pattern.StandsIn source)
    (made : Anchor.importLine.pattern.StandsIn (retrofit source)) :
    retrofit (retrofit source) ≠ retrofit source := by
  have writes : (Stage.insertImport.apply (retrofit source)).output ≠ none :=
    (insertImport_retrofit_iff source).mpr ⟨unmarked, missing, made⟩
  obtain ⟨output, written⟩ := Option.ne_none_iff_exists'.mp writes
  have marked : StandsIn [.literal Template.videoImport]
      (Stage.insertImport.after (retrofit source)) := by
    rw [Stage.after_of_some written]
    exact Stage.done_of_output written
  intro same
  have again := videoImport_retrofit marked
  rw [same] at again
  rw [← Bool.not_eq_true, ← Pattern.standsIn_literal] at unmarked
  exact not_videoImport_retrofit unmarked missing again

/-- What a rerun does. The helper and the build methods are left alone. The import is put in
exactly when the screen had none and the retrofit made one; so after the retrofit of a screen with
an import every pipeline leaves the screen alone. -/
theorem rerun_retrofit (source : Text) :
    (insertHelper (retrofit source)).output = none ∧
      (rewriteBuild (retrofit source)).output = none ∧
      ((insertImport (retrofit source)).output ≠ none ↔
        occursIn Template.videoImport source = false ∧
          ¬ Anchor.importLine.pattern.StandsIn source ∧
            Anchor.importLine.pattern.StandsIn (retrofit source)) ∧
      (occursIn Template.videoImport source = true ∨ Anchor.importLine.pattern.StandsIn source →
        ∀ stages : Pipeline, (stages.run (retrofit source)).output = none) :=
  ⟨insertHelper_retrofit source, rewriteBuild_retrofit source, insertImport_retrofit_iff source,
    fun imported => run_retrofit (insertImport_retrofit_of_import imported)⟩

/-- A screen with a finished import above its build method, which returns a scaffold. -/
def finishedImport : Text :=
  "import a;\n  @override\n  Widget build(BuildContext context) \x7breturn Scaffold(".toList

/-- The screen with the finished import is left alone after its retrofit, though the retrofit has
work for every stage. -/
theorem rerun_retrofit_finishedImport : Anchor.importLine.pattern.StandsIn finishedImport ∧
    ∀ stages : Pipeline, (stages.run (retrofit finishedImport)).output = none := by
  have stands : Anchor.importLine.pattern.StandsIn finishedImport :=
    Anchor.importLine_definite.find?_isSome_iff.mp (by decide)
  exact ⟨stands, (rerun_retrofit finishedImport).2.2.2 (.inr stands)⟩

/-- A second retrofit changes nothing exactly when the screen had an import or the first made none.
A third never changes anything. -/
theorem retrofit_retrofit_eq_iff (source : Text) :
    (retrofit (retrofit source) = retrofit source ↔
      occursIn Template.videoImport source = true ∨ Anchor.importLine.pattern.StandsIn source ∨
        ¬ Anchor.importLine.pattern.StandsIn (retrofit source)) ∧
      retrofit (retrofit (retrofit source)) = retrofit (retrofit source) := by
  constructor
  · constructor
    · intro same
      by_cases marked : occursIn Template.videoImport source = true
      · exact .inl marked
      · refine .inr (Classical.or_iff_not_imp_left.mpr fun missing made => ?_)
        exact retrofit_retrofit_ne ((Bool.not_eq_true _).mp marked) missing made same
    · rintro (marked | stands | unmade)
      · exact retrofit_of_alone (insertImport_retrofit_of_import (.inl marked))
      · exact retrofit_of_alone (insertImport_retrofit_of_import (.inr stands))
      · exact retrofit_of_alone (insertImport_output_eq_none_iff.mpr (.inr unmade))
  · by_cases alone : (insertImport (retrofit source)).output = none
    · rw [retrofit_of_alone alone, retrofit_of_alone alone]
    · obtain ⟨_, _, made⟩ := (insertImport_retrofit_iff source).mp alone
      exact retrofit_of_alone (insertImport_retrofit_of_import (.inr made))

/-- On a screen with no import, where no build method returns a scaffold, the retrofit is the helper
alone. -/
theorem retrofit_of_missing (missing : ¬ Anchor.importLine.pattern.StandsIn source)
    (bare : ¬ Anchor.scaffoldBuild.pattern.StandsIn source) :
    retrofit source = Stage.insertHelper.after source := by
  have imports : Stage.insertImport.after source = source :=
    Stage.after_of_none (insertImport_output_eq_none_iff.mpr (.inr missing))
  have still : ¬ Anchor.scaffoldBuild.pattern.StandsIn (Stage.insertHelper.after source) :=
    fun stands => bare ((Stage.reaches_after .insertHelper source).standsIn_back
      (scaffoldBuild_apart_brought (by decide)) stands)
  rw [retrofit_eq, imports]
  exact Stage.after_of_none (rewriteBuild_output_eq_none_iff.mpr (.inr still))

set_option maxRecDepth 2000 in
/-- The first semicolon of the helper method finishes an import in front of it. -/
theorem importLine_standsIn_helperMethod (after : Text) : Anchor.importLine.pattern.StandsIn
    ("import a".toList ++ Template.helperMethod ++ after) := by
  refine Pattern.StandsIn.append_right ?_ after
  refine Anchor.importLine_definite.find?_isSome_iff.mp ?_
  exact Text.of_literal (motive := fun helper =>
    (Anchor.importLine.find? ("import a".toList ++ helper)).isSome = true) rfl (by decide)

/-- A screen with an unfinished import above its build method. -/
def unfinishedImport : Text :=
  "import a\n  @override\n  Widget build(BuildContext context)".toList

/-- A second retrofit of the screen with the unfinished import is not the same as the first, whose
helper finishes the import. -/
theorem retrofit_retrofit_unfinishedImport_ne :
    retrofit (retrofit unfinishedImport) ≠ retrofit unfinishedImport := by
  have missing : ¬ Anchor.importLine.pattern.StandsIn unfinishedImport :=
    Anchor.importLine_definite.find?_eq_none_iff.mp (by decide)
  have bare : ¬ Anchor.scaffoldBuild.pattern.StandsIn unfinishedImport :=
    Anchor.scaffoldBuild_definite.find?_eq_none_iff.mp (by decide)
  have helped : ∃ after, Stage.insertHelper.after unfinishedImport =
      "import a".toList ++ Template.helperMethod ++ after := by
    have unmarked : occursIn Template.helperMark unfinishedImport = false := by decide
    have found : Anchor.memberBuild.find? unfinishedImport = some ⟨"import a".toList, [],
        "\n  @override\n  Widget build(BuildContext context)".toList, []⟩ := by decide
    rw [Stage.after, Stage.apply, insertHelper, unmarked, found]
    exact ⟨_, List.append_assoc _ _ _⟩
  have made : Anchor.importLine.pattern.StandsIn (retrofit unfinishedImport) := by
    obtain ⟨after, whole⟩ := helped
    rw [retrofit_of_missing missing bare, whole]
    exact importLine_standsIn_helperMethod after
  exact retrofit_retrofit_ne (by decide) missing made

end ScreenRetrofit.Screen
