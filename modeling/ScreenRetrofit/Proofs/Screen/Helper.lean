import ScreenRetrofit.Proofs.Screen.Course
import ScreenRetrofit.Proofs.Screen.Rerun

/-!
# The call of the helper and its definition

The row beside a game area calls the helper method, and the two come in by different stages. The row
needs a build method that returns a scaffold, at any indentation (`videoRow_retrofit_iff`); the
helper needs one at the indentation of a class member, for without it there is no telling where the
class has its members (`helperMethod_retrofit_iff`).

So a retrofit that opens a row leaves its call undefined exactly on the screens without a build
method at that indentation. There the call itself stands as the mark of the helper, and no later run
defines it (`helperMethod_of_videoRow`). What tells the definition from the call is the type in
front of the name: only the helper's stage brings it in.
-/

namespace ScreenRetrofit

namespace Template

/-- The start of the helper method, which no call of it has. Without the brace the closing of a row
could finish one that was begun in front of it. -/
def helperSignature : Text := "GameVideoType _getCurrentVideoType() \x7b".toList

end Template

/-- The start of the helper method. -/
def Spelled.helperSignature : Pattern.Spelling [.literal Template.helperSignature] :=
  .literal rfl .nil

namespace Template

set_option maxRecDepth 2000 in
/-- The helper method starts with its signature. -/
theorem helperSignature_standsIn_helperMethod :
    Pattern.StandsIn [.literal helperSignature] helperMethod :=
  Pattern.standsIn_literal.mpr (Text.occursIn_of_literals rfl rfl (by decide))

/-- The signature has the mark of the helper method. -/
theorem helperMark_standsIn_helperSignature :
    Pattern.StandsIn [.literal helperMark] helperSignature :=
  Pattern.standsIn_literal.mpr (Text.occursIn_of_literals rfl rfl (by decide))

end Template

namespace Screen

open Text (occursIn)
open Pattern (StandsIn Apart Alike)

variable {source : Text}

/-- The signature of the helper comes from the helper's stage alone. -/
theorem helperSignature_apart_brought {stage : Stage} (other : stage ≠ .insertHelper) :
    ∀ change ∈ stage.changes, Apart [.literal Template.helperSignature] change.brought := by
  cases stage with
  | insertHelper => contradiction
  | insertImport => exact Change.apart_brought Spelled.helperSignature (by decide)
  | rewriteBuild => exact Change.apart_brought Spelled.helperSignature (by decide +kernel)

/-- Where the helper's stage has nothing to do no stage brings in its signature. -/
theorem not_helperSignature_after (idle : (Stage.insertHelper.apply source).output = none)
    (missing : ¬ StandsIn [.literal Template.helperSignature] source) (stage : Stage) :
    ¬ StandsIn [.literal Template.helperSignature] (stage.after source) := by
  by_cases helper : stage = .insertHelper
  · subst helper
    rwa [Stage.after_of_none idle]
  · intro stands
    exact missing ((stage.reaches_after source).standsIn_back
      (helperSignature_apart_brought helper) stands)

/-- Once the mark of the helper stands without its signature no run brings that in. -/
theorem not_helperSignature_foldl (done : Stage.insertHelper.Done source)
    (missing : ¬ StandsIn [.literal Template.helperSignature] source) (stages : Pipeline) :
    ¬ StandsIn [.literal Template.helperSignature]
      (stages.foldl (fun current stage => stage.after current) source) := by
  induction stages generalizing source with
  | nil => exact missing
  | cons stage stages ih =>
    exact ih (done.after stage) (not_helperSignature_after done.alone missing stage)

/-- A screen without the helper's signature has no helper method. -/
theorem occursIn_helperMethod_eq_false
    (missing : ¬ StandsIn [.literal Template.helperSignature] source) :
    occursIn Template.helperMethod source = false := by
  rw [← Bool.not_eq_true, ← Pattern.standsIn_literal]
  exact fun stands => missing (Template.helperSignature_standsIn_helperMethod.trans stands)

/-- The helper's stage rewrites a screen that has a build method of a class, and not the helper's
mark. -/
theorem exists_insertHelper (unmarked : occursIn Template.helperMark source = false)
    (member : Anchor.memberBuild.pattern.StandsIn source) :
    ∃ output, (insertHelper source).output = some output := by
  have writes : (insertHelper source).output ≠ none := by
    rw [Ne, insertHelper_output_eq_none_iff, unmarked]
    simp [member]
  exact Option.ne_none_iff_exists'.mp writes

/-- It does so behind the import as well. -/
theorem exists_insertHelper_imported (unmarked : occursIn Template.helperMark source = false)
    (member : Anchor.memberBuild.pattern.StandsIn source) :
    ∃ output, (insertHelper (Stage.insertImport.after source)).output = some output := by
  obtain ⟨output, written⟩ := exists_insertHelper unmarked member
  have writes : (insertHelper (Stage.insertImport.after source)).output ≠ none := by
    rw [Ne, insertHelper_alone_imported_iff, written]
    simp
  exact Option.ne_none_iff_exists'.mp writes

/-- The helper put in front of a build method stays there to the end of the retrofit. -/
theorem helperMethod_retrofit_of_memberBuild
    (unmarked : occursIn Template.helperMark source = false)
    (member : Anchor.memberBuild.pattern.StandsIn source) :
    StandsIn [.literal Template.helperMethod] (retrofit source) := by
  obtain ⟨output, written⟩ := exists_insertHelper_imported unmarked member
  obtain ⟨cut, _, whole⟩ := exists_of_insertHelper written
  have stands : StandsIn [.literal Template.helperMethod] output :=
    ⟨cut.before, _, cut.found ++ cut.after, by simp [whole], Pattern.accepts_literal.mpr rfl⟩
  have apart : ∀ change ∈ Stage.rewriteBuild.changes,
      Apart [.literal Template.helperMethod] change.cut :=
    Change.apart_cut Spelled.helperMethod (by decide +kernel)
  have helped : Stage.insertHelper.after (Stage.insertImport.after source) = output :=
    Stage.after_of_some written
  rw [retrofit_eq, helped]
  exact (Stage.reaches_after .rewriteBuild output).standsIn apart stands

/-- Without a build method to put the helper in front of, its signature is missing after the
retrofit as before. -/
theorem not_helperSignature_retrofit (unmarked : occursIn Template.helperMark source = false)
    (loose : ¬ Anchor.memberBuild.pattern.StandsIn source) :
    ¬ StandsIn [.literal Template.helperSignature] (retrofit source) := by
  have missing : ¬ StandsIn [.literal Template.helperSignature] source := by
    rw [← Bool.not_eq_true, ← Pattern.standsIn_literal] at unmarked
    exact fun stands => unmarked (Template.helperMark_standsIn_helperSignature.trans stands)
  -- The import brings in neither the signature nor a build method to put the helper in front of.
  have alone : (Stage.insertHelper.apply source).output = none :=
    insertHelper_output_eq_none_iff.mpr (.inr loose)
  have imported := not_helperSignature_after alone missing .insertImport
  have still : (Stage.insertHelper.apply (Stage.insertImport.after source)).output = none :=
    (insertHelper_alone_imported_iff source).mpr alone
  rw [retrofit_eq, Stage.after_of_none still]
  exact not_helperSignature_after still imported .rewriteBuild

/-- Of the screens without its mark a retrofit gives the helper to those with a build method at the
indentation of a class member, and to no others. -/
theorem helperMethod_retrofit_iff (unmarked : occursIn Template.helperMark source = false) :
    occursIn Template.helperMethod (retrofit source) = true ↔
      Anchor.memberBuild.pattern.StandsIn source := by
  constructor
  · intro defined
    refine Classical.not_not.mp fun loose => ?_
    rw [occursIn_helperMethod_eq_false (not_helperSignature_retrofit unmarked loose)] at defined
    contradiction
  · intro member
    exact Pattern.standsIn_literal.mp (helperMethod_retrofit_of_memberBuild unmarked member)

/-- The row comes in for a game area and by no other change. -/
theorem videoRow_apart_brought : ∀ change ∈ [importChange, helperChange, localsChange],
    Apart [.literal Template.videoRow] change.brought :=
  Change.apart_brought Spelled.videoRow (by decide +kernel)

/-- A rewrite of build methods brings a row in exactly when it finds a build method and a game area
on a screen that does not show the video. -/
theorem videoRow_rewriteBuild_iff (missing : ¬ StandsIn [.literal Template.videoRow] source) :
    StandsIn [.literal Template.videoRow] (Stage.rewriteBuild.after source) ↔
      showsVideo source = false ∧ Anchor.scaffoldBuild.pattern.StandsIn source ∧
        Anchor.gameArea.pattern.StandsIn source := by
  have located : Anchor.gameArea.pattern.StandsIn
      (Anchor.scaffoldBuild.insertAtEach Template.buildLocals source) ↔
        Anchor.gameArea.pattern.StandsIn source :=
    (located_alike source).standsIn_iff (by simp)
  cases written : (Stage.rewriteBuild.apply source).output with
  | none =>
    have alone := rewriteBuild_output_eq_none_iff.mp written
    rw [Stage.after_of_none written]
    simp only [missing, false_iff, not_and]
    intro unshown build
    simp [unshown, build] at alone
  | some output =>
    have writes : (rewriteBuild source).output ≠ none := Option.ne_none_iff_exists'.mpr ⟨_, written⟩
    simp only [Ne, rewriteBuild_output_eq_none_iff, not_or, Bool.not_eq_true,
      Classical.not_not] at writes
    rw [Stage.after_of_some written, ← result_openRow_of_rewriteBuild written, ← located]
    by_cases area : Anchor.gameArea.pattern.StandsIn
      (Anchor.scaffoldBuild.insertAtEach Template.buildLocals source)
    · simp [area, writes, standsIn_openRow]
    · have apart : ∀ change ∈ [localsChange], Apart [.literal Template.videoRow] change.brought :=
        fun change listed => videoRow_apart_brought change (by simp_all)
      rw [openRow_of_missing area]
      simp only [area, and_false, iff_false]
      exact fun stands => missing ((reaches_located source).standsIn_back apart stands)

/-- Of the screens without the helper's mark a retrofit brings a row in on those that have a build
method and a game area for it and do not show the video, and on no others. -/
theorem videoRow_retrofit_iff (unmarked : occursIn Template.helperMark source = false) :
    occursIn Template.videoRow (retrofit source) = true ↔
      showsVideo source = false ∧ Anchor.scaffoldBuild.pattern.StandsIn source ∧
        Anchor.gameArea.pattern.StandsIn source := by
  have alike := insertions_alike source
  have missing : ¬ StandsIn [.literal Template.videoRow]
      (Stage.insertHelper.after (Stage.insertImport.after source)) := by
    intro stands
    have imported := (Stage.reaches_after .insertHelper _).standsIn_back
      (fun change listed => videoRow_apart_brought change (by simp_all [Stage.changes])) stands
    have before := (Stage.reaches_after .insertImport source).standsIn_back
      (fun change listed => videoRow_apart_brought change (by simp_all [Stage.changes])) imported
    rw [← Bool.not_eq_true, ← Pattern.standsIn_literal] at unmarked
    exact unmarked (Template.helperMark_standsIn_videoRow.trans before)
  rw [← Pattern.standsIn_literal, retrofit_eq, videoRow_rewriteBuild_iff missing,
    showsVideo_eq_of_alike alike, alike.standsIn_iff (by simp [rewriteMarks]),
    alike.standsIn_iff (by simp [rewriteMarks])]

/-- No run that follows a retrofit defines the helper where the retrofit calls it and does not. -/
theorem helperMethod_run_eq_false (unmarked : occursIn Template.helperMark source = false)
    (opened : occursIn Template.videoRow (retrofit source) = true)
    (loose : ¬ Anchor.memberBuild.pattern.StandsIn source) (stages : Pipeline) :
    occursIn Template.helperMethod ((stages.run (retrofit source)).result (retrofit source)) =
      false := by
  have called : Stage.insertHelper.Done (retrofit source) :=
    Template.helperMark_standsIn_videoRow.trans (Pattern.standsIn_literal.mpr opened)
  have missing := not_helperSignature_retrofit unmarked loose
  rw [Pipeline.result_run]
  exact occursIn_helperMethod_eq_false (not_helperSignature_foldl called missing stages)

/-- On a screen without the helper's mark a retrofit that opens a row defines the helper that the
row calls exactly when the screen has a build method at the indentation of a class member. Where it
has none, no run that follows defines the helper either. -/
theorem helperMethod_of_videoRow (unmarked : occursIn Template.helperMark source = false)
    (opened : occursIn Template.videoRow (retrofit source) = true) :
    (occursIn Template.helperMethod (retrofit source) = true ↔
        Anchor.memberBuild.pattern.StandsIn source) ∧
      (¬ Anchor.memberBuild.pattern.StandsIn source → ∀ stages : Pipeline,
        occursIn Template.helperMethod
          ((stages.run (retrofit source)).result (retrofit source)) = false) :=
  ⟨helperMethod_retrofit_iff unmarked, helperMethod_run_eq_false unmarked opened⟩

/-- A screen with a game area, whose build method is indented by so many blanks. -/
def indentedScreen (blanks : Nat) : Text :=
  '\n' :: List.replicate blanks ' ' ++ "@override
Widget build(BuildContext context) \x7b return Scaffold( // Área de juego
Expanded( child: Center(".toList

/-- The retrofit opens a row on the screen with a game area, indented by two blanks or four. -/
theorem videoRow_retrofit_indentedScreen : ∀ blanks ∈ [2, 4],
    occursIn Template.helperMark (indentedScreen blanks) = false ∧
      occursIn Template.videoRow (retrofit (indentedScreen blanks)) = true := by
  have landmarks : ∀ blanks ∈ [2, 4],
      occursIn Template.helperMark (indentedScreen blanks) = false ∧
        showsVideo (indentedScreen blanks) = false ∧
        (Anchor.scaffoldBuild.find? (indentedScreen blanks)).isSome = true ∧
        (Anchor.gameArea.find? (indentedScreen blanks)).isSome = true := by
    decide +kernel
  intro blanks listed
  obtain ⟨unmarked, unshown, build, area⟩ := landmarks blanks listed
  exact ⟨unmarked, (videoRow_retrofit_iff unmarked).mpr ⟨unshown,
    Anchor.scaffoldBuild_definite.find?_isSome_iff.mp build,
    Anchor.gameArea_definite.find?_isSome_iff.mp area⟩⟩

/-- With its build method indented by two blanks the screen has the helper after the retrofit. -/
theorem helperMethod_of_videoRow_indentedScreen :
    occursIn Template.helperMark (indentedScreen 2) = false ∧
      occursIn Template.videoRow (retrofit (indentedScreen 2)) = true ∧
      occursIn Template.helperMethod (retrofit (indentedScreen 2)) = true := by
  obtain ⟨unmarked, opened⟩ := videoRow_retrofit_indentedScreen 2 (by decide)
  have member : Anchor.memberBuild.pattern.StandsIn (indentedScreen 2) :=
    Anchor.memberBuild_definite.find?_isSome_iff.mp (by decide +kernel)
  exact ⟨unmarked, opened, (helperMethod_of_videoRow unmarked opened).1.mpr member⟩

/-- With its build method indented by four blanks the screen calls a helper after the retrofit that
it does not have. -/
theorem helperMethod_retrofit_indentedScreen_eq_false :
    occursIn Template.helperMark (indentedScreen 4) = false ∧
      occursIn Template.videoRow (retrofit (indentedScreen 4)) = true ∧
      occursIn Template.helperMethod (retrofit (indentedScreen 4)) = false := by
  obtain ⟨unmarked, opened⟩ := videoRow_retrofit_indentedScreen 4 (by decide)
  have loose : ¬ Anchor.memberBuild.pattern.StandsIn (indentedScreen 4) :=
    Anchor.memberBuild_definite.find?_eq_none_iff.mp (by decide +kernel)
  exact ⟨unmarked, opened, occursIn_helperMethod_eq_false
    (not_helperSignature_retrofit unmarked loose)⟩

end Screen

end ScreenRetrofit
