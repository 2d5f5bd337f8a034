import ScreenRetrofit.Proofs.Pattern.Removal
import ScreenRetrofit.Proofs.Screen.Above
import ScreenRetrofit.Proofs.Screen.Course
import ScreenRetrofit.Proofs.Screen.Import

/-!
# Undoing a retrofit

Without a game area a retrofit only puts texts in, so a screen that has none of them comes back when
they are removed again, the last one put in first (`without_retrofit`). The locals and the helper both
start and end with a newline, so a removal finds them where they were put in only because no part of
the screen makes them up together with a part of what is put in. That is read off what stands around
them: the brace of the body in front of the locals and the call behind them, and the build method of a
class behind the helper.
-/

namespace ScreenRetrofit

open Pattern (Spelling)

namespace Anchor

/-- The helper method without the newline that starts it, with a build method of a class directly
behind it. -/
def helperRestAndBuild : Pattern :=
  [.literal (Template.helperMethod.drop 1)] ++ memberBuild.pattern

end Anchor

namespace Template

set_option maxRecDepth 2000 in
/-- The helper method starts with a newline. -/
theorem helperMethod_eq_cons : helperMethod = "\n".toList ++ helperMethod.drop 1 :=
  Text.of_literal (motive := fun helper => helper = "\n".toList ++ helper.drop 1) rfl (by decide)

end Template

namespace Spelled

/-- The locals of a build method. -/
def locals : Spelling [.literal Template.buildLocals] := .literal rfl .nil

/-- A build method that returns a scaffold, up to the top of its body. -/
def scaffoldHead : Spelling Anchor.scaffoldBuild.head :=
  .literal rfl <| .some <| .literal rfl <| .many <| .literal rfl .nil

/-- The start of the body of a build method that returns a scaffold. -/
def scaffoldTail : Spelling Anchor.scaffoldBuild.tail := .many <| .literal rfl .nil

set_option maxRecDepth 2000 in
/-- The helper method without its first newline, with a build method of a class behind it. -/
def helperRestAndBuild : Spelling Anchor.helperRestAndBuild :=
  .made (List.drop 1) rfl <| .literal rfl <| .some <| .literal rfl .nil

end Spelled

namespace Screen

open Pattern (StandsIn Apart Avoids)
open Text (occursIn without)

variable {source output : Text} {pattern : Pattern}

/-- The import brings in nothing that is apart from the import of the video. -/
theorem standsIn_of_insertImport (apart : pattern.Apart [.literal Template.videoImport])
    (stands : pattern.StandsIn (Stage.insertImport.after source)) : pattern.StandsIn source := by
  cases written : (Stage.insertImport.apply source).output with
  | none => rwa [Stage.after_of_none written] at stands
  | some output =>
    rw [Stage.after_of_some written] at stands
    obtain ⟨left, right, rfl, rfl⟩ := exists_of_insertImport written
    -- The newline that ends the line of the import also ends the line in front of it.
    have around : left ++ ";\n".toList ++ Template.videoImportLine ++ right =
        left ++ ";\n".toList ++ Template.videoImport ++ ("\n".toList ++ right) := by
      simp [Template.videoImportLine]
    rw [around, Pattern.standsIn_around apart (Pattern.accepts_literal.mpr rfl)] at stands
    rcases stands with front | back
    · exact front.append_right right
    · have whole : left ++ ";\n".toList ++ right = left ++ ";".toList ++ ("\n".toList ++ right) := by
        simp
      rw [whole]
      exact back.append_left _

/-- Every build method of a class starts with a newline. -/
theorem exists_newline_of_memberBuild {found : Text}
    (described : Anchor.memberBuild.pattern.Accepts found) : ∃ rest, found = "\n".toList ++ rest := by
  obtain ⟨_, rest, rfl, rfl, _⟩ := described
  exact ⟨"  @override".toList ++ rest, by simp⟩

/-- The helper brings in nothing that is apart from it and from the build method behind it, its first
newline left out. -/
theorem standsIn_of_insertHelper (apart : pattern.Apart Anchor.helperRestAndBuild)
    (stands : pattern.StandsIn (Stage.insertHelper.after source)) : pattern.StandsIn source := by
  cases written : (Stage.insertHelper.apply source).output with
  | none => rwa [Stage.after_of_none written] at stands
  | some output =>
    rw [Stage.after_of_some written] at stands
    obtain ⟨cut, search, rfl⟩ := exists_of_insertHelper written
    have described := Anchor.memberBuild_definite.accepts_found search
    have blocked : Anchor.helperRestAndBuild.Accepts
        (Template.helperMethod.drop 1 ++ cut.found) :=
      Pattern.accepts_append.mpr ⟨_, _, rfl, Pattern.accepts_literal.mpr rfl, described⟩
    have around : cut.before ++ Template.helperMethod ++ cut.found ++ cut.after =
        cut.before ++ "\n".toList ++ (Template.helperMethod.drop 1 ++ cut.found) ++ cut.after := by
      rw [← List.append_assoc _ _ cut.found, List.append_assoc cut.before "\n".toList,
        ← Template.helperMethod_eq_cons]
    have whole := Landmark.whole_of_find? search
    rw [Cut.whole_eq] at whole
    rw [around, Pattern.standsIn_around apart blocked] at stands
    rcases stands with front | back
    · -- The newline is also the first character of the build method.
      obtain ⟨rest, line⟩ := exists_newline_of_memberBuild described
      have longer := front.append_right (rest ++ cut.after)
      rw [← whole, line]
      simpa using longer
    · rw [← whole]
      exact back.append_left _

/-- The locals are apart from the import of the video. -/
theorem buildLocals_apart_videoImport :
    Apart [.literal Template.buildLocals] [.literal Template.videoImport] :=
  Spelled.locals.apart Spelled.videoImport (by decide)

set_option maxRecDepth 8000 in
/-- The locals share at most the newline with the helper method in front of a build method. -/
theorem buildLocals_apart_helperRestAndBuild :
    Apart [.literal Template.buildLocals] Anchor.helperRestAndBuild :=
  Spelled.locals.apart Spelled.helperRestAndBuild (by decide)

/-- The import and the helper do not bring in the locals. -/
theorem not_buildLocals_insertions (absent : ¬ StandsIn [.literal Template.buildLocals] source) :
    ¬ StandsIn [.literal Template.buildLocals]
      (Stage.insertHelper.after (Stage.insertImport.after source)) :=
  fun stands => absent (standsIn_of_insertImport buildLocals_apart_videoImport
    (standsIn_of_insertHelper buildLocals_apart_helperRestAndBuild stands))

/-- Locals removed from build methods leave the screen as it was. -/
theorem without_located (absent : ¬ StandsIn [.literal Template.buildLocals] source) :
    without Template.buildLocals
      (Anchor.scaffoldBuild.insertAtEach Template.buildLocals source) = source := by
  refine Anchor.scaffoldBuild_definite.without_insertAtEach (by decide) absent ?_ ?_
  · intro head described left right
    exact Spelled.locals.avoids_end Spelled.scaffoldHead (by decide) described left right
  · intro tail described left right
    exact Spelled.locals.avoids_end Spelled.scaffoldTail (by decide) described left right

/-- Without a game area a rewrite of build methods is undone by removing the locals. -/
theorem without_rewriteBuild (absent : ¬ StandsIn [.literal Template.buildLocals] source)
    (missing : ¬ Anchor.gameArea.pattern.StandsIn source) :
    without Template.buildLocals (Stage.rewriteBuild.after source) = source := by
  cases written : (Stage.rewriteBuild.apply source).output with
  | none =>
    rw [Stage.after_of_none written]
    exact Text.without_of_not_standsIn (by decide) absent
  | some output =>
    have area : ¬ Anchor.gameArea.pattern.StandsIn
        (Anchor.scaffoldBuild.insertAtEach Template.buildLocals source) := by
      rwa [(located_alike source).standsIn_iff List.mem_cons_self]
    rw [Stage.after_of_some written, ← result_openRow_of_rewriteBuild written,
      openRow_of_missing area, without_located absent]

/-- The helper is undone by removing it from a screen that has its mark from it alone. -/
theorem without_insertHelper (unmarked : ¬ StandsIn [.literal Template.helperMark] source) :
    without Template.helperMethod (Stage.insertHelper.after source) = source := by
  have solid : Template.helperMethod ≠ [] := by
    rw [Template.helperMethod_eq_cons]
    simp
  cases written : (Stage.insertHelper.apply source).output with
  | none =>
    rw [Stage.after_of_none written]
    exact Text.without_of_not_standsIn solid fun stands =>
      unmarked (Template.helperMark_standsIn_helperMethod.trans stands)
  | some output =>
    have once := (HelperAbove.of_kept (.of_insertHelper written)).once
    rw [Stage.after_of_some written]
    obtain ⟨cut, search, rfl⟩ := exists_of_insertHelper written
    rw [List.append_assoc _ cut.found] at once ⊢
    rw [Text.without_of_standsOnce solid once, ← List.append_assoc, ← Cut.whole_eq,
      Landmark.whole_of_find? search]

/-- The import is undone by removing its line. -/
theorem without_insertImport (unmarked : ¬ StandsIn [.literal Template.videoImport] source) :
    without Template.videoImportLine (Stage.insertImport.after source) = source := by
  have solid : Template.videoImportLine ≠ [] := by simp [Template.videoImportLine]
  cases written : (Stage.insertImport.apply source).output with
  | none =>
    rw [Stage.after_of_none written]
    refine Text.without_of_not_standsIn solid fun stands => unmarked ?_
    exact Pattern.StandsIn.trans ⟨[], _, "\n".toList, rfl, Pattern.accepts_literal.mpr rfl⟩ stands
  | some output =>
    have once := videoImport_once_of_insertImport written
    rw [Stage.after_of_some written]
    obtain ⟨left, right, rfl, rfl⟩ := exists_of_insertImport written
    have stands : StandsIn [.literal ([] ++ Template.videoImport ++ ['\n'])]
        (left ++ ";\n".toList ++ Template.videoImportLine ++ right) :=
      ⟨_, _, right, rfl, Pattern.accepts_literal.mpr rfl⟩
    exact Text.without_of_standsOnce solid (once.of_part stands)

/-- A screen without a game area that has neither the import of the video, nor the mark of the helper,
nor the locals comes back from its retrofit when the locals are removed from it, then the helper, and
then the line of the import. -/
theorem without_retrofit (unimported : occursIn Template.videoImport source = false)
    (unmarked : occursIn Template.helperMark source = false)
    (bare : occursIn Template.buildLocals source = false)
    (missing : ¬ Anchor.gameArea.pattern.StandsIn source) :
    without Template.videoImportLine (without Template.helperMethod
      (without Template.buildLocals (retrofit source))) = source := by
  rw [← Bool.not_eq_true, ← Pattern.standsIn_literal] at unimported unmarked bare
  have imported : ¬ StandsIn [.literal Template.helperMark] (Stage.insertImport.after source) := by
    rw [(insertImport_alike source).standsIn_iff (List.mem_append_left _ List.mem_cons_self)]
    exact unmarked
  have area : ¬ Anchor.gameArea.pattern.StandsIn
      (Stage.insertHelper.after (Stage.insertImport.after source)) := by
    rwa [(insertions_alike source).standsIn_iff (by simp [rewriteMarks])]
  rw [retrofit_eq, without_rewriteBuild (not_buildLocals_insertions bare) area,
    without_insertHelper imported, without_insertImport unimported]

/-- A screen with an import and two build methods that return scaffolds, one directly behind the
other, and without a game area. -/
def bareScreen : Text := "import a;
  @override
  Widget build(BuildContext context) \x7b return Scaffold(); \x7d
  @override
  Widget build(BuildContext context) \x7breturn Scaffold(); \x7d".toList

set_option maxRecDepth 4000 in
/-- The screen with two build methods, which every stage rewrites, comes back from its retrofit. -/
theorem without_retrofit_bareScreen :
    occursIn Template.videoImport bareScreen = false ∧
      occursIn Template.helperMark bareScreen = false ∧
      occursIn Template.buildLocals bareScreen = false ∧
      ¬ Anchor.gameArea.pattern.StandsIn bareScreen ∧
      (∀ stage : Stage, (stage.apply bareScreen).output ≠ none) ∧
      without Template.videoImportLine (without Template.helperMethod
        (without Template.buildLocals (retrofit bareScreen))) = bareScreen := by
  have unimported : occursIn Template.videoImport bareScreen = false :=
    Text.occursIn_of_literals rfl rfl (by decide)
  have unmarked : occursIn Template.helperMark bareScreen = false :=
    Text.occursIn_of_literals rfl rfl (by decide)
  have bare : occursIn Template.buildLocals bareScreen = false :=
    Text.occursIn_of_literals rfl rfl (by decide)
  have unshown : showsVideo bareScreen = false :=
    Text.of_literal (motive := fun source => showsVideo source = false) rfl (by decide)
  have found : Anchor.gameArea.find? bareScreen = none ∧
      (Anchor.importLine.find? bareScreen).isSome = true ∧
      (Anchor.memberBuild.find? bareScreen).isSome = true ∧
      (Anchor.scaffoldBuild.find? bareScreen).isSome = true :=
    Text.of_literal (motive := fun source => Anchor.gameArea.find? source = none ∧
      (Anchor.importLine.find? source).isSome = true ∧
      (Anchor.memberBuild.find? source).isSome = true ∧
      (Anchor.scaffoldBuild.find? source).isSome = true) rfl (by decide)
  obtain ⟨area, imported, member, scaffold⟩ := found
  have missing := Anchor.gameArea_definite.find?_eq_none_iff.mp area
  refine ⟨unimported, unmarked, bare, missing, fun stage => ?_,
    without_retrofit unimported unmarked bare missing⟩
  cases stage with
  | insertImport =>
    rw [Stage.apply, Ne, insertImport_output_eq_none_iff, unimported]
    simpa using Anchor.importLine_definite.find?_isSome_iff.mp imported
  | insertHelper =>
    rw [Stage.apply, Ne, insertHelper_output_eq_none_iff, unmarked]
    simpa using Anchor.memberBuild_definite.find?_isSome_iff.mp member
  | rewriteBuild =>
    rw [Stage.apply, Ne, rewriteBuild_output_eq_none_iff, unshown]
    simpa using Anchor.scaffoldBuild_definite.find?_isSome_iff.mp scaffold

end Screen

end ScreenRetrofit
