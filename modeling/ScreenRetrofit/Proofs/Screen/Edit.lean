import ScreenRetrofit.Screen.Pipeline
import ScreenRetrofit.Proofs.Pattern.Change
import ScreenRetrofit.Proofs.Screen.Spelled

/-!
# What the edits do

For each stage, exactly when it leaves a screen alone and what it writes otherwise. Whatever a
stage writes it reaches by changes of its own kinds (`Stage.reaches_after`), so the marks and
landmarks apart from these kinds are in the screen after the stage as they were before.
-/

namespace ScreenRetrofit.Screen

open Text (occursIn)

variable {source output : Text}

namespace Edited

/-- A screen left alone is as it was. -/
theorem result_of_none {edited : Edited} (alone : edited.output = none) :
    edited.result source = source := by
  rw [result, alone]
  rfl

/-- A screen rewritten is what was written. -/
theorem result_of_some {edited : Edited} (written : edited.output = some output) :
    edited.result source = output := by
  rw [result, written]
  rfl

end Edited

namespace Stage

/-- The source of a screen after a stage. -/
def after (stage : Stage) (source : Text) : Text := (stage.apply source).result source

/-- A stage that leaves a screen alone keeps its source. -/
theorem after_of_none {stage : Stage} (alone : (stage.apply source).output = none) :
    stage.after source = source := Edited.result_of_none alone

/-- A stage that rewrites a screen makes its output the source. -/
theorem after_of_some {stage : Stage} (written : (stage.apply source).output = some output) :
    stage.after source = output := Edited.result_of_some written

end Stage

/-- The import is left out exactly when it is there already or no import is. -/
theorem insertImport_output_eq_none_iff : (insertImport source).output = none ↔
    occursIn Template.videoImport source = true ∨
      ¬ Anchor.importLine.pattern.StandsIn source := by
  rw [insertImport, ← Anchor.importLine_definite.find?_eq_none_iff]
  split
  · rename_i marked
    simp [Edited.leave, marked]
  · rename_i marked
    cases search : Anchor.importLine.find? source with
    | none =>
      rw [Landmark.Definite.segments_of_find?_eq_none search]
      simp [Edited.leave]
    | some cut =>
      rw [Anchor.importLine_definite.segments_of_find?_eq_some search]
      simp [Edited.write, marked]

/-- Every import ends with a semicolon and a newline. -/
theorem exists_importEnd {found : Text} (described : Anchor.importLine.pattern.Accepts found) :
    ∃ statement, found = statement ++ ";\n".toList := by
  have split : Anchor.importLine.pattern = Anchor.importLine.head.take 2 ++ Anchor.importEnd := rfl
  rw [split, Pattern.accepts_append] at described
  obtain ⟨statement, tail, rfl, _, last⟩ := described
  exact ⟨statement, by rw [Pattern.accepts_literal.mp last]⟩

/-- The import goes behind an import that no other follows. -/
theorem exists_last_of_insertImport (written : (insertImport source).output = some output) :
    ∃ lead statement rest, source = lead ++ statement ++ rest ∧
      output = lead ++ statement ++ Template.videoImportLine ++ rest ∧
      Anchor.importLine.pattern.Accepts statement ∧
      ¬ Anchor.importLine.pattern.StandsIn rest := by
  rw [insertImport] at written
  split at written
  · contradiction
  · split at written
    · contradiction
    · rename_i segments rest full cut
      obtain ⟨lead, statement, whole, described⟩ :=
        Anchor.importLine_definite.exists_last source (by rw [cut]; exact full)
      have join := Landmark.join_segments Anchor.importLine source
      have behind := Anchor.importLine_definite.not_standsIn_rest source
      rw [cut] at whole join behind
      simp only [Edited.write, Option.some.injEq, whole] at written join
      exact ⟨lead, statement, rest, join.symm, written.symm, described, behind⟩

/-- The import goes behind the end of an import. -/
theorem exists_of_insertImport (written : (insertImport source).output = some output) :
    ∃ left right, source = left ++ ";\n".toList ++ right ∧
      output = left ++ ";\n".toList ++ Template.videoImportLine ++ right := by
  obtain ⟨lead, statement, rest, rfl, rfl, described, _⟩ := exists_last_of_insertImport written
  obtain ⟨words, rfl⟩ := exists_importEnd described
  exact ⟨lead ++ words, rest, by simp, by simp⟩

/-- The helper is left out exactly when its mark is there or no build method of a class is. -/
theorem insertHelper_output_eq_none_iff : (insertHelper source).output = none ↔
    occursIn Template.helperMark source = true ∨
      ¬ Anchor.memberBuild.pattern.StandsIn source := by
  rw [insertHelper, ← Anchor.memberBuild_definite.find?_eq_none_iff]
  split
  · rename_i marked
    simp [Edited.leave, marked]
  · rename_i marked
    split
    · rename_i missing
      simp [Edited.leave, missing]
    · rename_i cut found
      simp [Edited.write, marked, found]

/-- The helper goes in front of the first build method of a class. -/
theorem exists_of_insertHelper (written : (insertHelper source).output = some output) :
    ∃ cut, Anchor.memberBuild.find? source = some cut ∧
      output = cut.before ++ Template.helperMethod ++ cut.found ++ cut.after := by
  rw [insertHelper] at written
  split at written
  · contradiction
  · split at written
    · contradiction
    · rename_i cut found
      exact ⟨cut, found, (Option.some.inj written).symm⟩

/-- Build methods are left alone exactly when the screen shows the video or none of them returns a
scaffold. -/
theorem rewriteBuild_output_eq_none_iff : (rewriteBuild source).output = none ↔
    showsVideo source = true ∨ ¬ Anchor.scaffoldBuild.pattern.StandsIn source := by
  rw [rewriteBuild, ← Anchor.scaffoldBuild_definite.find?_eq_none_iff]
  split
  · rename_i shown
    simp [Edited.leave, shown]
  · rename_i shown
    split
    · rename_i missing
      simp [Edited.leave, missing]
    · rename_i cut found
      have writes : ∀ text, (openRow text).output ≠ none := by
        intro text
        rw [openRow]
        split
        · simp [Edited.write]
        · split <;> simp [Edited.write]
      simp [writes, shown, found]

/-- Build methods that are rewritten get their locals, and the row is opened. -/
theorem exists_of_rewriteBuild (written : (rewriteBuild source).output = some output) :
    ∃ cut, Anchor.scaffoldBuild.find? source = some cut ∧ rewriteBuild source =
      openRow (Anchor.scaffoldBuild.insertAtEach Template.buildLocals source) := by
  rw [rewriteBuild] at written ⊢
  split at written
  · contradiction
  · split at written
    · contradiction
    · rename_i shown _ cut found
      exact ⟨cut, found, by simp [shown]⟩

/-- The three courses of opening the row: there is no game area, or it is turned into a row, and
then the first closing behind it is missing or replaced. -/
theorem openRow_cases (source : Text) :
    (¬ Anchor.gameArea.pattern.StandsIn source ∧ openRow source = .write source [.noGameArea]) ∨
      ∃ area, Anchor.gameArea.find? source = some area ∧
        ((Anchor.layoutClosing.find? area.after = none ∧ openRow source =
            .write (area.before ++ Template.videoRow ++ area.after) [.noLayoutClosing]) ∨
          ∃ closing, Anchor.layoutClosing.find? area.after = some closing ∧ openRow source =
            .write (area.before ++ Template.videoRow ++
              (closing.before ++ Template.rowClosing ++ closing.after)) []) := by
  rw [openRow]
  split
  · rename_i missing
    exact .inl ⟨Anchor.gameArea_definite.find?_eq_none_iff.mp missing, rfl⟩
  · rename_i area found
    refine .inr ⟨area, found, ?_⟩
    split
    · rename_i missing
      exact .inl ⟨missing, rfl⟩
    · rename_i closing closed
      exact .inr ⟨closing, closed, rfl⟩

/-- The import of the video comes in behind the end of an import. -/
def importChange : Change :=
  ⟨Anchor.importEnd, [.literal Template.videoImport, .literal "\n".toList], Spelled.importEnd,
    Spelled.videoImportLine⟩

/-- The helper comes in at a build method of a class. -/
def helperChange : Change :=
  ⟨Anchor.memberBuild.pattern, [.literal Template.helperMethod], Spelled.memberBuild,
    Spelled.helperMethod⟩

/-- The locals come in at the top of a build method that returns a scaffold. -/
def localsChange : Change :=
  ⟨Anchor.scaffoldBuild.pattern, .literal Template.buildLocals :: Anchor.scaffoldBuild.tail,
    Spelled.scaffoldBuild, Spelled.buildLocals⟩

/-- The opening of a row comes in for that of a game area. -/
def openingChange : Change :=
  ⟨Anchor.gameArea.pattern, [.literal Template.videoRow], Spelled.gameArea, Spelled.videoRow⟩

/-- The closing of a row comes in for that of the layout. -/
def closingChange : Change :=
  ⟨Anchor.layoutClosing.pattern, [.literal Template.rowClosing], Spelled.layoutClosing,
    Spelled.rowClosing⟩

/-- The changes that open and close a row. -/
def rowChanges : List Change := [openingChange, closingChange]

/-- The kinds of changes that a stage makes. -/
def Stage.changes : Stage → List Change
  | insertImport => [importChange]
  | insertHelper => [helperChange]
  | rewriteBuild => localsChange :: rowChanges

/-- A first cut replaced as a whole is a change. -/
theorem leads_of_find? {landmark : Landmark} (definite : landmark.Definite) {cut : Cut}
    (found : landmark.find? source = some cut) {change : Change} {new : Text}
    (cuts : change.cut = landmark.pattern) (brings : change.brought = [.literal new]) :
    change.Leads source (cut.before ++ new ++ cut.after) := by
  refine ⟨cut.before, [], cut.found, [], cut.after, new, ?_, by simp, ?_, ?_⟩
  · rw [← Landmark.whole_of_find? found]
    simp [Cut.whole, Cut.found]
  · simpa [cuts] using definite.accepts_found found
  · rw [brings]
    exact Pattern.accepts_literal.mpr rfl

/-- Locals put into every build method that returns a scaffold are a sequence of changes. -/
theorem reaches_located (source : Text) : Change.Reaches [localsChange] source
    (Anchor.scaffoldBuild.insertAtEach Template.buildLocals source) :=
  Anchor.scaffoldBuild_definite.reaches_insertAtEach rfl rfl source

/-- Opening the row is a sequence of its changes. -/
theorem reaches_openRow (source : Text) :
    Change.Reaches rowChanges source ((openRow source).result source) := by
  rcases openRow_cases source with
    ⟨_, course⟩ | ⟨area, found, ⟨_, course⟩ | ⟨closing, closed, course⟩⟩
  · rw [course]
    exact .refl source
  · have opens : openingChange.Leads source (area.before ++ Template.videoRow ++ area.after) :=
      leads_of_find? Anchor.gameArea_definite found rfl rfl
    rw [course]
    exact opens.reaches List.mem_cons_self
  · have opens : openingChange.Leads source (area.before ++ Template.videoRow ++ area.after) :=
      leads_of_find? Anchor.gameArea_definite found rfl rfl
    have closes : closingChange.Leads area.after
        (closing.before ++ Template.rowClosing ++ closing.after) :=
      leads_of_find? Anchor.layoutClosing_definite closed rfl rfl
    have later := closes.append_left (area.before ++ Template.videoRow)
    rw [course]
    exact .step List.mem_cons_self opens
      (later.reaches (List.mem_cons_of_mem _ List.mem_cons_self))

/-- Whatever a stage makes of a screen it reaches by its changes. -/
theorem Stage.reaches_after (stage : Stage) (source : Text) :
    Change.Reaches stage.changes source (stage.after source) := by
  cases written : (stage.apply source).output with
  | none =>
    rw [after_of_none written]
    exact .refl source
  | some output =>
    rw [after_of_some written]
    cases stage with
    | insertImport =>
      obtain ⟨left, right, rfl, rfl⟩ := exists_of_insertImport written
      have leads : importChange.Leads (left ++ ";\n".toList ++ right)
          (left ++ ";\n".toList ++ Template.videoImportLine ++ right) :=
        ⟨left, ";\n".toList, [], [], right, Template.videoImportLine, by simp, by simp,
          Pattern.accepts_literal.mpr (by simp), Template.videoImport, ['\n'], rfl, rfl,
          Pattern.accepts_literal.mpr rfl⟩
      exact leads.reaches List.mem_cons_self
    | insertHelper =>
      obtain ⟨cut, found, rfl⟩ := exists_of_insertHelper written
      have leads : helperChange.Leads source
          (cut.before ++ Template.helperMethod ++ cut.found ++ cut.after) := by
        refine ⟨cut.before, [], [], cut.found, cut.after, Template.helperMethod, ?_, by simp,
          by simpa [helperChange] using Anchor.memberBuild_definite.accepts_found found,
          Pattern.accepts_literal.mpr rfl⟩
        rw [← Landmark.whole_of_find? found]
        simp [Cut.whole, Cut.found]
      exact leads.reaches List.mem_cons_self
    | rewriteBuild =>
      have located : Change.Reaches Stage.rewriteBuild.changes source
          (Anchor.scaffoldBuild.insertAtEach Template.buildLocals source) :=
        (reaches_located source).mono (by simp [changes])
      have opened := reaches_openRow (Anchor.scaffoldBuild.insertAtEach Template.buildLocals source)
      obtain ⟨_, _, course⟩ := exists_of_rewriteBuild written
      change (Screen.rewriteBuild source).output = some output at written
      rw [course] at written
      rw [Edited.result_of_some written] at opened
      exact located.trans (opened.mono (List.subset_cons_self _ _))

end ScreenRetrofit.Screen
