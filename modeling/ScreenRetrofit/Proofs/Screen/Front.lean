import ScreenRetrofit.Proofs.Screen.AtOnce

/-!
# The front of a rewritten screen

A rewrite of build methods looks for a game area from the start of the screen. So what it leaves alone
at the front ends where the first build method gets its locals or where the first game area starts,
whichever comes first, and everything up to the body of the first build method is left alone exactly
when no game area stands in front of that method (`header_kept_iff`).
-/

namespace ScreenRetrofit.Screen

open Text (occursIn)

variable {source : Text} {cut area : Cut}

/-- A screen that does not show the video becomes the opened row of the screen with its locals. -/
theorem after_eq_openRow (unshown : showsVideo source = false)
    (search : Anchor.scaffoldBuild.find? source = some cut) :
    Stage.rewriteBuild.after source = (openRow (located source)).result source := by
  change (rewriteBuild source).result source = _
  rw [rewriteBuild, unshown, search]
  rfl

/-- A game area becomes the row behind what stands before it with its locals. -/
theorem exists_openRow_located (opens : Anchor.gameArea.find? source = some area) :
    ∃ rest, (openRow (located source)).result source =
      located area.before ++ Template.videoRow ++ rest := by
  rw [openRow, gameArea_located, opens]
  simp only [Option.map_some]
  split
  · exact ⟨_, rfl⟩
  · exact ⟨_, rfl⟩

/-- Without a game area there are only the locals. -/
theorem openRow_located_of_none (missing : Anchor.gameArea.find? source = none) :
    (openRow (located source)).result source = located source := by
  rw [openRow, gameArea_located, missing]
  rfl

/-- A part of a screen without a build method gets no locals. -/
theorem located_of_not_standsIn {part : Text}
    (absent : ¬ Anchor.scaffoldBuild.pattern.StandsIn part) : located part = part :=
  Landmark.Definite.insertAtEach_of_find?_eq_none
    (Anchor.scaffoldBuild_definite.find?_eq_none_iff.mpr absent) Template.buildLocals

/-- The first build method of a screen has its locals behind its header, whatever follows it. -/
theorem prefix_located (search : Anchor.scaffoldBuild.find? source = some cut) (rest : Text) :
    cut.before ++ cut.head ++ Template.buildLocals <+:
      located (cut.before ++ cut.found ++ rest) := by
  have parts := Anchor.scaffoldBuild_definite.accepts search
  have absent := Anchor.scaffoldBuild_definite.not_standsIn_before search
  have first := Anchor.scaffoldBuild_definite.find?_of_not_standsIn scaffoldBuild_closed
    { cut with after := rest } parts.1 parts.2 absent
  have whole : Cut.whole { cut with after := rest } = cut.before ++ cut.found ++ rest :=
    Cut.whole_eq _
  rw [whole] at first
  rw [located, Anchor.scaffoldBuild_definite.insertAtEach_of_find?_eq_some first]
  exact ⟨cut.tail ++ located rest, by simp [located]⟩

/-- The first game area stands behind the first build method or in front of it. -/
theorem area_behind_or_before (search : Anchor.scaffoldBuild.find? source = some cut)
    (opens : Anchor.gameArea.find? source = some area) :
    (∃ gap, area.before = cut.before ++ cut.found ++ gap) ∨
      ∃ gap, cut.before = area.before ++ area.found ++ gap := by
  have whole := (Landmark.whole_of_find? search).trans (Landmark.whole_of_find? opens).symm
  rw [Cut.whole_eq, Cut.whole_eq] at whole
  exact scaffoldBuild_apart_gameArea (Anchor.scaffoldBuild_definite.accepts_found search)
    (Anchor.gameArea_definite.accepts_found opens) whole

/-- Where no game area stands in front of the first build method, everything up to the method's body
is kept, and the locals follow. -/
theorem header_kept (unshown : showsVideo source = false)
    (search : Anchor.scaffoldBuild.find? source = some cut)
    (absent : ¬ Anchor.gameArea.pattern.StandsIn cut.before) :
    cut.before ++ cut.head ++ Template.buildLocals <+: Stage.rewriteBuild.after source := by
  rw [after_eq_openRow unshown search]
  cases opens : Anchor.gameArea.find? source with
  | none =>
    have whole := Landmark.whole_of_find? search
    rw [Cut.whole_eq] at whole
    have front := prefix_located search cut.after
    rwa [openRow_located_of_none opens, ← whole]
  | some area =>
    obtain ⟨rest, course⟩ := exists_openRow_located opens
    rw [course]
    rcases area_behind_or_before search opens with ⟨gap, behind⟩ | ⟨gap, ahead⟩
    · have front := prefix_located search gap
      rw [← behind] at front
      exact (front.trans (List.prefix_append _ _)).trans (List.prefix_append _ _)
    · have described := Anchor.gameArea_definite.accepts_found opens
      exact (absent ⟨area.before, area.found, gap, ahead, described⟩).elim

/-- A game area in front of the first build method is the first in the screen. -/
theorem exists_area_of_standsIn (search : Anchor.scaffoldBuild.find? source = some cut)
    (stands : Anchor.gameArea.pattern.StandsIn cut.before) :
    ∃ area gap, Anchor.gameArea.find? source = some area ∧
      cut.before = area.before ++ area.found ++ gap := by
  obtain ⟨inner, found⟩ :=
    Option.isSome_iff_exists.mp (Anchor.gameArea_definite.find?_isSome_iff.mpr stands)
  have whole := Landmark.whole_of_find? search
  have split := Landmark.whole_of_find? found
  rw [Cut.whole_eq, List.append_assoc] at whole
  rw [Cut.whole_eq] at split
  have first := Anchor.gameArea_definite.find?_append (Spelled.gameArea.closed (by decide)) found
    (cut.found ++ cut.after)
  rw [whole] at first
  exact ⟨_, inner.after, first, split.symm⟩

/-- A game area in front of the first build method becomes the row where it starts. -/
theorem exists_row_of_before {gap : Text} (unshown : showsVideo source = false)
    (search : Anchor.scaffoldBuild.find? source = some cut)
    (opens : Anchor.gameArea.find? source = some area)
    (ahead : cut.before = area.before ++ area.found ++ gap) :
    ∃ rest, Stage.rewriteBuild.after source = area.before ++ Template.videoRow ++ rest := by
  have absent : ¬ Anchor.scaffoldBuild.pattern.StandsIn area.before := by
    intro stands
    have inFront := (stands.append_right area.found).append_right gap
    rw [← ahead] at inFront
    exact Anchor.scaffoldBuild_definite.not_standsIn_before search inFront
  obtain ⟨rest, course⟩ := exists_openRow_located opens
  rw [located_of_not_standsIn absent] at course
  exact ⟨rest, (after_eq_openRow unshown search).trans course⟩

set_option maxRecDepth 8000 in
/-- A game area and the row are different as far as both go. -/
theorem gameArea_disagrees : Slot.mayAgree Spelled.gameArea.slots Spelled.videoRow.slots = false := by
  decide

/-- A game area in front of the first build method is not kept. -/
theorem header_not_kept (unshown : showsVideo source = false)
    (search : Anchor.scaffoldBuild.find? source = some cut)
    (stands : Anchor.gameArea.pattern.StandsIn cut.before) :
    ¬ cut.before ++ cut.head <+: Stage.rewriteBuild.after source := by
  rintro ⟨more, kept⟩
  obtain ⟨area, gap, opens, ahead⟩ := exists_area_of_standsIn search stands
  obtain ⟨rest, course⟩ := exists_row_of_before unshown search opens ahead
  have same : area.found ++ (gap ++ (cut.head ++ more)) = Template.videoRow ++ rest := by
    rw [course, ahead] at kept
    simpa only [List.append_assoc, List.append_cancel_left_eq] using kept
  have agree := Slot.mayAgree_of_describe
    (Spelled.gameArea.describe (Anchor.gameArea_definite.accepts_found opens))
    (Spelled.videoRow.describe (Pattern.accepts_literal.mpr rfl)) same
  rw [gameArea_disagrees] at agree
  contradiction

/-- Everything up to the body of the first build method is kept exactly when the screen is left alone
or no game area stands in front of that method. In any case that is kept which stands in front of
both the body and the first game area. -/
theorem header_kept_iff (search : Anchor.scaffoldBuild.find? source = some cut) :
    (cut.before ++ cut.head <+: Stage.rewriteBuild.after source ↔
        showsVideo source = true ∨ ¬ Anchor.gameArea.pattern.StandsIn cut.before) ∧
      ∀ front, front <+: cut.before ++ cut.head →
        (∀ area, Anchor.gameArea.find? source = some area → front <+: area.before) →
          front <+: Stage.rewriteBuild.after source := by
  have whole := Landmark.whole_of_find? search
  cases shown : showsVideo source with
  | true =>
    have alone : Stage.rewriteBuild.after source = source :=
      Stage.after_of_none (rewriteBuild_output_eq_none_iff.mpr (.inl shown))
    have header : cut.before ++ cut.head <+: source :=
      ⟨cut.tail ++ cut.after, by rw [← whole, Cut.whole]; simp⟩
    rw [alone]
    exact ⟨by simp [header], fun front inHeader _ => inHeader.trans header⟩
  | false =>
    by_cases stands : Anchor.gameArea.pattern.StandsIn cut.before
    · have lost := header_not_kept shown search stands
      refine ⟨by simp [lost, stands], fun front _ ahead => ?_⟩
      obtain ⟨area, gap, opens, split⟩ := exists_area_of_standsIn search stands
      obtain ⟨rest, course⟩ := exists_row_of_before shown search opens split
      rw [course, List.append_assoc]
      exact (ahead area opens).trans (List.prefix_append _ _)
    · have kept : cut.before ++ cut.head <+: Stage.rewriteBuild.after source :=
        (List.prefix_append _ _).trans (header_kept shown search stands)
      exact ⟨by simp [kept, stands], fun front inHeader _ => inHeader.trans kept⟩

set_option maxRecDepth 8000 in
/-- Of the screen with two build methods and a game area between them everything up to the body of
the first is kept. -/
theorem header_kept_twoBuildScreen : ∃ cut, Anchor.scaffoldBuild.find? twoBuildScreen = some cut ∧
    cut.before ++ cut.head <+: Stage.rewriteBuild.after twoBuildScreen := by
  have clear : (Anchor.scaffoldBuild.find? twoBuildScreen).map
      (fun cut => (Anchor.gameArea.find? cut.before).isSome) = some false :=
    Text.of_literal (motive := fun source => (Anchor.scaffoldBuild.find? source).map
      (fun cut => (Anchor.gameArea.find? cut.before).isSome) = some false) rfl (by decide)
  obtain ⟨cut, search, none⟩ := Option.map_eq_some_iff.mp clear
  have absent : ¬ Anchor.gameArea.pattern.StandsIn cut.before :=
    Anchor.gameArea_definite.find?_eq_none_iff.mp (by simpa using none)
  exact ⟨cut, search, (header_kept_iff search).1.mpr (.inr absent)⟩

/-- A small screen whose game area stands in a method of its own, above the build method. -/
def apartArea : Text := "  Widget area() => Column(children: [
    // Área de juego
    Expanded( child: Center( child: board)),
  ]);

  @override
  Widget build(BuildContext context) \x7b
    return Scaffold(body: area());
  \x7d
".toList

set_option maxRecDepth 8000 in
/-- Of the screen with its game area in a method of its own that method is not kept. -/
theorem apartArea_not_kept : ∃ cut, Anchor.scaffoldBuild.find? apartArea = some cut ∧
    ¬ cut.before ++ cut.head <+: Stage.rewriteBuild.after apartArea := by
  have unmarked : occursIn Template.widgetMark apartArea = false :=
    Text.occursIn_of_literals rfl rfl (by decide)
  have unshown : showsVideo apartArea = false := by simp [showsVideo, unmarked]
  have opened : (Anchor.scaffoldBuild.find? apartArea).map
      (fun cut => (Anchor.gameArea.find? cut.before).isSome) = some true :=
    Text.of_literal (motive := fun source => (Anchor.scaffoldBuild.find? source).map
      (fun cut => (Anchor.gameArea.find? cut.before).isSome) = some true) rfl (by decide)
  obtain ⟨cut, search, found⟩ := Option.map_eq_some_iff.mp opened
  have stands := Anchor.gameArea_definite.find?_isSome_iff.mp found
  exact ⟨cut, search, header_not_kept unshown search stands⟩

end ScreenRetrofit.Screen
