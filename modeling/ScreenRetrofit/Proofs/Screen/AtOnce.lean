import ScreenRetrofit.Proofs.Pattern.Replacement
import ScreenRetrofit.Proofs.Screen.Course

/-!
# A rewrite made at once

A rewrite of build methods works in turns: it looks for a game area in the screen that has its
locals already, and for a closing behind that area. What comes of it is known from the screen as it
was. The locals stand apart from areas and closings, so a search behind them finds what a search of
the screen does, with locals around it (`find?_located`). Every turn is a replacement in the screen
as it was, at places that the other turns leave alone, and all of them can be made at once
(`rewriteBuild_at_once`).
-/

namespace ScreenRetrofit.Screen

open Landmark (Span)
open Replacement (Before Makes made)
open Text (utf8Length)

variable {source : Text} {replacement : Replacement}

/-- What a rewrite of build methods replaces in a screen, all of it known from the screen as it
was. -/
inductive Planned (source : Text) : Replacement → Prop where
  /-- Every build method that returns a scaffold gets its locals. -/
  | locals {build : Span} (stands : Anchor.scaffoldBuild.StandsAt source build) :
      Planned source (.insertion Template.buildLocals build)
  /-- The first game area becomes a row. -/
  | opening {area : Span} (first : Anchor.gameArea.FirstAt source 0 area) :
      Planned source (.exchange Template.videoRow area)
  /-- The first closing behind that area becomes the closing of the row. -/
  | closing {area closing : Span} (first : Anchor.gameArea.FirstAt source 0 area)
      (next : Anchor.layoutClosing.FirstAt source area.stop closing) :
      Planned source (.exchange Template.rowClosing closing)

/-- What is said of a rewrite of build methods, known from the screen as it was. -/
inductive Said (source : Text) : List Notice → Prop where
  /-- Without a game area there is no row. -/
  | noArea (missing : ¬ ∃ area, Anchor.gameArea.FirstAt source 0 area) :
      Said source [.noGameArea]
  /-- Without a closing behind it the row stays open. -/
  | noClosing {area : Span} (first : Anchor.gameArea.FirstAt source 0 area)
      (missing : ¬ ∃ closing, Anchor.layoutClosing.FirstAt source area.stop closing) :
      Said source [.noLayoutClosing]
  /-- Of a row that is closed nothing is said. -/
  | closed {area closing : Span} (first : Anchor.gameArea.FirstAt source 0 area)
      (next : Anchor.layoutClosing.FirstAt source area.stop closing) : Said source []

/-- The locals of the build methods of a part of a screen that so many bytes stand in front of. -/
def localsFrom (offset : Nat) (part : Text) : List Replacement :=
  Anchor.scaffoldBuild.insertionsFrom Template.buildLocals offset part

/-- A part of a screen with the locals in its build methods. -/
def located (part : Text) : Text := Anchor.scaffoldBuild.insertAtEach Template.buildLocals part

/-- The locals of a part of a screen, with a new text for the first of a landmark and what is
planned behind it. -/
def turnFrom (landmark : Landmark) (new : Text) (behind : Nat → Text → List Replacement)
    (offset : Nat) (part : Text) : List Replacement :=
  match landmark.find? part with
  | none => localsFrom offset part
  | some cut =>
    localsFrom offset cut.before ++ .exchange new (cut.span.shift offset) ::
      behind (offset + cut.span.stop) cut.after

/-- What is planned behind a game area. -/
def closingFrom : Nat → Text → List Replacement :=
  turnFrom Anchor.layoutClosing Template.rowClosing localsFrom

/-- The replacements of a rewrite in the order of the screen. -/
def plan (source : Text) : List Replacement :=
  turnFrom Anchor.gameArea Template.videoRow closingFrom 0 source

/-- A closing stands first behind the first game area where a search finds it there. -/
theorem firstAt_behind_iff {area : Cut} (search : Anchor.gameArea.find? source = some area)
    {span : Span} : Anchor.layoutClosing.FirstAt source area.span.stop span ↔
      ∃ closing, Anchor.layoutClosing.find? area.after = some closing ∧
        span = closing.span.shift area.span.stop := by
  rw [← Anchor.layoutClosing_definite.firstAt_stop_iff, Landmark.whole_of_find? search]

/-- A build method and a game area share no character. -/
theorem scaffoldBuild_apart_gameArea :
    Anchor.scaffoldBuild.pattern.Apart Anchor.gameArea.pattern :=
  Spelled.scaffoldBuild.apart Spelled.gameArea (by decide)

/-- A build method and a closing of the layout share no character. -/
theorem scaffoldBuild_apart_layoutClosing :
    Anchor.scaffoldBuild.pattern.Apart Anchor.layoutClosing.pattern :=
  Spelled.scaffoldBuild.apart Spelled.layoutClosing (by decide)

/-- A landmark that locals stand apart from is found behind them where it was, with locals around
it. -/
theorem find?_located {landmark : Landmark} (definite : landmark.Definite)
    (closed : landmark.pattern.Closed)
    (kept : landmark.pattern ∈ [Anchor.gameArea.pattern, Anchor.layoutClosing.pattern])
    (apart : Anchor.scaffoldBuild.pattern.Apart landmark.pattern) (part : Text) :
    landmark.find? (located part) = (landmark.find? part).map fun cut =>
      { cut with before := located cut.before, after := located cut.after } := by
  have alike (text : Text) := (located_alike text).standsIn_iff kept
  cases search : landmark.find? part with
  | none =>
    rw [Option.map_none, definite.find?_eq_none_iff, located, alike]
    exact definite.find?_eq_none_iff.mp search
  | some cut =>
    have absent : ¬ landmark.pattern.StandsIn (located cut.before) := by
      rw [located, alike]
      exact definite.not_standsIn_before search
    have around := Anchor.scaffoldBuild_definite.insertAtEach_around scaffoldBuild_closed apart
      (definite.accepts_found search) Template.buildLocals
    have first := definite.find?_of_not_standsIn closed
      { cut with before := located cut.before, after := located cut.after }
      (definite.accepts search).1 (definite.accepts search).2 absent
    rw [Landmark.whole_of_find? search] at around
    rw [Option.map_some, ← first, located, around, Cut.whole_eq]
    rfl

/-- The locals leave the search for a game area as it was. -/
theorem gameArea_located (part : Text) : Anchor.gameArea.find? (located part) =
    (Anchor.gameArea.find? part).map fun cut =>
      { cut with before := located cut.before, after := located cut.after } :=
  find?_located Anchor.gameArea_definite (Spelled.gameArea.closed (by decide)) (by simp)
    scaffoldBuild_apart_gameArea part

/-- The locals leave the search for a closing as it was. -/
theorem layoutClosing_located (part : Text) : Anchor.layoutClosing.find? (located part) =
    (Anchor.layoutClosing.find? part).map fun cut =>
      { cut with before := located cut.before, after := located cut.after } :=
  find?_located Anchor.layoutClosing_definite (Spelled.layoutClosing.closed (by decide)) (by simp)
    scaffoldBuild_apart_layoutClosing part

/-- The locals of a part of a screen are put in at once. -/
theorem makes_localsFrom (offset : Nat) (part : Text) :
    Makes offset part (localsFrom offset part) (located part) :=
  Anchor.scaffoldBuild_definite.makes_insertAtEach Template.buildLocals offset part

/-- Without the landmark of a turn there are only locals. -/
theorem turnFrom_of_find?_eq_none {landmark : Landmark} {part : Text}
    (missing : landmark.find? part = none) (new : Text) (behind : Nat → Text → List Replacement)
    (offset : Nat) : turnFrom landmark new behind offset part = localsFrom offset part := by
  rw [turnFrom, missing]

/-- A turn makes at once what its landmark becomes, the locals before it and what is made behind
it. -/
theorem makes_turnFrom {landmark : Landmark} {part result : Text} {cut : Cut}
    {behind : Nat → Text → List Replacement} {offset : Nat} (new : Text)
    (search : landmark.find? part = some cut)
    (later : Makes (offset + cut.span.stop) cut.after (behind (offset + cut.span.stop) cut.after)
      result) : Makes offset part (turnFrom landmark new behind offset part)
        (located cut.before ++ new ++ result) := by
  have makes := Anchor.scaffoldBuild_definite.makes_exchange Template.buildLocals new later
  rw [Landmark.whole_of_find? search] at makes
  rwa [turnFrom, search]

/-- What comes of the turns of a rewrite its plan makes at once. -/
theorem makes_plan (source : Text) : ∃ notices output, Makes 0 source (plan source) output ∧
    Said source notices ∧ openRow (located source) = .write output notices := by
  rw [plan, openRow, gameArea_located]
  cases search : Anchor.gameArea.find? source with
  | none =>
    have missing : ¬ ∃ area, Anchor.gameArea.FirstAt source 0 area := by
      simp [Anchor.gameArea_definite.firstAt_zero_iff, search]
    rw [turnFrom_of_find?_eq_none search]
    exact ⟨_, _, makes_localsFrom 0 source, .noArea missing, rfl⟩
  | some area =>
    have first : Anchor.gameArea.FirstAt source 0 area.span :=
      Anchor.gameArea_definite.firstAt_zero_iff.mpr ⟨area, search, rfl⟩
    simp only [Option.map_some, layoutClosing_located]
    cases closes : Anchor.layoutClosing.find? area.after with
    | none =>
      have missing : ¬ ∃ closing, Anchor.layoutClosing.FirstAt source area.span.stop closing := by
        simp [firstAt_behind_iff search, closes]
      have locals := makes_localsFrom (0 + area.span.stop) area.after
      rw [← turnFrom_of_find?_eq_none closes Template.rowClosing localsFrom] at locals
      exact ⟨_, _, makes_turnFrom _ search locals, .noClosing first missing, rfl⟩
    | some closing =>
      have next : Anchor.layoutClosing.FirstAt source area.span.stop
          (closing.span.shift area.span.stop) :=
        (firstAt_behind_iff search).mpr ⟨closing, closes, rfl⟩
      have locals := makes_localsFrom (0 + area.span.stop + closing.span.stop) closing.after
      have closed := makes_turnFrom Template.rowClosing closes locals
      exact ⟨_, _, makes_turnFrom _ search closed, .closed first next, rfl⟩

/-- Around a first landmark that locals stand apart from there are the locals before it and those
behind it. -/
theorem localsFrom_around {landmark : Landmark} (definite : landmark.Definite)
    (apart : Anchor.scaffoldBuild.pattern.Apart landmark.pattern) {part : Text} {cut : Cut}
    (search : landmark.find? part = some cut) (offset : Nat) : localsFrom offset part =
      localsFrom offset cut.before ++ localsFrom (offset + cut.span.stop) cut.after := by
  have around := Anchor.scaffoldBuild_definite.insertionsFrom_around scaffoldBuild_closed apart
    (definite.accepts_found search) Template.buildLocals offset
  rwa [Landmark.whole_of_find? search] at around

/-- What a turn replaces is each of the locals, the first of its landmark, and what is replaced
behind that besides locals. -/
theorem mem_turnFrom_iff {landmark : Landmark} (definite : landmark.Definite)
    (apart : Anchor.scaffoldBuild.pattern.Apart landmark.pattern) {new : Text}
    {behind : Nat → Text → List Replacement} {also : Nat → Text → Prop}
    (later : ∀ offset part, replacement ∈ behind offset part ↔
      replacement ∈ localsFrom offset part ∨ also offset part) (offset : Nat) (part : Text) :
    replacement ∈ turnFrom landmark new behind offset part ↔
      replacement ∈ localsFrom offset part ∨ ∃ cut, landmark.find? part = some cut ∧
        (replacement = .exchange new (cut.span.shift offset) ∨
          also (offset + cut.span.stop) cut.after) := by
  cases search : landmark.find? part with
  | none => simp [turnFrom_of_find?_eq_none search]
  | some cut =>
    rw [turnFrom, search, localsFrom_around definite apart search]
    simp only [List.mem_append, List.mem_cons, later, Option.some.injEq, exists_eq_left']
    grind

/-- What is planned for a screen is known from the searches of it. -/
theorem planned_iff : Planned source replacement ↔ replacement ∈ localsFrom 0 source ∨
    ∃ area, Anchor.gameArea.find? source = some area ∧
      (replacement = .exchange Template.videoRow (area.span.shift 0) ∨
        ∃ closing, Anchor.layoutClosing.find? area.after = some closing ∧
          replacement =
            .exchange Template.rowClosing (closing.span.shift (0 + area.span.stop))) := by
  have unshifted (span : Span) : span.shift 0 = span := by simp [Span.shift]
  simp only [localsFrom, Anchor.scaffoldBuild_definite.mem_insertionsFrom_iff scaffoldBuild_closed,
    unshifted, Nat.zero_add]
  constructor
  · intro planned
    cases planned with
    | locals stands => exact .inl ⟨_, stands, rfl⟩
    | opening first =>
      obtain ⟨area, search, rfl⟩ := Anchor.gameArea_definite.firstAt_zero_iff.mp first
      exact .inr ⟨area, search, .inl rfl⟩
    | closing first next =>
      obtain ⟨area, search, rfl⟩ := Anchor.gameArea_definite.firstAt_zero_iff.mp first
      obtain ⟨closing, closes, rfl⟩ := (firstAt_behind_iff search).mp next
      exact .inr ⟨area, search, .inr ⟨closing, closes, rfl⟩⟩
  · rintro (⟨build, stands, rfl⟩ | ⟨area, search, rfl | ⟨closing, closes, rfl⟩⟩)
    · exact .locals stands
    · exact .opening (Anchor.gameArea_definite.firstAt_zero_iff.mpr ⟨area, search, rfl⟩)
    · exact .closing (Anchor.gameArea_definite.firstAt_zero_iff.mpr ⟨area, search, rfl⟩)
        ((firstAt_behind_iff search).mpr ⟨closing, closes, rfl⟩)

/-- The plan of a rewrite lists what is planned and nothing else. -/
theorem mem_plan_iff : replacement ∈ plan source ↔ Planned source replacement := by
  have locals (offset : Nat) (part : Text) : replacement ∈ localsFrom offset part ↔
      replacement ∈ localsFrom offset part ∨ False := by rw [or_false]
  have closing : ∀ offset part, replacement ∈ closingFrom offset part ↔ _ :=
    mem_turnFrom_iff Anchor.layoutClosing_definite scaffoldBuild_apart_layoutClosing locals
  have area : replacement ∈ plan source ↔ _ :=
    mem_turnFrom_iff Anchor.gameArea_definite scaffoldBuild_apart_gameArea closing 0 source
  rw [planned_iff, area]
  simp only [or_false]

/-- What is planned from a place on is planned for places of its own, in order. -/
structure Ordered (planFrom : Nat → Text → List Replacement) : Prop where
  /-- No replacement is planned for a place in front. -/
  behind {offset : Nat} {part : Text} {replacement : Replacement}
    (member : replacement ∈ planFrom offset part) : offset ≤ replacement.start
  /-- Each is over before the next one starts. -/
  pairwise (offset : Nat) (part : Text) : (planFrom offset part).Pairwise Before

/-- Locals are planned in order. -/
theorem ordered_localsFrom : Ordered localsFrom where
  behind member := Nat.le_of_lt (Anchor.scaffoldBuild_definite.inside_of_mem_insertionsFrom
    scaffoldBuild_closed rfl rfl member).1
  pairwise := Anchor.scaffoldBuild_definite.pairwise_insertionsFrom scaffoldBuild_closed rfl rfl
    Template.buildLocals

/-- A turn keeps what is planned in order. -/
theorem Ordered.turnFrom {behind : Nat → Text → List Replacement} (ordered : Ordered behind)
    {landmark : Landmark} (definite : landmark.Definite) (new : Text) :
    Ordered (turnFrom landmark new behind) where
  behind {offset part replacement} member := by
    cases search : landmark.find? part with
    | none =>
      rw [turnFrom_of_find?_eq_none search] at member
      exact ordered_localsFrom.behind member
    | some cut =>
      rw [Screen.turnFrom, search] at member
      rcases List.mem_append.mp member with front | rest
      · exact ordered_localsFrom.behind front
      · rcases List.mem_cons.mp rest with rfl | later
        · exact Nat.le_add_right offset _
        · exact Nat.le_trans (Nat.le_add_right offset _) (ordered.behind later)
  pairwise offset part := by
    cases search : landmark.find? part with
    | none =>
      rw [turnFrom_of_find?_eq_none search]
      exact ordered_localsFrom.pairwise offset part
    | some cut =>
      have full := Pattern.ne_nil_of_isSolid definite.solid (definite.accepts_found search)
      rw [Screen.turnFrom, search]
      exact Anchor.scaffoldBuild_definite.pairwise_exchange scaffoldBuild_closed rfl rfl full
        (fun later member => ordered.behind member) (ordered.pairwise _ cut.after)

/-- What is planned for a screen is planned for places of its own, in order. -/
theorem pairwise_plan (source : Text) : (plan source).Pairwise Before := by
  have closing : Ordered closingFrom :=
    ordered_localsFrom.turnFrom Anchor.layoutClosing_definite Template.rowClosing
  exact (closing.turnFrom Anchor.gameArea_definite Template.videoRow).pairwise 0 source

/-- A rewrite of build methods is a set of replacements made at once. A screen that does not show
the video, and has a build method that returns a scaffold, becomes what the planned replacements
make of it, each at places of its own, and what is said is known from that screen. Any other screen
is left alone, with one remark. -/
theorem rewriteBuild_at_once (source : Text) :
    (showsVideo source = false ∧ (∃ build, Anchor.scaffoldBuild.StandsAt source build) →
      ∃ replacements notices,
        (∀ replacement, replacement ∈ replacements ↔ Planned source replacement) ∧
          replacements.Pairwise Before ∧ Said source notices ∧
          rewriteBuild source = .write (made replacements source) notices) ∧
      (¬ (showsVideo source = false ∧ ∃ build, Anchor.scaffoldBuild.StandsAt source build) →
        ∃ notice, notice.message.level = .info ∧ rewriteBuild source = .leave [notice]) := by
  rw [Landmark.exists_standsAt_iff, ← Anchor.scaffoldBuild_definite.find?_isSome_iff]
  constructor
  · rintro ⟨unshown, stands⟩
    obtain ⟨cut, search⟩ := Option.isSome_iff_exists.mp stands
    obtain ⟨notices, output, makes, said, course⟩ := makes_plan source
    refine ⟨plan source, notices, fun _ => mem_plan_iff, pairwise_plan source, said, ?_⟩
    rw [makes.made_eq, ← course, rewriteBuild, unshown, search]
    rfl
  · intro alone
    rw [rewriteBuild]
    cases shown : showsVideo source with
    | true => exact ⟨.alreadyShown, rfl, rfl⟩
    | false =>
      cases search : Anchor.scaffoldBuild.find? source with
      | none => exact ⟨.noScaffoldBuild, rfl, rfl⟩
      | some cut => exact (alone ⟨shown, by rw [search]; rfl⟩).elim

/-- A small screen with two build methods and a game area between them, without a closing. -/
def twoBuildScreen : Text := "@override
Widget build(BuildContext context) {
  return Scaffold(
    // Área de juego
    Expanded( child: Center( game )));
}
@override Widget build(BuildContext context) { return Scaffold(); }".toList

set_option maxRecDepth 2000 in
/-- The small screen is rewritten at once, and a screen without a build method is left alone. -/
theorem rewriteBuild_at_once_twoBuildScreen :
    (∃ replacements notices,
        (∀ replacement, replacement ∈ replacements ↔ Planned twoBuildScreen replacement) ∧
          replacements.Pairwise Before ∧ Said twoBuildScreen notices ∧
          rewriteBuild twoBuildScreen =
            .write (made replacements twoBuildScreen) notices) ∧
      ∃ notice, notice.message.level = .info ∧ rewriteBuild [] = .leave [notice] := by
  have marks : showsVideo twoBuildScreen = false ∧
      (Anchor.scaffoldBuild.find? twoBuildScreen).isSome = true :=
    Text.of_literal (motive := fun source => showsVideo source = false ∧
      (Anchor.scaffoldBuild.find? source).isSome = true) rfl (by decide +kernel)
  have stands : ∃ build, Anchor.scaffoldBuild.StandsAt twoBuildScreen build :=
    Landmark.exists_standsAt_iff.mpr
      (Anchor.scaffoldBuild_definite.find?_isSome_iff.mp marks.2)
  have missing : ¬ ∃ build, Anchor.scaffoldBuild.StandsAt [] build := by
    rw [Landmark.exists_standsAt_iff, ← Anchor.scaffoldBuild_definite.find?_eq_none_iff]
    decide +kernel
  exact ⟨(rewriteBuild_at_once twoBuildScreen).1 ⟨marks.1, stands⟩,
    (rewriteBuild_at_once []).2 fun rewritten => missing rewritten.2⟩

end ScreenRetrofit.Screen
