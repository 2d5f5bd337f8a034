import ScreenRetrofit.Proofs.Pattern.Scan
import ScreenRetrofit.Proofs.Screen.Spelled

/-!
# Scans of a screen

Build methods, game areas and closings of the layout never start inside themselves, so one scan of
a screen takes all of them. Of a build method that returns a scaffold the scan also tells where its
body opens: directly behind the brace, with nothing but blanks between it and the return
(`Anchor.exhaustive_scan`).
-/

namespace ScreenRetrofit.Anchor

open Text (utf8Length)

variable {text : Text} {span : Landmark.Span}

/-- The place of a span is directly behind the brace of a build method, strictly inside the span,
and only blanks and the return of a scaffold follow it up to the end of the span. -/
def OpensBody (text : Text) (span : Landmark.Span) : Prop :=
  ∃ before signature gap after : Text,
    text = before ++ (signature ++ "\x7b".toList) ++ (gap ++ "return Scaffold(".toList) ++ after ∧
      Pattern.Accepts (buildSignature ++ [.many .blank]) signature ∧
      (∀ c ∈ gap, Text.isBlank c = true) ∧
      span.start = utf8Length before ∧
      span.place = span.start + utf8Length (signature ++ "\x7b".toList) ∧
      span.stop = span.place + utf8Length (gap ++ "return Scaffold(".toList) ∧
      span.start < span.place ∧ span.place < span.stop

/-- Where a build method that returns a scaffold stands its body opens at the place of the span. -/
theorem opensBody_of_standsAt (stands : scaffoldBuild.StandsAt text span) :
    OpensBody text span := by
  have inFront := stands.start_lt_place rfl
  have behind := stands.place_lt_stop rfl
  obtain ⟨cut, whole, head, tail, rfl⟩ := stands
  have split : scaffoldBuild.head =
      (buildSignature ++ [.many .blank]) ++ [.literal "\x7b".toList] := rfl
  rw [split, Pattern.accepts_append] at head
  obtain ⟨signature, brace, heads, signed, braced⟩ := head
  obtain ⟨gap, rest, tails, blank, _, _, rfl, rfl, rfl⟩ := tail
  rw [Pattern.accepts_literal.mp braced] at heads
  rw [List.append_nil] at tails
  refine ⟨cut.before, signature, gap, cut.after, ?_, signed, blank, rfl, ?_, ?_, inFront, behind⟩
  · rw [← whole, Cut.whole, heads, tails]
  · simp [Cut.span, heads]
  · simp [Cut.span, Cut.found, tails, Nat.add_assoc]

/-- The texts of build methods, game areas and closings stand apart in every screen, and a scan
takes all of them. The place of a build method that returns a scaffold is where its body opens. -/
theorem exhaustive_scan {landmark : Landmark}
    (listed : landmark ∈ [memberBuild, scaffoldBuild, gameArea, layoutClosing]) (text : Text) :
    landmark.Exhaustive text ∧ ∀ span ∈ scaffoldBuild.spans text, OpensBody text span := by
  refine ⟨?_, fun span member => opensBody_of_standsAt
    ((scaffoldBuild_definite.mem_spans_iff Screen.scaffoldBuild_closed).mp member)⟩
  simp only [List.mem_cons, List.not_mem_nil, or_false] at listed
  rcases listed with rfl | rfl | rfl | rfl
  · exact memberBuild_definite.exhaustive (Spelled.memberBuild.closed (by decide)) text
  · exact scaffoldBuild_definite.exhaustive Screen.scaffoldBuild_closed text
  · exact gameArea_definite.exhaustive (Spelled.gameArea.closed (by decide)) text
  · exact layoutClosing_definite.exhaustive (Spelled.layoutClosing.closed (by decide)) text

/-- Two build methods, the second right behind the return of the first. -/
def adjacentBuilds : Text := "@override
  Widget build(BuildContext context) \x7breturn Scaffold(@override
  Widget build(BuildContext context)\x7b
  return Scaffold(".toList

set_option maxRecDepth 2000 in
/-- Where two build methods touch the scan takes both, and each opens its body at its place. -/
theorem exhaustive_scan_adjacentBuilds :
    scaffoldBuild ∈ [memberBuild, scaffoldBuild, gameArea, layoutClosing] ∧
      (∃ span, span ∈ scaffoldBuild.spans adjacentBuilds) ∧
      scaffoldBuild.Exhaustive adjacentBuilds ∧
      ∀ span ∈ scaffoldBuild.spans adjacentBuilds, OpensBody adjacentBuilds span := by
  have listed : scaffoldBuild ∈ [memberBuild, scaffoldBuild, gameArea, layoutClosing] := by simp
  have found : (scaffoldBuild.find? adjacentBuilds).isSome = true :=
    Text.of_literal (motive := fun text => (scaffoldBuild.find? text).isSome = true) rfl (by decide)
  obtain ⟨span, stands⟩ :=
    Landmark.exists_standsAt_iff.mpr (scaffoldBuild_definite.find?_isSome_iff.mp found)
  obtain ⟨exhaustive, opens⟩ := exhaustive_scan listed adjacentBuilds
  exact ⟨listed, ⟨span, exhaustive.mem_spans_iff.mpr stands⟩, exhaustive, opens⟩

end ScreenRetrofit.Anchor
