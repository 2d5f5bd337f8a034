import ScreenRetrofit.Proofs.Pattern.Occurrence
import ScreenRetrofit.Proofs.Pattern.Single

/-!
# Scans of a text

A scan goes through a text from left to right. It takes the first text of a landmark that starts at
a byte or behind it, whatever stands there, and goes on behind its end. For a definite landmark
there is one scan of a text, that of `Landmark.spans` (`Definite.scans_iff`). When no text of the
landmark starts inside another, any two of them are the same or share no byte
(`Definite.eq_or_apart`), and the scan takes every one (`Definite.exhaustive`).
-/

namespace ScreenRetrofit.Landmark

open Text (utf8Length)

/-- The spans that a scan for a landmark takes from a byte on. -/
inductive Scans (landmark : Landmark) (text : Text) : Nat → List Span → Prop where
  /-- A scan ends where no text of the landmark starts any more. -/
  | done {offset : Nat} (missing : ¬ ∃ span, landmark.FirstAt text offset span) :
      Scans landmark text offset []
  /-- A scan takes the first and goes on behind it. -/
  | found {offset : Nat} {span : Span} {spans : List Span}
      (first : landmark.FirstAt text offset span) (later : Scans landmark text span.stop spans) :
      Scans landmark text offset (span :: spans)

/-- The texts of a landmark in a text stand apart, and the scan of the text takes all of them. -/
structure Exhaustive (landmark : Landmark) (text : Text) : Prop where
  /-- Of those that start at one byte there is one. -/
  unique {span other : Span} (stands : landmark.StandsAt text span)
    (stands' : landmark.StandsAt text other) (same : span.start = other.start) : span = other
  /-- Two different ones share no byte. -/
  apart {span other : Span} (stands : landmark.StandsAt text span)
    (stands' : landmark.StandsAt text other) (different : span ≠ other) :
    span.stop ≤ other.start ∨ other.stop ≤ span.start
  /-- There is one scan. -/
  scans_iff {spans : List Span} : landmark.Scans text 0 spans ↔ spans = landmark.spans text
  /-- The scan takes each of them and nothing else. -/
  mem_spans_iff {span : Span} : span ∈ landmark.spans text ↔ landmark.StandsAt text span
  /-- It takes them in order. -/
  pairwise_spans : (landmark.spans text).Pairwise fun first second =>
    first.start < first.stop ∧ first.stop ≤ second.start

variable {landmark : Landmark} {text : Text} {span other : Span} {spans : List Span}

namespace Definite

/-- A text of a definite landmark ends behind its start. -/
theorem start_lt_stop (definite : landmark.Definite) (stands : landmark.StandsAt text span) :
    span.start < span.stop := by
  obtain ⟨cut, _, head, tail, rfl⟩ := stands
  have described : landmark.pattern.Accepts cut.found :=
    Pattern.accepts_append.mpr ⟨_, _, rfl, head, tail⟩
  have positive := Text.utf8Length_pos (Pattern.ne_nil_of_isSolid definite.solid described)
  simp only [Cut.span, Text.utf8Length_append]
  omega

/-- A scan behind a front takes the spans of what stands there, so many bytes further on. -/
theorem scans_iff_spansFrom (definite : landmark.Definite) (front rest : Text) :
    landmark.Scans (front ++ rest) (utf8Length front) spans ↔
      spans = spansFrom (utf8Length front) (landmark.segments rest).1 := by
  induction rest using definite.scan generalizing front spans with
  | missing rest missing =>
    rw [spansFrom_of_find?_eq_none missing]
    have absent : ¬ ∃ span, landmark.FirstAt (front ++ rest) (utf8Length front) span := by
      simp [definite.firstAt_iff, missing]
    constructor
    · intro scan
      cases scan with
      | done => rfl
      | found first => exact (absent ⟨_, first⟩).elim
    · rintro rfl
      exact .done absent
  | found rest cut search ih =>
    rw [definite.spansFrom_of_find?_eq_some search]
    have first : landmark.FirstAt (front ++ rest) (utf8Length front)
        (cut.span.shift (utf8Length front)) := definite.firstAt_iff.mpr ⟨cut, search, rfl⟩
    have whole : front ++ rest = front ++ (cut.before ++ cut.found) ++ cut.after := by
      rw [← whole_of_find? search, Cut.whole_eq]
      simp
    have stop : (cut.span.shift (utf8Length front)).stop =
        utf8Length (front ++ (cut.before ++ cut.found)) := by
      rw [Text.utf8Length_append]
      rfl
    have behind {later : List Span} :
        landmark.Scans (front ++ rest) (cut.span.shift (utf8Length front)).stop later ↔
          later = spansFrom (utf8Length (front ++ (cut.before ++ cut.found)))
            (landmark.segments cut.after).1 := by
      rw [whole, stop]
      exact ih (front ++ (cut.before ++ cut.found))
    rw [Text.utf8Length_append front] at behind
    constructor
    · intro scan
      cases scan with
      | done missing => exact (missing ⟨_, first⟩).elim
      | @found _ span later first' rest' =>
        obtain ⟨cut', search', rfl⟩ := definite.firstAt_iff.mp first'
        obtain rfl : cut = cut' := Option.some.inj (search.symm.trans search')
        rw [behind.mp rest']
    · rintro rfl
      exact .found first (behind.mpr rfl)

/-- There is one scan of a text. -/
theorem scans_iff (definite : landmark.Definite) :
    landmark.Scans text 0 spans ↔ spans = landmark.spans text :=
  definite.scans_iff_spansFrom [] text

variable (definite : landmark.Definite) (closed : landmark.pattern.Closed)
include definite closed

/-- The scan of a text takes every text of a landmark that never starts inside itself. -/
theorem mem_spans_iff : span ∈ landmark.spans text ↔ landmark.StandsAt text span := by
  rw [spans, definite.mem_spansFrom_iff closed]
  simp [Span.shift]

/-- The scan of a text takes its spans in order, each of them behind the end of the one before. -/
theorem pairwise_spans (text : Text) : (landmark.spans text).Pairwise fun first second =>
    first.start < first.stop ∧ first.stop ≤ second.start := by
  refine (pairwise_spansFrom 0 (landmark.segments text).1).imp_of_mem ?_
  intro first second member _ behind
  have stands : landmark.StandsAt text first := (definite.mem_spans_iff closed).mp member
  exact ⟨definite.start_lt_stop stands, behind⟩

/-- Two texts of a landmark that never starts inside itself are the same or share no byte. -/
theorem eq_or_apart (stands : landmark.StandsAt text span)
    (stands' : landmark.StandsAt text other) :
    span = other ∨ span.stop ≤ other.start ∨ other.stop ≤ span.start := by
  have ⟨cut, whole, head, tail, here⟩ := stands
  have ⟨cut', whole', head', tail', here'⟩ := stands'
  have same : cut.before ++ cut.found ++ cut.after = cut'.before ++ cut'.found ++ cut'.after := by
    rw [← Cut.whole_eq, ← Cut.whole_eq, whole, whole']
  have described : landmark.pattern.Accepts cut.found :=
    Pattern.accepts_append.mpr ⟨_, _, rfl, head, tail⟩
  have described' : landmark.pattern.Accepts cut'.found :=
    Pattern.accepts_append.mpr ⟨_, _, rfl, head', tail'⟩
  rcases closed.eq_or_apart described described' same with start | ⟨gap, behind⟩ | ⟨gap, behind⟩
  · exact .inl (definite.eq_of_start_eq stands stands' (by simp [← here, ← here', Cut.span, start]))
  · exact .inr (.inl (by simp [← here, ← here', Cut.span, behind]))
  · exact .inr (.inr (by simp [← here, ← here', Cut.span, behind]))

/-- The scan for a landmark that never starts inside itself misses nothing. -/
theorem exhaustive (text : Text) : landmark.Exhaustive text where
  unique := definite.eq_of_start_eq
  apart stands stands' different :=
    (definite.eq_or_apart closed stands stands').resolve_left different
  scans_iff := definite.scans_iff
  mem_spans_iff := definite.mem_spans_iff closed
  pairwise_spans := definite.pairwise_spans closed text

end Definite

end ScreenRetrofit.Landmark
