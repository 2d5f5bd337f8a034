import Mathlib.Data.Set.Defs
import ScreenRetrofit.Proofs.Pattern.Standing

/-!
# Where a landmark stands

A landmark stands at a span of a text when its two parts meet there, whether a search comes upon it
or not. When no text of the landmark starts inside another, every text of it is the one that a
search finds first or stands behind that one (`Definite.first_or_behind`). So the search for all
landmarks, which goes on behind each that it finds, misses none (`Definite.mem_spansFrom_iff`), and
the spans around a text of a pattern apart from the landmark are those on the one side and those on
the other (`Definite.spansFrom_around`).
-/

namespace ScreenRetrofit

namespace Text

/-- Only the empty text has no bytes. -/
theorem eq_nil_of_utf8Length_eq_zero {text : Text} (size : utf8Length text = 0) : text = [] := by
  cases text with
  | nil => rfl
  | cons first rest =>
    have positive := first.utf8Size_pos
    simp only [utf8Length] at size
    omega

/-- A text that is not empty has bytes. -/
theorem utf8Length_pos {text : Text} (some : text ≠ []) : 0 < utf8Length text :=
  Nat.pos_of_ne_zero fun size => some (eq_nil_of_utf8Length_eq_zero size)

/-- Of two fronts of one text the one with no fewer bytes goes on from the other. -/
theorem exists_of_utf8Length_le {front rest front' rest' : Text}
    (same : front ++ rest = front' ++ rest') (size : utf8Length front ≤ utf8Length front') :
    ∃ gap, front' = front ++ gap ∧ rest = gap ++ rest' := by
  rcases List.append_eq_append_iff.mp same with ⟨gap, longer, tail⟩ | ⟨gap, longer, tail⟩
  · exact ⟨gap, longer, tail⟩
  · rw [longer, utf8Length_append] at size
    obtain rfl : gap = [] := eq_nil_of_utf8Length_eq_zero (by omega)
    exact ⟨[], by simp [longer], by simp [tail]⟩

end Text

open Text (utf8Length)

/-- A span of a text as it is seen when so many bytes stand in front of the text. -/
def Landmark.Span.shift (offset : Nat) (span : Landmark.Span) : Landmark.Span :=
  ⟨offset + span.start, offset + span.place, offset + span.stop⟩

namespace Cut

/-- Where the landmark of a cut stands in the text that was cut. -/
def span (cut : Cut) : Landmark.Span :=
  ⟨utf8Length cut.before, utf8Length (cut.before ++ cut.head),
    utf8Length (cut.before ++ cut.found)⟩

/-- A cut text is what stands before the landmark, the landmark, and what stands after it. -/
theorem whole_eq (cut : Cut) : cut.whole = cut.before ++ cut.found ++ cut.after := by
  simp [whole, found]

variable (cut : Cut)

/-- The cut of a text as it is seen when a front stands before the text. -/
def behind (front : Text) : Cut := { cut with before := front ++ cut.before }

/-- Behind a front a landmark stands so many bytes further on. -/
theorem span_behind (front : Text) :
    (cut.behind front).span = cut.span.shift (utf8Length front) := by
  simp [behind, span, found, Landmark.Span.shift]

/-- Behind a front the text that was cut stands behind the front. -/
theorem whole_behind (front : Text) : (cut.behind front).whole = front ++ cut.whole := by
  simp [behind, whole]

end Cut

namespace Landmark

/-- A text of a landmark stands at a span when the text around can be cut there. -/
def StandsAt (landmark : Landmark) (text : Text) (span : Span) : Prop :=
  ∃ cut : Cut, cut.whole = text ∧ landmark.head.Accepts cut.head ∧
    landmark.tail.Accepts cut.tail ∧ cut.span = span

/-- The first text of a landmark that starts at a byte or behind it stands at a span. -/
def FirstAt (landmark : Landmark) (text : Text) (offset : Nat) (span : Span) : Prop :=
  landmark.StandsAt text span ∧ offset ≤ span.start ∧
    ∀ other, landmark.StandsAt text other → offset ≤ other.start → span.start ≤ other.start

/-- The bytes of a text that texts of a landmark end at. -/
def stops (landmark : Landmark) (text : Text) : Set Nat :=
  {stop | ∃ span, landmark.StandsAt text span ∧ span.stop = stop}

variable {landmark : Landmark} {text : Text} {cut : Cut} {span : Span}

/-- A landmark stands in a text when it stands at some span of it. -/
theorem exists_standsAt_iff :
    (∃ span, landmark.StandsAt text span) ↔ landmark.pattern.StandsIn text := by
  constructor
  · rintro ⟨_, cut, rfl, head, tail, _⟩
    exact ⟨cut.before, cut.found, cut.after, cut.whole_eq,
      Pattern.accepts_append.mpr ⟨_, _, rfl, head, tail⟩⟩
  · rintro ⟨before, found, after, rfl, described⟩
    obtain ⟨head, tail, rfl, first, second⟩ := Pattern.accepts_append.mp described
    exact ⟨_, ⟨before, head, tail, after⟩, by simp [Cut.whole], first, second, rfl⟩

/-- A landmark with a head that is never empty has its place behind its start. -/
theorem StandsAt.start_lt_place (stands : landmark.StandsAt text span)
    (solid : landmark.head.isSolid = true) : span.start < span.place := by
  obtain ⟨cut, _, head, _, rfl⟩ := stands
  have positive := Text.utf8Length_pos (Pattern.ne_nil_of_isSolid solid head)
  simp only [Cut.span, Text.utf8Length_append]
  omega

/-- A landmark with a tail that is never empty has its place in front of its end. -/
theorem StandsAt.place_lt_stop (stands : landmark.StandsAt text span)
    (solid : landmark.tail.isSolid = true) : span.place < span.stop := by
  obtain ⟨cut, _, _, tail, rfl⟩ := stands
  have positive := Text.utf8Length_pos (Pattern.ne_nil_of_isSolid solid tail)
  simp only [Cut.span, Cut.found, Text.utf8Length_append]
  omega

/-- A landmark stands inside its text. -/
theorem StandsAt.stop_le (stands : landmark.StandsAt text span) :
    span.stop ≤ utf8Length text := by
  obtain ⟨cut, rfl, _, _, rfl⟩ := stands
  simp only [Cut.span, Cut.found, Cut.whole, Text.utf8Length_append]
  omega

/-- What stands in the end of a text stands in the text, so many bytes further on. -/
theorem StandsAt.shift (stands : landmark.StandsAt text span) (front : Text) :
    landmark.StandsAt (front ++ text) (span.shift (utf8Length front)) := by
  obtain ⟨cut, rfl, head, tail, rfl⟩ := stands
  exact ⟨cut.behind front, cut.whole_behind front, head, tail, cut.span_behind front⟩

/-- What starts behind the front of a text stands in the rest. -/
theorem StandsAt.exists_shift {front : Text} (stands : landmark.StandsAt (front ++ text) span)
    (behind : utf8Length front ≤ span.start) :
    ∃ inner, landmark.StandsAt text inner ∧ span = inner.shift (utf8Length front) := by
  obtain ⟨cut, whole, head, tail, rfl⟩ := stands
  have same : front ++ text = cut.before ++ (cut.head ++ cut.tail ++ cut.after) := by
    rw [← whole]
    simp [Cut.whole]
  obtain ⟨gap, before, rest⟩ := Text.exists_of_utf8Length_le same behind
  exact ⟨_, ⟨⟨gap, cut.head, cut.tail, cut.after⟩, by simp [Cut.whole, rest], head, tail, rfl⟩,
    by simp [Cut.span, Cut.found, Span.shift, before]⟩

/-- Spans of segments do not start before the offset of the first. -/
theorem le_start_of_mem_spansFrom {segments : List Segment} {offset : Nat}
    (member : span ∈ spansFrom offset segments) :
    offset ≤ span.start ∧ span.start ≤ span.place ∧ span.place ≤ span.stop := by
  induction segments generalizing offset with
  | nil => contradiction
  | cons segment segments ih =>
    simp only [spansFrom, List.mem_cons] at member
    rcases member with rfl | later
    · exact ⟨Nat.le_add_right _ _, Nat.le_add_right _ _, Nat.le_add_right _ _⟩
    · have inside := ih later
      omega

/-- Each span of segments is over where the next one starts. -/
theorem pairwise_spansFrom (offset : Nat) (segments : List Segment) :
    (spansFrom offset segments).Pairwise fun first second => first.stop ≤ second.start := by
  induction segments generalizing offset with
  | nil => exact .nil
  | cons segment segments ih =>
    exact .cons (fun second later => (le_start_of_mem_spansFrom later).1) (ih _)

namespace Definite

/-- Two texts of a definite landmark that start at one byte are the same. -/
theorem eq_of_start_eq (definite : landmark.Definite) {other : Span}
    (stands : landmark.StandsAt text span) (stands' : landmark.StandsAt text other)
    (same : span.start = other.start) : span = other := by
  obtain ⟨cut, rfl, head, tail, rfl⟩ := stands
  obtain ⟨cut', whole, head', tail', rfl⟩ := stands'
  have split : cut.before ++ (cut.head ++ cut.tail ++ cut.after) =
      cut'.before ++ (cut'.head ++ cut'.tail ++ cut'.after) := by
    rw [← List.append_assoc, ← List.append_assoc, ← List.append_assoc, ← List.append_assoc]
    exact whole.symm
  obtain ⟨gap, before, rest⟩ := Text.exists_of_utf8Length_le split (Nat.le_of_eq same)
  have size := congrArg utf8Length before
  rw [Text.utf8Length_append] at size
  simp only [Cut.span] at same
  obtain rfl : gap = [] := Text.eq_nil_of_utf8Length_eq_zero (by omega)
  rw [List.nil_append] at rest
  obtain ⟨heads, tails⟩ := definite.unique ⟨head, tail⟩ ⟨head', tail'⟩ rest
  simp [Cut.span, Cut.found, before, heads, tails]

/-- The first cut is where the landmark stands. -/
theorem standsAt_of_find? (definite : landmark.Definite) (found : landmark.find? text = some cut) :
    landmark.StandsAt text cut.span :=
  ⟨cut, whole_of_find? found, (definite.accepts found).1, (definite.accepts found).2, rfl⟩

/-- Of a landmark that never starts inside itself every text is the first one or stands behind the
first. -/
theorem first_or_behind (definite : landmark.Definite) (closed : landmark.pattern.Closed)
    (search : landmark.find? text = some cut) {other : Cut} (whole : other.whole = text)
    (head : landmark.head.Accepts other.head) (tail : landmark.tail.Accepts other.tail) :
    other = cut ∨ ∃ gap, other.before = cut.before ++ cut.found ++ gap ∧
      cut.after = gap ++ other.found ++ other.after := by
  have described : landmark.pattern.Accepts other.found :=
    Pattern.accepts_append.mpr ⟨_, _, rfl, head, tail⟩
  have split : text = other.before ++ other.found ++ other.after := by
    rw [← whole]
    exact other.whole_eq
  obtain ⟨gap, start⟩ := definite.first search split described
  have here : cut.found ++ cut.after = gap ++ (other.found ++ other.after) := by
    rw [← whole_of_find? search, start] at split
    simpa [Cut.whole, Cut.found] using split
  by_cases ahead : gap = []
  · -- It starts where the first does, so it is the first.
    subst ahead
    have same : other.head ++ other.tail ++ other.after = cut.head ++ cut.tail ++ cut.after :=
      here.symm
    obtain ⟨heads, tails⟩ := definite.unique ⟨head, tail⟩ (definite.accepts search) same
    rw [heads, tails] at same
    obtain ⟨before, _, _, after⟩ := other
    obtain rfl := List.append_cancel_left same
    exact .inl (by simp_all)
  · obtain ⟨rest, rfl⟩ := closed (definite.accepts_found search) described ahead here
    exact .inr ⟨rest, by simp [start], by simpa using here⟩

/-- The landmark does not stand before the first cut. -/
theorem not_standsIn_before (definite : landmark.Definite)
    (search : landmark.find? text = some cut) : ¬ landmark.pattern.StandsIn cut.before := by
  rintro ⟨before, stretch, after, split, described⟩
  have whole : text = before ++ stretch ++ (after ++ cut.found ++ cut.after) := by
    rw [← whole_of_find? search, Cut.whole, split]
    simp [Cut.found]
  obtain ⟨gap, start⟩ := definite.first search whole described
  have positive := List.length_pos_iff.mpr (Pattern.ne_nil_of_isSolid definite.solid described)
  have sizes := congrArg List.length split
  rw [start] at sizes
  simp only [List.length_append] at sizes
  omega

/-- A text of the landmark is the first one when the landmark does not stand before it. -/
theorem find?_of_not_standsIn (definite : landmark.Definite) (closed : landmark.pattern.Closed)
    (cut : Cut) (head : landmark.head.Accepts cut.head) (tail : landmark.tail.Accepts cut.tail)
    (absent : ¬ landmark.pattern.StandsIn cut.before) :
    landmark.find? cut.whole = some cut := by
  have stands : landmark.pattern.StandsIn cut.whole :=
    exists_standsAt_iff.mp ⟨_, cut, rfl, head, tail, rfl⟩
  obtain ⟨first, search⟩ := Option.isSome_iff_exists.mp (definite.find?_isSome_iff.mpr stands)
  rcases definite.first_or_behind closed search rfl head tail with rfl | ⟨gap, behind, _⟩
  · exact search
  · exact (absent ⟨first.before, first.found, gap, behind, definite.accepts_found search⟩).elim

/-- The first cut of a text is the first of every text that goes on from it. -/
theorem find?_append (definite : landmark.Definite) (closed : landmark.pattern.Closed)
    (search : landmark.find? text = some cut) (more : Text) :
    landmark.find? (text ++ more) = some { cut with after := cut.after ++ more } := by
  have absent := definite.not_standsIn_before search
  have first := definite.find?_of_not_standsIn closed { cut with after := cut.after ++ more }
    (definite.accepts search).1 (definite.accepts search).2 absent
  rw [← first, ← whole_of_find? search]
  simp [Cut.whole]

/-- A landmark stands first behind a front exactly where a search of the rest finds it. -/
theorem firstAt_iff (definite : landmark.Definite) {front rest : Text} :
    landmark.FirstAt (front ++ rest) (utf8Length front) span ↔
      ∃ cut, landmark.find? rest = some cut ∧ span = cut.span.shift (utf8Length front) := by
  have isFirst {cut : Cut} (search : landmark.find? rest = some cut) :
      landmark.FirstAt (front ++ rest) (utf8Length front) (cut.span.shift (utf8Length front)) := by
    refine ⟨(definite.standsAt_of_find? search).shift front, Nat.le_add_right _ _, ?_⟩
    intro other stands behind
    obtain ⟨_, ⟨cut', whole, head, tail, rfl⟩, rfl⟩ := stands.exists_shift behind
    have split : rest = cut'.before ++ cut'.found ++ cut'.after := by
      rw [← whole]
      exact cut'.whole_eq
    obtain ⟨gap, start⟩ := definite.first search split
      (Pattern.accepts_append.mpr ⟨_, _, rfl, head, tail⟩)
    simp only [Span.shift, Cut.span, start, Text.utf8Length_append]
    omega
  constructor
  · rintro ⟨stands, behind, least⟩
    obtain ⟨inner, inside, _⟩ := stands.exists_shift behind
    obtain ⟨cut, search⟩ := Option.isSome_iff_exists.mp
      (definite.find?_isSome_iff.mpr (exists_standsAt_iff.mp ⟨inner, inside⟩))
    obtain ⟨stands', behind', least'⟩ := isFirst search
    have same := Nat.le_antisymm (least _ stands' behind') (least' _ stands behind)
    exact ⟨cut, search, definite.eq_of_start_eq stands stands' same⟩
  · rintro ⟨cut, search, rfl⟩
    exact isFirst search

/-- A landmark stands first in a text exactly where a search finds it. -/
theorem firstAt_zero_iff (definite : landmark.Definite) :
    landmark.FirstAt text 0 span ↔ ∃ cut, landmark.find? text = some cut ∧ span = cut.span := by
  have first : landmark.FirstAt ([] ++ text) (utf8Length []) span ↔ _ := definite.firstAt_iff
  simpa [Span.shift, utf8Length] using first

/-- A landmark stands first behind a cut exactly where a search of what stands there finds it. -/
theorem firstAt_stop_iff (definite : landmark.Definite) {around : Cut} :
    landmark.FirstAt around.whole around.span.stop span ↔
      ∃ cut, landmark.find? around.after = some cut ∧
        span = cut.span.shift around.span.stop := by
  rw [around.whole_eq]
  exact definite.firstAt_iff

/-- Without the landmark a text has no spans of it. -/
theorem spansFrom_of_find?_eq_none (missing : landmark.find? text = none) (offset : Nat) :
    spansFrom offset (landmark.segments text).1 = [] := by
  rw [segments_of_find?_eq_none missing, spansFrom]

/-- The spans of a landmark are that of the first and those behind it. -/
theorem spansFrom_of_find?_eq_some (definite : landmark.Definite)
    (search : landmark.find? text = some cut) (offset : Nat) :
    spansFrom offset (landmark.segments text).1 = cut.span.shift offset ::
      spansFrom (offset + utf8Length (cut.before ++ cut.found))
        (landmark.segments cut.after).1 := by
  rw [definite.segments_of_find?_eq_some search]
  simp [spansFrom, Cut.span, Cut.found, Span.shift, Nat.add_assoc]

/-- A search for all landmarks finds each of them, wherever it stands. -/
theorem mem_spansFrom_iff (definite : landmark.Definite) (closed : landmark.pattern.Closed)
    (offset : Nat) (text : Text) (span : Span) :
    span ∈ spansFrom offset (landmark.segments text).1 ↔
      ∃ inner, landmark.StandsAt text inner ∧ span = inner.shift offset := by
  induction text using definite.scan generalizing offset with
  | missing text missing =>
    rw [spansFrom_of_find?_eq_none missing]
    have absent := definite.find?_eq_none_iff.mp missing
    constructor
    · intro member
      contradiction
    · rintro ⟨inner, stands, _⟩
      exact (absent (exists_standsAt_iff.mp ⟨inner, stands⟩)).elim
  | found text cut search ih =>
    rw [definite.spansFrom_of_find?_eq_some search, List.mem_cons, ih]
    constructor
    · rintro (rfl | ⟨inner, stands, rfl⟩)
      · exact ⟨cut.span, definite.standsAt_of_find? search, rfl⟩
      · have whole : text = cut.before ++ cut.found ++ cut.after := by
          rw [← whole_of_find? search]
          exact cut.whole_eq
        exact ⟨_, whole ▸ stands.shift (cut.before ++ cut.found),
          by simp [Span.shift, Nat.add_assoc]⟩
    · rintro ⟨_, ⟨other, whole, head, tail, rfl⟩, rfl⟩
      rcases definite.first_or_behind closed search whole head tail with rfl | ⟨gap, start, rest⟩
      · exact .inl rfl
      · refine .inr ⟨_, ⟨⟨gap, other.head, other.tail, other.after⟩, ?_, head, tail, rfl⟩, ?_⟩
        · simp [rest, Cut.whole, Cut.found]
        · simp [start, Cut.span, Cut.found, Span.shift, Nat.add_assoc]

/-- A text of a pattern apart from a landmark, behind a text without it, leaves the search behind
as it was. -/
theorem find?_behind (definite : landmark.Definite) (closed : landmark.pattern.Closed)
    {other : Pattern} (apart : landmark.pattern.Apart other) {left block : Text}
    (blocked : other.Accepts block) (absent : ¬ landmark.pattern.StandsIn left) (right : Text) :
    landmark.find? (left ++ block ++ right) =
      (landmark.find? right).map fun cut => cut.behind (left ++ block) := by
  cases search : landmark.find? right with
  | none =>
    rw [Option.map_none, definite.find?_eq_none_iff, Pattern.standsIn_around apart blocked]
    exact not_or.mpr ⟨absent, definite.find?_eq_none_iff.mp search⟩
  | some cut =>
    have before : ¬ landmark.pattern.StandsIn (left ++ block ++ cut.before) := by
      rw [Pattern.standsIn_around apart blocked]
      exact not_or.mpr ⟨absent, definite.not_standsIn_before search⟩
    have first := definite.find?_of_not_standsIn closed (cut.behind (left ++ block))
      (definite.accepts search).1 (definite.accepts search).2 before
    rw [Option.map_some, ← first, cut.whole_behind, whole_of_find? search]

/-- Around a text of a pattern apart from it a landmark has its spans before that text and behind
it. -/
theorem spansFrom_around (definite : landmark.Definite) (closed : landmark.pattern.Closed)
    {other : Pattern} (apart : landmark.pattern.Apart other) {block : Text}
    (blocked : other.Accepts block) (offset : Nat) (left right : Text) :
    spansFrom offset (landmark.segments (left ++ block ++ right)).1 =
      spansFrom offset (landmark.segments left).1 ++
        spansFrom (offset + utf8Length (left ++ block)) (landmark.segments right).1 := by
  induction left using definite.scan generalizing offset with
  | missing left missing =>
    have absent := definite.find?_eq_none_iff.mp missing
    have behind := definite.find?_behind closed apart blocked absent right
    rw [spansFrom_of_find?_eq_none missing, List.nil_append]
    cases search : landmark.find? right with
    | none =>
      rw [search, Option.map_none] at behind
      rw [spansFrom_of_find?_eq_none behind, spansFrom_of_find?_eq_none search]
    | some cut =>
      rw [search, Option.map_some] at behind
      rw [definite.spansFrom_of_find?_eq_some behind, definite.spansFrom_of_find?_eq_some search]
      simp [Cut.behind, Cut.span, Cut.found, Span.shift, Nat.add_assoc]
  | found left cut search ih =>
    have first := definite.find?_append closed search (block ++ right)
    rw [← List.append_assoc] at first
    have size : utf8Length (cut.before ++ cut.found) + utf8Length (cut.after ++ block) =
        utf8Length (left ++ block) := by
      rw [← whole_of_find? search]
      simp [Cut.whole, Cut.found, Nat.add_assoc]
    rw [definite.spansFrom_of_find?_eq_some first, definite.spansFrom_of_find?_eq_some search]
    simp only [Cut.span, Cut.found, List.cons_append, ← List.append_assoc, ih] at size ⊢
    rw [Nat.add_assoc, size]

end Definite

end Landmark

end ScreenRetrofit
