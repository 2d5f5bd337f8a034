import ScreenRetrofit.Pattern.Landmark
import ScreenRetrofit.Proofs.Pattern.Apart

/-!
# Where patterns stand

A pattern stands in a text when some stretch of the text is described by it. Around a text of a
pattern apart from it, it stands on the one side or on the other (`Pattern.standsIn_around`), so
a change of that text alone neither takes it away nor brings it in.

A search for a landmark misses nothing when the landmark's patterns are delimited: it fails
exactly where the landmark stands nowhere (`Landmark.find?_eq_none_iff`), and else it gives the
first (`Landmark.Definite.first`). A property of all texts follows from two cases, a text without
the landmark and a text whose part behind the first landmark has the property
(`Landmark.Definite.scan`); texts put at every landmark are reached in this way.
-/

namespace ScreenRetrofit

namespace Pattern

/-- A pattern stands in a text when it describes some stretch of the text. -/
def StandsIn (pattern : Pattern) (text : Text) : Prop :=
  ∃ before found after, text = before ++ found ++ after ∧ pattern.Accepts found

/-- A fixed text describes itself alone. -/
theorem accepts_literal {expected text : Text} :
    Accepts [.literal expected] text ↔ text = expected := by
  simp [Accepts, Piece.Accepts]

/-- A fixed text stands where it occurs. -/
theorem standsIn_literal {needle text : Text} :
    StandsIn [.literal needle] text ↔ Text.occursIn needle text = true := by
  simp [StandsIn, accepts_literal, Text.occursIn_iff]

/-- Two patterns in order describe a text of the one followed by a text of the other. -/
theorem accepts_append {first second : Pattern} {text : Text} :
    Accepts (first ++ second) text ↔
      ∃ left right, text = left ++ right ∧ first.Accepts left ∧ second.Accepts right := by
  induction first generalizing text with
  | nil =>
    constructor
    · exact fun described => ⟨[], text, rfl, rfl, described⟩
    · rintro ⟨_, right, rfl, rfl, described⟩
      exact described
  | cons piece pieces ih =>
    simp only [List.cons_append, Accepts, ih]
    constructor
    · rintro ⟨head, _, rfl, described, middle, right, rfl, inside, later⟩
      exact ⟨head ++ middle, right, by simp, ⟨head, middle, rfl, described, inside⟩, later⟩
    · rintro ⟨_, right, rfl, ⟨head, middle, rfl, described, inside⟩, later⟩
      exact ⟨head, middle ++ right, by simp, described, middle, right, rfl, inside, later⟩

/-- What stands in the end of a text stands in the text. -/
theorem StandsIn.append_left {pattern : Pattern} {text : Text} (stands : pattern.StandsIn text)
    (front : Text) : pattern.StandsIn (front ++ text) := by
  obtain ⟨before, found, after, rfl, described⟩ := stands
  exact ⟨front ++ before, found, after, by simp, described⟩

/-- What stands in a text stands wherever that text does. -/
theorem StandsIn.trans {pattern : Pattern} {part text : Text} (stands : pattern.StandsIn part)
    (inside : StandsIn [.literal part] text) : pattern.StandsIn text := by
  obtain ⟨front, _, back, rfl, same⟩ := inside
  obtain ⟨before, found, after, rfl, described⟩ := stands
  rw [accepts_literal.mp same]
  exact ⟨front ++ before, found, after ++ back, by simp, described⟩

/-- What stands in the front of a text stands in the text. -/
theorem StandsIn.append_right {pattern : Pattern} {text : Text} (stands : pattern.StandsIn text)
    (back : Text) : pattern.StandsIn (text ++ back) := by
  obtain ⟨before, found, after, rfl, described⟩ := stands
  exact ⟨before, found, after ++ back, by simp, described⟩

/-- Around a text of a pattern apart from it, a pattern stands before or behind that text. -/
theorem standsIn_around {pattern other : Pattern} {left block right : Text}
    (apart : pattern.Apart other) (blocked : other.Accepts block) :
    pattern.StandsIn (left ++ block ++ right) ↔ pattern.StandsIn left ∨ pattern.StandsIn right := by
  constructor
  · rintro ⟨before, found, after, same, described⟩
    rcases apart described blocked same.symm with ⟨gap, rfl⟩ | ⟨gap, rfl⟩
    · exact .inl ⟨before, found, gap, rfl, described⟩
    · simp only [List.append_assoc, List.append_cancel_left_eq] at same
      exact .inr ⟨gap, found, after, by simpa using same, described⟩
  · rintro (stands | stands)
    · exact (stands.append_right block).append_right right
    · exact stands.append_left (left ++ block)

/-- Whether a pattern describes no empty text. -/
def isSolid (pattern : Pattern) : Bool :=
  pattern.any fun
    | .literal expected => !expected.isEmpty
    | .some _ => true
    | .many _ => false

/-- A solid pattern describes no empty text. -/
theorem ne_nil_of_isSolid {pattern : Pattern} {text : Text} (solid : pattern.isSolid = true)
    (described : pattern.Accepts text) : text ≠ [] := by
  induction pattern generalizing text with
  | nil => simp [isSolid] at solid
  | cons piece pieces ih =>
    obtain ⟨first, rest, rfl, head, tail⟩ := described
    simp only [isSolid, List.any_cons, Bool.or_eq_true] at solid
    rcases solid with full | later
    · have some : first ≠ [] := by
        cases piece with
        | literal expected =>
          obtain rfl : first = expected := head
          simpa using full
        | some chars => exact head.1
        | many chars => contradiction
      exact fun empty => some (List.append_eq_nil_iff.mp empty).1
    · exact fun empty => ih later tail (List.append_eq_nil_iff.mp empty).2

/-- A solid pattern does not stand in the empty text. -/
theorem not_standsIn_nil {pattern : Pattern} (solid : pattern.isSolid = true) :
    ¬ pattern.StandsIn [] := by
  rintro ⟨before, found, after, split, described⟩
  have empty : found = [] := by simp_all
  exact ne_nil_of_isSolid solid described empty

end Pattern

namespace Landmark

/-- The pattern of a landmark as a whole. -/
def pattern (landmark : Landmark) : Pattern := landmark.head ++ landmark.tail

/-- A landmark that a search cannot miss: its patterns are delimited, and it has a character. -/
structure Definite (landmark : Landmark) : Prop where
  /-- The head is delimited. -/
  head : landmark.head.isDelimited = true
  /-- The tail is delimited. -/
  tail : landmark.tail.isDelimited = true
  /-- The whole is never empty. -/
  solid : landmark.pattern.isSolid = true

namespace Definite

variable {landmark : Landmark} {text : Text} {cut : Cut}

/-- A definite landmark is at the front of a text exactly when a text of it is. -/
theorem here?_eq_some_iff (definite : landmark.Definite) :
    landmark.here? text = some cut ↔ cut.before = [] ∧ text = cut.head ++ cut.tail ++ cut.after ∧
      landmark.head.Accepts cut.head ∧ landmark.tail.Accepts cut.tail := by
  rw [Landmark.here?_eq_some_iff]
  simp only [Pattern.take?_eq_some_iff definite.head, Pattern.take?_eq_some_iff definite.tail]
  constructor
  · rintro ⟨start, _, ⟨rfl, head⟩, rfl, tail⟩
    exact ⟨start, by simp, head, tail⟩
  · rintro ⟨start, rfl, head, tail⟩
    exact ⟨start, _, ⟨by simp, head⟩, rfl, tail⟩

/-- Two texts of a definite landmark that start at the same place are the same. -/
theorem unique (definite : landmark.Definite) {head tail after head' tail' after' : Text}
    (first : landmark.head.Accepts head ∧ landmark.tail.Accepts tail)
    (second : landmark.head.Accepts head' ∧ landmark.tail.Accepts tail')
    (same : head ++ tail ++ after = head' ++ tail' ++ after') : head = head' ∧ tail = tail' := by
  have one : landmark.here? (head ++ tail ++ after) = some ⟨[], head, tail, after⟩ :=
    (here?_eq_some_iff definite).mpr ⟨rfl, rfl, first⟩
  have other : landmark.here? (head ++ tail ++ after) = some ⟨[], head', tail', after'⟩ :=
    (here?_eq_some_iff definite).mpr ⟨rfl, same, second⟩
  rw [one, Option.some.injEq, Cut.mk.injEq] at other
  exact ⟨other.2.1, other.2.2.1⟩

/-- A definite landmark is missing at the front of a text exactly when no text of it is there. -/
theorem here?_eq_none_iff (definite : landmark.Definite) :
    landmark.here? text = none ↔
      ∀ found after, text = found ++ after → ¬ landmark.pattern.Accepts found := by
  constructor
  · intro missing found after cut described
    obtain ⟨head, tail, rfl, first, second⟩ := Pattern.accepts_append.mp described
    have here : landmark.here? text = some ⟨[], head, tail, after⟩ :=
      (here?_eq_some_iff definite).mpr ⟨rfl, cut, first, second⟩
    rw [missing] at here
    contradiction
  · intro missing
    cases here : landmark.here? text with
    | none => rfl
    | some cut =>
      obtain ⟨_, whole, head, tail⟩ := (here?_eq_some_iff definite).mp here
      exact (missing _ _ whole (Pattern.accepts_append.mpr ⟨_, _, rfl, head, tail⟩)).elim

/-- The first cut is a cut around a text of the landmark. -/
theorem accepts (definite : landmark.Definite) (found : landmark.find? text = some cut) :
    landmark.head.Accepts cut.head ∧ landmark.tail.Accepts cut.tail := by
  induction text generalizing cut with
  | nil => exact ((here?_eq_some_iff definite).mp found).2.2
  | cons c text ih =>
    simp only [find?] at found
    split at found
    · rename_i here read
      obtain rfl := Option.some.inj found
      exact ((here?_eq_some_iff definite).mp read).2.2
    · obtain ⟨later, inside, rfl⟩ := Option.map_eq_some_iff.mp found
      have described := ih inside
      exact described

/-- The text of the first cut is described by the landmark's pattern. -/
theorem accepts_found (definite : landmark.Definite) (found : landmark.find? text = some cut) :
    landmark.pattern.Accepts cut.found :=
  Pattern.accepts_append.mpr ⟨_, _, rfl, definite.accepts found⟩

/-- No text of the landmark starts before the first cut does. -/
theorem first (definite : landmark.Definite) (found : landmark.find? text = some cut)
    {before stretch after : Text} (split : text = before ++ stretch ++ after)
    (described : landmark.pattern.Accepts stretch) : ∃ gap, before = cut.before ++ gap := by
  induction text generalizing cut before with
  | nil =>
    obtain ⟨start, _⟩ := (here?_eq_some_iff definite).mp found
    exact ⟨before, by simp [start]⟩
  | cons c text ih =>
    simp only [find?] at found
    split at found
    · rename_i here read
      obtain rfl := Option.some.inj found
      obtain ⟨start, _⟩ := (here?_eq_some_iff definite).mp read
      exact ⟨before, by simp [start]⟩
    · rename_i missing
      obtain ⟨later, inside, rfl⟩ := Option.map_eq_some_iff.mp found
      obtain _ | ⟨d, before⟩ := before
      · exact ((here?_eq_none_iff definite).mp missing stretch after split described).elim
      · simp only [List.cons_append, List.cons.injEq] at split
        obtain ⟨rfl, split⟩ := split
        obtain ⟨gap, rfl⟩ := ih inside split
        exact ⟨gap, rfl⟩

/-- A landmark that is found stands in the text. -/
theorem standsIn (definite : landmark.Definite) (found : landmark.find? text = some cut) :
    landmark.pattern.StandsIn text := by
  refine ⟨cut.before, cut.found, cut.after, ?_, definite.accepts_found found⟩
  rw [← whole_of_find? found]
  simp [Cut.whole, Cut.found]

/-- A search fails exactly where the landmark stands nowhere. -/
theorem find?_eq_none_iff (definite : landmark.Definite) :
    landmark.find? text = none ↔ ¬ landmark.pattern.StandsIn text := by
  constructor
  · rintro missing ⟨before, stretch, after, rfl, described⟩
    induction before with
    | nil =>
      cases whole : stretch ++ after with
      | nil =>
        rw [List.nil_append, whole] at missing
        exact (here?_eq_none_iff definite).mp missing _ _ whole.symm described
      | cons c rest =>
        rw [List.nil_append, whole, find?] at missing
        split at missing
        · contradiction
        · rename_i here
          exact (here?_eq_none_iff definite).mp here _ _ whole.symm described
    | cons c before ih =>
      rw [List.cons_append, List.cons_append, find?] at missing
      split at missing
      · contradiction
      · exact ih (Option.map_eq_none_iff.mp missing)
  · intro absent
    cases found : landmark.find? text with
    | none => rfl
    | some cut => exact (absent (definite.standsIn found)).elim

/-- A search succeeds exactly where the landmark stands somewhere. -/
theorem find?_isSome_iff (definite : landmark.Definite) :
    (landmark.find? text).isSome = true ↔ landmark.pattern.StandsIn text := by
  rw [Option.isSome_iff_ne_none, Ne, definite.find?_eq_none_iff, Classical.not_not]

/-- What stands behind the first landmark is shorter than the text. -/
theorem shorter (definite : landmark.Definite) (found : landmark.find? text = some cut) :
    cut.after.length < text.length := by
  have some : cut.found ≠ [] :=
    Pattern.ne_nil_of_isSolid definite.solid (definite.accepts_found found)
  have positive := List.length_pos_iff.mpr some
  rw [← whole_of_find? found]
  simp only [Cut.whole, Cut.found, List.length_append] at positive ⊢
  omega

/-- A property of texts holds when texts without the landmark have it and every other text has it
from the part behind its first landmark. -/
theorem scan (definite : landmark.Definite) {motive : Text → Prop}
    (missing : ∀ text, landmark.find? text = none → motive text)
    (found : ∀ text cut, landmark.find? text = some cut → motive cut.after → motive text)
    (text : Text) : motive text := by
  cases search : landmark.find? text with
  | none => exact missing text search
  | some cut =>
    have _shorter := definite.shorter search
    exact found text cut search (scan definite missing found cut.after)
termination_by text.length

/-- A text without the landmark has no segments. -/
theorem segments_of_find?_eq_none (missing : landmark.find? text = none) :
    landmark.segments text = ([], text) := by
  rw [segments]
  simp [missing]

/-- The segments of a text are its first landmark and the segments behind it. -/
theorem segments_of_find?_eq_some (definite : landmark.Definite)
    (found : landmark.find? text = some cut) :
    landmark.segments text = (⟨cut.before, cut.head, cut.tail⟩ :: (landmark.segments cut.after).1,
      (landmark.segments cut.after).2) := by
  rw [segments]
  simp [found, definite.shorter found]

/-- Every segment of a text ends with the two parts of the landmark. -/
theorem accepts_of_mem_segments (definite : landmark.Definite) {segment : Segment}
    (member : segment ∈ (landmark.segments text).1) :
    landmark.head.Accepts segment.head ∧ landmark.tail.Accepts segment.tail := by
  induction text using definite.scan with
  | missing text missing => simp [segments_of_find?_eq_none missing] at member
  | found text cut found ih =>
    rw [segments_of_find?_eq_some definite found, List.mem_cons] at member
    rcases member with rfl | later
    · exact definite.accepts found
    · exact ih later

/-- Segments, when there are any, end with a text of the landmark. -/
theorem exists_last (definite : landmark.Definite) (text : Text)
    (some : (landmark.segments text).1 ≠ []) : ∃ lead stretch,
      (landmark.segments text).1.flatMap Segment.whole = lead ++ stretch ∧
        landmark.pattern.Accepts stretch := by
  induction text using definite.scan with
  | missing text missing => simp [segments_of_find?_eq_none missing] at some
  | found text cut found ih =>
    rw [segments_of_find?_eq_some definite found, List.flatMap_cons]
    by_cases last : (landmark.segments cut.after).1 = []
    · refine ⟨cut.before, cut.found, ?_, definite.accepts_found found⟩
      simp [last, Segment.whole, Cut.found]
    · obtain ⟨lead, stretch, split, described⟩ := ih last
      exact ⟨_ ++ lead, stretch, by rw [split, List.append_assoc], described⟩

/-- Behind the last of its segments the landmark does not stand. -/
theorem not_standsIn_rest (definite : landmark.Definite) (text : Text) :
    ¬ landmark.pattern.StandsIn (landmark.segments text).2 := by
  induction text using definite.scan with
  | missing text missing =>
    rw [segments_of_find?_eq_none missing]
    exact definite.find?_eq_none_iff.mp missing
  | found text cut found ih =>
    rw [segments_of_find?_eq_some definite found]
    exact ih

/-- Nothing is put into a text without the landmark. -/
theorem insertAtEach_of_find?_eq_none (missing : landmark.find? text = none) (inserted : Text) :
    landmark.insertAtEach inserted text = text := by
  simp [insertAtEach, segments_of_find?_eq_none missing]

/-- A text is put at the first landmark and at every landmark behind it. -/
theorem insertAtEach_of_find?_eq_some (definite : landmark.Definite)
    (found : landmark.find? text = some cut) (inserted : Text) :
    landmark.insertAtEach inserted text = cut.before ++ cut.head ++ (inserted ++ cut.tail) ++
      landmark.insertAtEach inserted cut.after := by
  simp [insertAtEach, segments_of_find?_eq_some definite found]

/-- A text put at every landmark stands in the result when there is a landmark. -/
theorem standsIn_insertAtEach (definite : landmark.Definite)
    (found : landmark.find? text = some cut) (inserted : Text) :
    Pattern.StandsIn [.literal inserted] (landmark.insertAtEach inserted text) := by
  rw [insertAtEach_of_find?_eq_some definite found]
  exact ⟨cut.before ++ cut.head, inserted, cut.tail ++ landmark.insertAtEach inserted cut.after,
    by simp, Pattern.accepts_literal.mpr rfl⟩

/-- Of a landmark that never starts inside itself nothing is left up to the place of the first. -/
theorem not_standsIn_head (definite : landmark.Definite) (closed : landmark.pattern.Closed)
    (solid : landmark.tail.isSolid = true) (found : landmark.find? text = some cut) :
    ¬ landmark.pattern.StandsIn (cut.before ++ cut.head) := by
  rintro ⟨before, stretch, after, split, described⟩
  have whole : text = cut.before ++ cut.head ++ cut.tail ++ cut.after := (whole_of_find? found).symm
  have within : text = before ++ stretch ++ (after ++ cut.tail ++ cut.after) := by
    rw [whole, split]
    simp
  obtain ⟨gap, rfl⟩ := definite.first found within described
  -- A text of the landmark up to the place lies in the head of the first cut.
  have inHead : cut.head = gap ++ stretch ++ after := by simpa using split
  have here : cut.found ++ cut.after = gap ++ (stretch ++ (after ++ cut.tail ++ cut.after)) := by
    simp [Cut.found, inHead]
  have some := Pattern.ne_nil_of_isSolid definite.solid described
  have size := congrArg List.length inHead
  have positive := List.length_pos_iff.mpr some
  simp only [List.length_append] at size
  by_cases start : gap = []
  · obtain ⟨head, tail, rfl, first, second⟩ := Pattern.accepts_append.mp described
    have same : head ++ tail ++ (after ++ cut.tail ++ cut.after) =
        cut.head ++ cut.tail ++ cut.after := by
      simpa [start, Cut.found] using here.symm
    obtain ⟨rfl, rfl⟩ := definite.unique ⟨first, second⟩ (definite.accepts found) same
    have full := List.length_pos_iff.mpr (Pattern.ne_nil_of_isSolid solid second)
    simp only [List.length_append] at size
    omega
  · obtain ⟨rest, ended⟩ := closed (definite.accepts_found found) described start here
    have long := congrArg List.length ended
    simp only [Cut.found, List.length_append] at long
    omega

/-- When a landmark never starts inside itself, and a text put at every place of it breaks it,
none of it is left. -/
theorem not_standsIn_insertAtEach (definite : landmark.Definite)
    (closed : landmark.pattern.Closed) (solid : landmark.tail.isSolid = true) {inserted : Text}
    (apart : landmark.pattern.Apart (.literal inserted :: landmark.tail)) (text : Text) :
    ¬ landmark.pattern.StandsIn (landmark.insertAtEach inserted text) := by
  induction text using definite.scan with
  | missing text missing =>
    rw [insertAtEach_of_find?_eq_none missing]
    exact definite.find?_eq_none_iff.mp missing
  | found text cut found ih =>
    rw [definite.insertAtEach_of_find?_eq_some found, Pattern.standsIn_around apart
      ⟨inserted, cut.tail, rfl, rfl, (definite.accepts found).2⟩]
    exact not_or.mpr ⟨not_standsIn_head definite closed solid found, ih⟩

end Definite

end Landmark

end ScreenRetrofit
