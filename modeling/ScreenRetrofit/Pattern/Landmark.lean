import ScreenRetrofit.Pattern.Basic

/-!
# Landmarks

A landmark is a place in a text that an edit attaches to: the point between a part described by
one pattern and a part described by another, either of which may be empty. `find?` gives the
first landmark of a text as a cut of it; `segments` gives all of them, each search starting where
the last landmark ended, so that two never overlap. Nothing is lost or invented: the parts put
together again are the text (`Cut.whole_of_find?`, `join_segments`).
-/

namespace ScreenRetrofit

/-- A place that an edit attaches to, with what stands on both sides of it. -/
structure Landmark where
  /-- What ends at the place. -/
  head : Pattern
  /-- What starts at the place. -/
  tail : Pattern
  deriving DecidableEq, Repr

/-- A text cut around a landmark. -/
structure Cut where
  /-- What stands before the landmark. -/
  before : Text
  /-- What the landmark's head describes. -/
  head : Text
  /-- What the landmark's tail describes. -/
  tail : Text
  /-- What stands after the landmark. -/
  after : Text
  deriving DecidableEq, Repr

namespace Cut

/-- The text that was cut. -/
def whole (cut : Cut) : Text := cut.before ++ cut.head ++ cut.tail ++ cut.after

/-- The text of the landmark itself. -/
def found (cut : Cut) : Text := cut.head ++ cut.tail

end Cut

namespace Landmark

/-- The cut around a landmark that a text starts with. -/
def here? (landmark : Landmark) (text : Text) : Option Cut := do
  let (head, middle) ← landmark.head.take? text
  let (tail, after) ← landmark.tail.take? middle
  some ⟨[], head, tail, after⟩

/-- A landmark stands at the front exactly when its two patterns can be taken in order. -/
theorem here?_eq_some_iff {landmark : Landmark} {text : Text} {cut : Cut} :
    landmark.here? text = some cut ↔ cut.before = [] ∧ ∃ middle,
      landmark.head.take? text = some (cut.head, middle) ∧
        landmark.tail.take? middle = some (cut.tail, cut.after) := by
  obtain ⟨before, head, tail, after⟩ := cut
  constructor
  · intro read
    simp only [here?, Option.bind_eq_bind, Option.bind_eq_some_iff, Prod.exists,
      Option.some.injEq, Cut.mk.injEq] at read
    obtain ⟨_, middle, first, _, _, second, rfl, rfl, rfl, rfl⟩ := read
    exact ⟨rfl, middle, first, second⟩
  · rintro ⟨rfl, middle, first, second⟩
    simp only at first second
    simp [here?, first, second]

/-- The cut around the first landmark of a text. -/
def find? (landmark : Landmark) : Text → Option Cut
  | [] => landmark.here? []
  | first :: rest =>
    match landmark.here? (first :: rest) with
    | some cut => some cut
    | none => (find? landmark rest).map fun cut => { cut with before := first :: cut.before }

/-- A cut around a landmark at the front puts the text together again. -/
theorem whole_of_here? {landmark : Landmark} {text : Text} {cut : Cut}
    (read : landmark.here? text = some cut) : cut.whole = text := by
  obtain ⟨start, middle, first, second⟩ := here?_eq_some_iff.mp read
  rw [Cut.whole, start, List.nil_append, List.append_assoc, Pattern.take?_append second,
    Pattern.take?_append first]

/-- The parts of the first cut put the text together again. -/
theorem whole_of_find? {landmark : Landmark} {text : Text} {cut : Cut}
    (found : landmark.find? text = some cut) : cut.whole = text := by
  induction text generalizing cut with
  | nil => exact whole_of_here? found
  | cons first rest ih =>
    simp only [find?] at found
    split at found
    · rename_i here read
      obtain rfl := Option.some.inj found
      exact whole_of_here? read
    · obtain ⟨later, inside, rfl⟩ := Option.map_eq_some_iff.mp found
      have joined := ih inside
      simp only [Cut.whole] at joined ⊢
      simp only [List.cons_append, joined]

/-- One landmark of several in a text, with what stands before it since the last one. -/
structure Segment where
  /-- What stands between the last landmark and this one. -/
  before : Text
  /-- What the landmark's head describes. -/
  head : Text
  /-- What the landmark's tail describes. -/
  tail : Text
  deriving DecidableEq, Repr

/-- The text of one segment. -/
def Segment.whole (segment : Segment) : Text := segment.before ++ segment.head ++ segment.tail

/-- All landmarks of a text in order, and what stands after the last one. Each is the first one
after the end of the last, and the search ends at a landmark of no characters. -/
def segments (landmark : Landmark) (text : Text) : List Segment × Text :=
  match landmark.find? text with
  | none => ([], text)
  | some cut =>
    if _shorter : cut.after.length < text.length then
      let (segments, rest) := landmark.segments cut.after
      (⟨cut.before, cut.head, cut.tail⟩ :: segments, rest)
    else ([], text)
termination_by text.length

/-- The segments and the rest put the text together again. -/
theorem join_segments (landmark : Landmark) (text : Text) :
    (landmark.segments text).1.flatMap Segment.whole ++ (landmark.segments text).2 = text := by
  fun_induction segments landmark text with
  | case1 => rfl
  | case2 text cut found shorter segments rest later ih =>
    simp only [later] at ih
    simp only [List.flatMap_cons, List.append_assoc, ih]
    exact whole_of_find? found
  | case3 => rfl

/-- Where a landmark stands in a text, in bytes from the start of the text. -/
structure Span where
  /-- Where its head starts. -/
  start : Nat
  /-- Where its head ends and its tail starts. -/
  place : Nat
  /-- Where its tail ends. -/
  stop : Nat
  deriving DecidableEq, Repr

/-- Where segments stand when the first of them starts at an offset. -/
def spansFrom (offset : Nat) : List Segment → List Span
  | [] => []
  | segment :: segments =>
    let start := offset + Text.utf8Length segment.before
    let place := start + Text.utf8Length segment.head
    let stop := place + Text.utf8Length segment.tail
    ⟨start, place, stop⟩ :: spansFrom stop segments

/-- Where the landmarks of a text stand. -/
def spans (landmark : Landmark) (text : Text) : List Span :=
  spansFrom 0 (landmark.segments text).1

/-- Put a text at the place of every landmark. -/
def insertAtEach (landmark : Landmark) (inserted text : Text) : Text :=
  let (segments, rest) := landmark.segments text
  segments.flatMap (fun segment => segment.before ++ segment.head ++ inserted ++ segment.tail) ++
    rest

end Landmark

end ScreenRetrofit
