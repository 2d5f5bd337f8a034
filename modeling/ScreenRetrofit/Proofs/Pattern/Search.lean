import ScreenRetrofit.Proofs.Pattern.Scan
import ScreenRetrofit.Proofs.Text.Bytes
import ScreenRetrofit.Store.Disk.Tree

/-!
# Searches in bytes

A search looks for a landmark in bytes, and may try every byte of them. All that is asked of it is
that it finds the first place behind an offset where the bytes are those of a text of the landmark
(`Search`). In the bytes of a text this is where a text of the landmark stands
(`standsInBytes_iff`), so a search never reports a place inside a character (`StandsAt.cutsAt`). It
finds what a search for characters finds (`Search.firstFrom_eq`), and searches that go on behind
what was found are a scan (`Search.allFrom_of_scans`).
-/

namespace ScreenRetrofit

open Text (utf8Length)

namespace Landmark

/-- The bytes of a text of a landmark stand at a span of other bytes. -/
def StandsInBytes (landmark : Landmark) (bytes : Bytes) (span : Span) : Prop :=
  ∃ front head tail back, bytes = front ++ Text.bytes head ++ Text.bytes tail ++ back ∧
    landmark.head.Accepts head ∧ landmark.tail.Accepts tail ∧
    span = ⟨front.length, (front ++ Text.bytes head).length,
      (front ++ Text.bytes head ++ Text.bytes tail).length⟩

/-- The first bytes of a landmark that start at an offset or behind it stand at a span. -/
def FirstInBytes (landmark : Landmark) (bytes : Bytes) (offset : Nat) (span : Span) : Prop :=
  landmark.StandsInBytes bytes span ∧ offset ≤ span.start ∧
    ∀ other, landmark.StandsInBytes bytes other → offset ≤ other.start → span.start ≤ other.start

variable {landmark : Landmark} {text : Text} {span : Span} {offset : Nat}

/-- In the bytes of a text those of a landmark stand where the landmark stands in the text. -/
theorem standsInBytes_iff (solid : landmark.pattern.isSolid = true) :
    landmark.StandsInBytes (Text.bytes text) span ↔ landmark.StandsAt text span := by
  constructor
  · rintro ⟨front, head, tail, back, same, first, second, rfl⟩
    have full : head ++ tail ≠ [] :=
      Pattern.ne_nil_of_isSolid solid (Pattern.accepts_append.mpr ⟨_, _, rfl, first, second⟩)
    have joined : Text.bytes text = front ++ Text.bytes (head ++ tail) ++ back := by
      rw [same, Text.bytes_append]
      simp only [List.append_assoc]
    obtain ⟨before, after, rfl, rfl, rfl⟩ := Text.exists_of_bytes_eq full joined
    exact ⟨⟨before, head, tail, after⟩, by simp [Cut.whole], first, second,
      by simp [Cut.span, Cut.found]⟩
  · rintro ⟨cut, rfl, first, second, rfl⟩
    exact ⟨Text.bytes cut.before, cut.head, cut.tail, Text.bytes cut.after, by simp [Cut.whole],
      first, second, by simp [Cut.span, Cut.found]⟩

/-- In the bytes of a text those of a landmark stand first where the landmark does in the text. -/
theorem firstInBytes_iff (solid : landmark.pattern.isSolid = true) :
    landmark.FirstInBytes (Text.bytes text) offset span ↔ landmark.FirstAt text offset span := by
  simp only [FirstInBytes, FirstAt, standsInBytes_iff solid]

/-- Where a landmark stands in a text the bytes of the text can be cut at its start, at its place
and at its end. -/
theorem StandsAt.cutsAt (stands : landmark.StandsAt text span) :
    (Text.bytes text).CutsAt span.start ∧ (Text.bytes text).CutsAt span.place ∧
      (Text.bytes text).CutsAt span.stop := by
  obtain ⟨⟨before, head, tail, after⟩, rfl, _, _, rfl⟩ := stands
  have start := Bytes.cutsAt before (head ++ tail ++ after)
  have place := Bytes.cutsAt (before ++ head) (tail ++ after)
  have stop := Bytes.cutsAt (before ++ head ++ tail) after
  simp only [List.append_assoc] at start place stop
  simp only [Cut.span, Cut.found, Cut.whole, List.append_assoc]
  exact ⟨start, place, stop⟩

/-- Where a landmark stands in a text is a range of the bytes. -/
theorem StandsAt.isRange (stands : landmark.StandsAt text span) :
    (Text.bytes text).IsRange span.start span.stop := by
  obtain ⟨cut, rfl, _, _, rfl⟩ := stands
  rw [cut.whole_eq]
  exact Bytes.isRange_around cut.before cut.found cut.after

end Landmark

open Landmark (Span)

/-- A way to search bytes for landmarks. Nothing is known of it but what it finds. -/
structure Search where
  /-- What is found at an offset or behind it. -/
  first? (landmark : Landmark) (bytes : Bytes) (offset : Nat) : Option Span
  /-- In the bytes of a text it is the first that stands there. -/
  first?_eq_some_iff {landmark : Landmark} {text : Text} {offset : Nat} {span : Span}
    (definite : landmark.Definite) (boundary : (Text.bytes text).isBoundary offset = true) :
    first? landmark (Text.bytes text) offset = some span ↔
      landmark.FirstInBytes (Text.bytes text) offset span

namespace Search

/-- The search for the first of a landmark from an offset on, which has to be a boundary. -/
def firstFrom (search : Search) (landmark : Landmark) (bytes : Bytes) (offset : Nat) :
    Except BadRange (Option Span) :=
  if bytes.IsRange offset bytes.length then .ok (search.first? landmark bytes offset)
  else .error ⟨offset, bytes.length⟩

/-- The searches for all of a landmark from an offset on, each from the end of what was found
last. -/
def allFrom (search : Search) (landmark : Landmark) (bytes : Bytes) (offset : Nat) :
    Except BadRange (List Span) :=
  if _range : bytes.IsRange offset bytes.length then
    match search.first? landmark bytes offset with
    | none => .ok []
    | some span =>
      if _further : offset < span.stop then
        (span :: ·) <$> search.allFrom landmark bytes span.stop
      else .ok [span]
  else .error ⟨offset, bytes.length⟩
termination_by bytes.length + 1 - offset
decreasing_by
  have inside := _range.ordered
  omega

/-- The search for the first text of a landmark, by its characters. -/
def byCharacters : Search where
  first? landmark bytes offset := do
    let text ← Disk.decode? bytes.toByteArray
    let cut ← landmark.find? (Text.dropBytes offset text)
    some (cut.span.shift offset)
  first?_eq_some_iff {landmark text offset span} definite boundary := by
    obtain ⟨front, rest, rfl, rfl⟩ := Bytes.isBoundary_iff.mp boundary
    have decoded :
        Disk.decode? (Text.bytes (front ++ rest)).toByteArray = some (front ++ rest) := by
      rw [Text.toByteArray_bytes]
      exact Disk.decode?_encode (front ++ rest)
    rw [Landmark.firstInBytes_iff definite.solid, definite.firstAt_iff, decoded]
    simp only [Option.bind_eq_bind, Option.bind_some, Text.dropBytes_append,
      Option.bind_eq_some_iff, Option.some.injEq]
    exact exists_congr fun cut => and_congr_right fun _ => eq_comm

variable {landmark : Landmark} (search : Search) (definite : landmark.Definite)
include definite

/-- In the bytes of a text a search finds what stands first in the text. -/
theorem first?_eq_some_iff_firstAt {text : Text} {offset : Nat} {span : Span}
    (cuts : (Text.bytes text).CutsAt offset) :
    search.first? landmark (Text.bytes text) offset = some span ↔
      landmark.FirstAt text offset span := by
  rw [search.first?_eq_some_iff definite cuts.1.stops, Landmark.firstInBytes_iff definite.solid]

/-- A search behind a front is not refused, and finds what stands there. -/
theorem firstFrom_eq (front rest : Text) :
    search.firstFrom landmark (Text.bytes (front ++ rest)) (utf8Length front) =
      .ok ((landmark.find? rest).map fun cut => cut.span.shift (utf8Length front)) := by
  have cuts := Bytes.cutsAt front rest
  rw [firstFrom, if_pos cuts.2]
  refine congrArg Except.ok (Option.ext fun span => ?_)
  rw [search.first?_eq_some_iff_firstAt definite cuts, definite.firstAt_iff,
    Option.map_eq_some_iff]
  exact exists_congr fun cut => and_congr_right fun _ => eq_comm

/-- A search of a whole text finds the first of a landmark in it. -/
theorem firstFrom_zero (text : Text) : search.firstFrom landmark (Text.bytes text) 0 =
    .ok ((landmark.find? text).map Cut.span) := by
  have searched := search.firstFrom_eq definite [] text
  simpa [Landmark.Span.shift, utf8Length] using searched

/-- None of the searches for all of a landmark is refused, and together they are the scan. -/
theorem allFrom_of_scans {text : Text} {offset : Nat} {spans : List Span}
    (scan : landmark.Scans text offset spans) (cuts : (Text.bytes text).CutsAt offset) :
    search.allFrom landmark (Text.bytes text) offset = .ok spans := by
  induction scan with
  | @done offset missing =>
    have absent : search.first? landmark (Text.bytes text) offset = none := by
      refine Option.eq_none_iff_forall_ne_some.mpr fun span found => missing ⟨span, ?_⟩
      exact (search.first?_eq_some_iff_firstAt definite cuts).mp found
    rw [allFrom, dif_pos cuts.2, absent]
  | @found offset span spans first later ih =>
    have found := (search.first?_eq_some_iff_firstAt definite cuts).mpr first
    have further : offset < span.stop :=
      Nat.lt_of_le_of_lt first.2.1 (definite.start_lt_stop first.1)
    rw [allFrom, dif_pos cuts.2, found]
    simp only [dif_pos further, ih first.1.cutsAt.2.2]
    rfl

/-- The searches of a whole text find all of a landmark in it. -/
theorem allFrom_zero (text : Text) :
    search.allFrom landmark (Text.bytes text) 0 = .ok (landmark.spans text) :=
  search.allFrom_of_scans definite (definite.scans_iff.mpr rfl) (Bytes.cutsAt [] text)

end Search

end ScreenRetrofit
