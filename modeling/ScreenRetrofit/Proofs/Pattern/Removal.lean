import ScreenRetrofit.Proofs.Pattern.Occurrence
import ScreenRetrofit.Proofs.Pattern.Single

/-!
# Removal of a fixed text

A fixed text is removed from a text by a search that goes on behind each occurrence that it deletes
(`Text.without`). Occurrences may overlap, so what the search deletes depends on where it starts; but
where no occurrence goes on across a place the two sides are searched on their own
(`Text.without_append`). So a removal takes a text that stands once out of it
(`Text.without_of_standsOnce`), and it undoes putting a text at every place of a landmark when no
occurrence of that text goes on across the end of what stands there
(`Landmark.Definite.without_insertAtEach`).
-/

namespace ScreenRetrofit

open Pattern (StandsIn StandsOnce Avoids)

namespace Landmark

/-- A fixed text as a landmark. -/
def fixed (text : Text) : Landmark := ⟨[.literal text], []⟩

/-- The pattern of a fixed text is that text. -/
theorem pattern_fixed (text : Text) : (fixed text).pattern = [.literal text] := rfl

/-- A fixed text that is not empty is found wherever it stands. -/
theorem fixed_definite {text : Text} (solid : text ≠ []) : (fixed text).Definite where
  head := rfl
  tail := rfl
  solid := by simp [pattern_fixed, Pattern.isSolid, solid]

/-- A landmark that none of its texts starts in front of is the first. -/
theorem Definite.find?_of_first {landmark : Landmark} (definite : landmark.Definite) (cut : Cut)
    (head : landmark.head.Accepts cut.head) (tail : landmark.tail.Accepts cut.tail)
    (first : ∀ before found after, cut.whole = before ++ found ++ after →
      landmark.pattern.Accepts found → ∃ gap, before = cut.before ++ gap) :
    landmark.find? cut.whole = some cut := by
  have described : landmark.pattern.Accepts cut.found :=
    Pattern.accepts_append.mpr ⟨_, _, rfl, head, tail⟩
  have stands : landmark.pattern.StandsIn cut.whole :=
    ⟨cut.before, cut.found, cut.after, cut.whole_eq, described⟩
  obtain ⟨other, search⟩ := Option.isSome_iff_exists.mp (definite.find?_isSome_iff.mpr stands)
  have whole := whole_of_find? search
  obtain ⟨gap, ahead⟩ := definite.first search cut.whole_eq described
  obtain ⟨gap', behind⟩ := first other.before other.found other.after
    (whole ▸ other.whole_eq) (definite.accepts_found search)
  -- Neither starts in front of the other, so they are the same.
  have sizes := congrArg List.length ahead
  rw [behind] at sizes
  simp only [List.length_append] at sizes
  obtain rfl : gap' = [] := List.eq_nil_of_length_eq_zero (by omega)
  obtain ⟨before, head', tail', after⟩ := other
  obtain rfl : before = cut.before := by simpa using behind
  have rest : cut.head ++ cut.tail ++ cut.after = head' ++ tail' ++ after := by
    simpa [Cut.whole] using whole.symm
  obtain ⟨rfl, rfl⟩ := definite.unique ⟨head, tail⟩ (definite.accepts search) rest
  obtain rfl := List.append_cancel_left rest
  exact search

end Landmark

namespace Text

open Landmark (fixed fixed_definite)

/-- A text without a needle: each occurrence is deleted that a search behind the last one finds. -/
def without (needle text : Text) : Text :=
  let (segments, rest) := (fixed needle).segments text
  segments.flatMap (·.before) ++ rest

variable {needle text left right before after : Text}

/-- A text that the needle does not stand in is left as it is. -/
theorem without_of_not_standsIn (solid : needle ≠ []) (absent : ¬ StandsIn [.literal needle] text) :
    without needle text = text := by
  have missing := (fixed_definite solid).find?_eq_none_iff.mpr absent
  simp [without, Landmark.Definite.segments_of_find?_eq_none missing]

/-- The first occurrence goes, and then those behind it. -/
theorem without_of_find?_eq_some (solid : needle ≠ []) {cut : Cut}
    (search : (fixed needle).find? text = some cut) :
    without needle text = cut.before ++ without needle cut.after := by
  simp [without, (fixed_definite solid).segments_of_find?_eq_some search]

/-- An occurrence that none starts in front of goes, and then those behind it. -/
theorem without_of_first (solid : needle ≠ []) (first : ∀ front back,
      before ++ needle ++ after = front ++ needle ++ back → ∃ gap, front = before ++ gap) :
    without needle (before ++ needle ++ after) = before ++ without needle after := by
  have search := (fixed_definite solid).find?_of_first ⟨before, needle, [], after⟩
    (Pattern.accepts_literal.mpr rfl) rfl (by
      intro front found back split described
      rw [Pattern.accepts_literal.mp described] at split
      exact first front back (by simpa [Cut.whole] using split))
  have whole : Cut.whole ⟨before, needle, [], after⟩ = before ++ needle ++ after := by
    simp [Cut.whole]
  rw [whole] at search
  exact without_of_find?_eq_some solid search

/-- The needle goes from the front of a text. -/
theorem without_self_append (solid : needle ≠ []) (after : Text) :
    without needle (needle ++ after) = without needle after := by
  have front : without needle ([] ++ needle ++ after) = [] ++ without needle after :=
    without_of_first solid fun front _ _ => ⟨front, rfl⟩
  exact front

/-- Around a place that no occurrence goes on across a removal is that of both sides. -/
theorem without_append (solid : needle ≠ []) (avoids : Avoids [.literal needle] left [] right) :
    without needle (left ++ right) = without needle left ++ without needle right := by
  have definite := fixed_definite solid
  induction left using definite.scan with
  | missing left missing =>
    have absent : ¬ StandsIn [.literal needle] left := definite.find?_eq_none_iff.mp missing
    have behind {front back : Text} (split : front ++ needle ++ back = left ++ right) :
        ∃ gap, front = left ++ gap ∧ right = gap ++ needle ++ back := by
      rcases avoids.over_or_behind (Pattern.accepts_literal.mpr rfl) split with ⟨gap, ended⟩ | started
      · exact (absent ⟨front, needle, gap, ended, Pattern.accepts_literal.mpr rfl⟩).elim
      · exact started
    rw [without_of_not_standsIn solid absent]
    cases search : (fixed needle).find? right with
    | none =>
      have lost := definite.find?_eq_none_iff.mp search
      rw [without_of_not_standsIn solid lost, without_of_not_standsIn solid]
      rintro ⟨front, found, back, split, described⟩
      rw [Pattern.accepts_literal.mp described] at split
      obtain ⟨gap, _, inside⟩ := behind split.symm
      exact lost ⟨gap, needle, back, inside, Pattern.accepts_literal.mpr rfl⟩
    | some cut =>
      obtain rfl : cut.found = needle :=
        Pattern.accepts_literal.mp (definite.accepts_found search)
      have whole := Landmark.whole_of_find? search
      rw [Cut.whole_eq] at whole
      rw [without_of_find?_eq_some solid search, ← List.append_assoc, ← whole,
        ← List.append_assoc, ← List.append_assoc]
      refine without_of_first solid fun front back split => ?_
      obtain ⟨gap, rfl, inside⟩ := behind (by rw [← split, ← whole]; simp)
      obtain ⟨more, rfl⟩ := definite.first search inside (definite.accepts_found search)
      exact ⟨more, by simp⟩
  | found left cut search ih =>
    obtain rfl : cut.found = needle :=
      Pattern.accepts_literal.mp (definite.accepts_found search)
    have whole := Landmark.whole_of_find? search
    rw [Cut.whole_eq] at whole
    have later : Avoids [.literal cut.found] cut.after [] right := by
      rw [← whole] at avoids
      exact Avoids.of_append_left avoids
    rw [without_of_find?_eq_some solid search, List.append_assoc, ← ih later, ← whole,
      List.append_assoc]
    refine without_of_first solid fun front back split => ?_
    have around : front ++ cut.found ++ back = left ++ right := by
      rw [← split, ← whole]
      simp
    rcases avoids.over_or_behind (definite.accepts_found search) around with
      ⟨gap, ended⟩ | ⟨gap, rfl, _⟩
    · exact definite.first search ended (definite.accepts_found search)
    · exact ⟨cut.found ++ cut.after ++ gap, by simp [← whole]⟩

/-- A needle that stands once goes from where it stands. -/
theorem without_of_standsOnce (solid : needle ≠ [])
    (once : StandsOnce [.literal needle] (before ++ needle ++ after)) :
    without needle (before ++ needle ++ after) = before ++ after := by
  have described : Pattern.Accepts [.literal needle] needle := Pattern.accepts_literal.mpr rfl
  have alone : ¬ StandsIn [.literal needle] after := by
    rintro ⟨front, found, back, split, described'⟩
    have later : before ++ needle ++ after = before ++ needle ++ front ++ found ++ back := by
      simp [split]
    have same := congrArg List.length (once.start_eq rfl described later described')
    have positive := List.length_pos_iff.mpr solid
    simp only [List.length_append] at same
    omega
  rw [without_of_first solid, without_of_not_standsIn solid alone]
  intro front back split
  exact ⟨[], by rw [once.start_eq rfl described split described, List.append_nil]⟩

end Text

namespace Landmark.Definite

open Text (without)

/-- A text put at every place of a landmark is removed from there again when it does not stand in the
text before, and no occurrence of it goes on across the end of the landmark's head or tail. -/
theorem without_insertAtEach {landmark : Landmark} (definite : landmark.Definite)
    {inserted text : Text} (solid : inserted ≠ []) (absent : ¬ StandsIn [.literal inserted] text)
    (top : ∀ {found}, landmark.head.Accepts found → ∀ left right,
      Avoids [.literal inserted] (left ++ found) [] right)
    (bottom : ∀ {found}, landmark.tail.Accepts found → ∀ left right,
      Avoids [.literal inserted] (left ++ found) [] right) :
    without inserted (landmark.insertAtEach inserted text) = text := by
  induction text using definite.scan with
  | missing text missing =>
    rw [insertAtEach_of_find?_eq_none missing, Text.without_of_not_standsIn solid absent]
  | found text cut search ih =>
    have whole : text = cut.before ++ cut.head ++ cut.tail ++ cut.after :=
      (whole_of_find? search).symm
    obtain ⟨head, tail⟩ := definite.accepts search
    have front : ¬ StandsIn [.literal inserted] (cut.before ++ cut.head) := by
      rw [whole, List.append_assoc] at absent
      exact fun stands => absent (stands.append_right _)
    have middle : ¬ StandsIn [.literal inserted] cut.tail := by
      rw [whole] at absent
      exact fun stands => absent ((stands.append_left _).append_right _)
    have rest : ¬ StandsIn [.literal inserted] cut.after := by
      rw [whole] at absent
      exact fun stands => absent (stands.append_left _)
    calc without inserted (landmark.insertAtEach inserted text)
        = without inserted ((cut.before ++ cut.head) ++
            (inserted ++ (cut.tail ++ landmark.insertAtEach inserted cut.after))) := by
          rw [insertAtEach_of_find?_eq_some definite search]
          simp
      _ = cut.before ++ cut.head ++
            without inserted (cut.tail ++ landmark.insertAtEach inserted cut.after) := by
          rw [Text.without_append solid (top head _ _), Text.without_self_append solid,
            Text.without_of_not_standsIn solid front]
      _ = cut.before ++ cut.head ++ (cut.tail ++ cut.after) := by
          have ended : Avoids [.literal inserted] ([] ++ cut.tail) []
              (landmark.insertAtEach inserted cut.after) := bottom tail [] _
          rw [List.nil_append] at ended
          rw [Text.without_append solid ended, Text.without_of_not_standsIn solid middle, ih rest]
      _ = text := by
          rw [whole]
          simp

end Landmark.Definite

end ScreenRetrofit
