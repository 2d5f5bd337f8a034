import ScreenRetrofit.Proofs.Pattern.Change

/-!
# Patterns that stand once

A pattern stands once in a text when all its texts there start at one place. For a pattern that never
starts inside itself this is the same as standing in the text and not standing there twice in order
(`Pattern.Closed.standsOnce_iff`). So a text of it put into a text without it stands once
(`Pattern.Closed.standsOnce_around`), and changes that neither cut nor bring anything it shares a
character with leave it standing once (`Change.Reaches.standsOnce`).
-/

namespace ScreenRetrofit

namespace Pattern

/-- A pattern stands once in a text when it stands there and all its texts start at one place. -/
def StandsOnce (pattern : Pattern) (text : Text) : Prop :=
  ∃ before found after, text = before ++ found ++ after ∧ pattern.Accepts found ∧
    ∀ before' found' after', text = before' ++ found' ++ after' → pattern.Accepts found' →
      before' = before

variable {pattern : Pattern} {text left found right before after : Text}

/-- What stands once stands. -/
theorem StandsOnce.standsIn (once : pattern.StandsOnce text) : pattern.StandsIn text := by
  obtain ⟨before, found, after, split, described, _⟩ := once
  exact ⟨before, found, after, split, described⟩

/-- Two texts of a pattern that stands once start at one place. -/
theorem StandsOnce.start_eq (once : pattern.StandsOnce text) {before' found' after' : Text}
    (split : text = before ++ found ++ after) (described : pattern.Accepts found)
    (split' : text = before' ++ found' ++ after') (described' : pattern.Accepts found') :
    before = before' := by
  obtain ⟨start, _, _, _, _, single⟩ := once
  rw [single before found after split described, single before' found' after' split' described']

/-- Two texts of a pattern that never starts inside itself start at one place, or one of them ends in
front of the other. -/
theorem Closed.eq_or_apart (closed : pattern.Closed) {before' found' after' : Text}
    (described : pattern.Accepts found) (described' : pattern.Accepts found')
    (same : before ++ found ++ after = before' ++ found' ++ after') :
    before = before' ∨ (∃ gap, before' = before ++ found ++ gap) ∨
      ∃ gap, before = before' ++ found' ++ gap := by
  rw [List.append_assoc, List.append_assoc] at same
  rcases List.append_eq_append_iff.mp same with ⟨gap, longer, rest⟩ | ⟨gap, longer, rest⟩
  · by_cases start : gap = []
    · exact .inl (by rw [longer, start, List.append_nil])
    · obtain ⟨more, rfl⟩ := closed described described' start rest
      exact .inr (.inl ⟨more, by rw [longer, List.append_assoc]⟩)
  · by_cases start : gap = []
    · exact .inl (by rw [longer, start, List.append_nil])
    · obtain ⟨more, rfl⟩ := closed described' described start rest
      exact .inr (.inr ⟨more, by rw [longer, List.append_assoc]⟩)

/-- A pattern stands twice in order where one of its texts ends in front of another. -/
theorem inOrder_of_behind {gap found' after' : Text} (described : pattern.Accepts found)
    (described' : pattern.Accepts found')
    (split : text = before ++ found ++ gap ++ found' ++ after') :
    InOrder [pattern, pattern] text := by
  have whole : text = before ++ found ++ (gap ++ found' ++ after') := by
    rw [split]
    simp
  exact ⟨before, found, _, whole, described, gap, found', after', rfl, described', trivial⟩

/-- A pattern that never starts inside itself stands once where it stands and does not stand twice
in order. -/
theorem Closed.standsOnce_iff (closed : pattern.Closed) (solid : pattern.isSolid = true) :
    pattern.StandsOnce text ↔ pattern.StandsIn text ∧ ¬ InOrder [pattern, pattern] text := by
  constructor
  · intro once
    refine ⟨once.standsIn, ?_⟩
    rintro ⟨before', found', after', split, described, front, other, back, later, described', _⟩
    have further : text = before' ++ found' ++ front ++ other ++ back := by simp [split, later]
    have same : before' = before' ++ found' ++ front :=
      once.start_eq split described further described'
    have size := congrArg List.length same
    have positive := List.length_pos_iff.mpr (ne_nil_of_isSolid solid described)
    simp only [List.length_append] at size
    omega
  · rintro ⟨⟨before, found, after, split, described⟩, alone⟩
    refine ⟨before, found, after, split, described, fun before' found' after' split' described' => ?_⟩
    rcases closed.eq_or_apart described described' (split.symm.trans split') with
      same | ⟨gap, rfl⟩ | ⟨gap, rfl⟩
    · exact same.symm
    · exact (alone (inOrder_of_behind described described' split')).elim
    · exact (alone (inOrder_of_behind described' described split)).elim

/-- A text of a pattern that never starts inside itself stands once where the pattern stands neither
before it nor behind it. -/
theorem Closed.standsOnce_around (closed : pattern.Closed) (described : pattern.Accepts found)
    (before : ¬ pattern.StandsIn left) (behind : ¬ pattern.StandsIn right) :
    pattern.StandsOnce (left ++ found ++ right) := by
  refine ⟨left, found, right, rfl, described, fun front other back split described' => ?_⟩
  rcases closed.eq_or_apart described described' split with same | ⟨gap, rfl⟩ | ⟨gap, rfl⟩
  · exact same.symm
  · have inRight : right = gap ++ other ++ back := by simpa using split
    exact (behind ⟨gap, other, back, inRight, described'⟩).elim
  · exact (before ⟨front, other, gap, rfl, described'⟩).elim

/-- In a text put between two others a pattern stands once that stands once in that text, stands in
neither of the others and goes on across neither end of it. -/
theorem StandsOnce.between (once : pattern.StandsOnce found)
    (start : pattern.Avoids left [] (found ++ right))
    (stop : pattern.Avoids (left ++ found) [] right) (before : ¬ pattern.StandsIn left)
    (behind : ¬ pattern.StandsIn right) : pattern.StandsOnce (left ++ found ++ right) := by
  obtain ⟨lead, stretch, rest, inner, described, single⟩ := once
  refine ⟨left ++ lead, stretch, rest ++ right, by simp [inner], described, ?_⟩
  intro front other back split described'
  have around : front ++ other ++ back = left ++ (found ++ right) := by
    rw [← split, List.append_assoc]
  rcases start.over_or_behind described' around with ⟨gap, ended⟩ | ⟨gap, rfl, inside⟩
  · exact (before ⟨front, other, gap, ended, described'⟩).elim
  · have stop' : pattern.Avoids found [] right := Avoids.of_append_left stop
    rcases stop'.over_or_behind described' inside.symm with ⟨gap', ended⟩ | ⟨gap', _, started⟩
    · rw [single gap other gap' ended described']
    · exact (behind ⟨gap', other, back, started, described'⟩).elim

/-- A fixed text of which a part stands once stands once where it stands. -/
theorem StandsOnce.of_part {front part back : Text} (once : StandsOnce [.literal part] text)
    (stands : StandsIn [.literal (front ++ part ++ back)] text) :
    StandsOnce [.literal (front ++ part ++ back)] text := by
  have inside {before found after : Text} (split : text = before ++ found ++ after)
      (described : Accepts [.literal (front ++ part ++ back)] found) :
      text = before ++ front ++ part ++ (back ++ after) := by
    rw [split, accepts_literal.mp described]
    simp
  obtain ⟨before, found, after, split, described⟩ := stands
  refine ⟨before, found, after, split, described, fun before' found' after' split' described' => ?_⟩
  have same := once.start_eq (inside split' described') (accepts_literal.mpr rfl)
    (inside split described) (accepts_literal.mpr rfl)
  exact List.append_cancel_right same

end Pattern

/-- Changes leave a pattern standing once that is apart from all that they cut and bring. -/
theorem Change.Reaches.standsOnce {changes : List Change} {pattern : Pattern}
    {source result : Text} (reaches : Reaches changes source result) (closed : pattern.Closed)
    (solid : pattern.isSolid = true) (cuts : ∀ change ∈ changes, pattern.Apart change.cut)
    (brings : ∀ change ∈ changes, pattern.Apart change.brought)
    (once : pattern.StandsOnce source) : pattern.StandsOnce result := by
  rw [closed.standsOnce_iff solid] at once ⊢
  refine ⟨reaches.standsIn cuts once.1, fun twice => once.2 ?_⟩
  refine reaches.inOrder_back (fun other member => ?_) twice
  obtain rfl : other = pattern := by simpa using member
  exact brings

end ScreenRetrofit
