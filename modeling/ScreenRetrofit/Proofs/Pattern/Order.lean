import ScreenRetrofit.Proofs.Pattern.Standing

/-!
# Patterns that stand in order

Patterns stand in a text in order when texts of them follow each other there, each behind the end of
the one before. Around a place that no text of them reaches into, some of them stand in front and the
others behind (`Pattern.inOrder_iff_of_avoids`), so what is put there or taken from there changes
nothing for them. Two texts in which the same of some patterns stand in order are alike in these
patterns.

A search that follows searches finds what stands in order (`Landmark.Definite.inOrder_cons_iff`): a
landmark behind the first of another, or a number of landmarks (`le_length_segments_iff`).
-/

namespace ScreenRetrofit

namespace Pattern

/-- Patterns stand in a text in order when texts of them follow each other there. -/
def InOrder : List Pattern → Text → Prop
  | [], _ => True
  | pattern :: patterns, text =>
    ∃ before found after, text = before ++ found ++ after ∧ pattern.Accepts found ∧
      InOrder patterns after

variable {pattern other : Pattern} {patterns firsts others : List Pattern}
  {text left block right : Text}

/-- One pattern is in order where it stands. -/
theorem inOrder_singleton : InOrder [pattern] text ↔ pattern.StandsIn text := by
  simp [InOrder, StandsIn]

/-- What is in order in the end of a text is in order in the text. -/
theorem InOrder.append_left (ordered : InOrder patterns text) (front : Text) :
    InOrder patterns (front ++ text) := by
  cases patterns with
  | nil => trivial
  | cons pattern patterns =>
    obtain ⟨before, found, after, rfl, described, later⟩ := ordered
    exact ⟨front ++ before, found, after, by simp, described, later⟩

/-- What is in order in one text, and then in another, is in order in both together. -/
theorem InOrder.append (first : InOrder firsts left) (second : InOrder others right) :
    InOrder (firsts ++ others) (left ++ right) := by
  induction firsts generalizing left with
  | nil => exact second.append_left left
  | cons pattern firsts ih =>
    obtain ⟨before, found, after, rfl, described, later⟩ := first
    exact ⟨before, found, after ++ right, by simp, described, ih later⟩

/-- A pattern avoids a block when every text of it is over before the block or starts behind it.
Where the block is empty this says that no text of it goes on across the place. -/
def Avoids (pattern : Pattern) (left block right : Text) : Prop :=
  ∀ {before found after : Text}, pattern.Accepts found →
    before ++ found ++ after = left ++ block ++ right →
      (∃ gap, left = before ++ found ++ gap) ∨ ∃ gap, right = gap ++ found ++ after

/-- A pattern avoids every text of a pattern apart from it. -/
theorem Apart.avoids (apart : pattern.Apart other) (blocked : other.Accepts block)
    (left right : Text) : pattern.Avoids left block right := by
  intro before found after described same
  rcases apart described blocked same with ended | ⟨gap, rfl⟩
  · exact .inl ended
  · exact .inr ⟨gap, by simpa using same.symm⟩

/-- A block is avoided whatever the text in front of it starts with. -/
theorem Avoids.of_append_left {lead : Text} (avoids : pattern.Avoids (lead ++ left) block right) :
    pattern.Avoids left block right := by
  intro before found after described same
  have longer : lead ++ before ++ found ++ after = lead ++ left ++ block ++ right := by
    simpa only [List.append_assoc, List.append_cancel_left_eq] using same
  rcases avoids described longer with ⟨gap, ended⟩ | started
  · exact .inl ⟨gap, by simpa using ended⟩
  · exact .inr started

/-- Around a place that a pattern does not go on across every text of it is over before the place or
starts behind it. -/
theorem Avoids.over_or_behind (avoids : pattern.Avoids left [] right) {before found after : Text}
    (described : pattern.Accepts found) (split : before ++ found ++ after = left ++ right) :
    (∃ gap, left = before ++ found ++ gap) ∨
      ∃ gap, before = left ++ gap ∧ right = gap ++ found ++ after := by
  have across : before ++ found ++ after = left ++ [] ++ right := by rw [split, List.append_nil]
  rcases avoids described across with ended | ⟨gap, behind⟩
  · exact .inl ended
  · have same : before ++ (found ++ after) = left ++ gap ++ (found ++ after) := by
      simpa [behind] using split
    exact .inr ⟨gap, List.append_cancel_right same, behind⟩

/-- Around a block that all of them avoid some patterns stand in front and the others behind. -/
theorem inOrder_iff_of_avoids (avoid : ∀ pattern ∈ patterns, pattern.Avoids left block right) :
    InOrder patterns (left ++ block ++ right) ↔
      ∃ firsts others, patterns = firsts ++ others ∧ InOrder firsts left ∧
        InOrder others right := by
  constructor
  · intro ordered
    induction patterns generalizing left with
    | nil => exact ⟨[], [], rfl, trivial, trivial⟩
    | cons pattern patterns ih =>
      obtain ⟨before, found, after, same, described, later⟩ := ordered
      rcases avoid pattern List.mem_cons_self described same.symm with ⟨gap, rfl⟩ | ⟨gap, rfl⟩
      · -- The first is over before the block, so the others follow in the rest of the front.
        have rest : after = gap ++ block ++ right := by simpa using same.symm
        have avoid' : ∀ next ∈ patterns, next.Avoids gap block right :=
          fun next member => Avoids.of_append_left (avoid next (List.mem_cons_of_mem _ member))
        obtain ⟨firsts, others, rfl, first, second⟩ := ih avoid' (rest ▸ later)
        exact ⟨pattern :: firsts, others, rfl, ⟨before, found, gap, rfl, described, first⟩, second⟩
      · exact ⟨[], pattern :: patterns, rfl, trivial, gap, found, after, rfl, described, later⟩
  · rintro ⟨firsts, others, rfl, first, second⟩
    rw [List.append_assoc]
    exact first.append (second.append_left block)

/-- Where all of them avoid one block and then another in its place, the same patterns are in
order. -/
theorem inOrder_congr_of_avoids {new : Text}
    (avoid : ∀ pattern ∈ patterns, pattern.Avoids left block right)
    (avoid' : ∀ pattern ∈ patterns, pattern.Avoids left new right) :
    InOrder patterns (left ++ block ++ right) ↔ InOrder patterns (left ++ new ++ right) := by
  rw [inOrder_iff_of_avoids avoid, inOrder_iff_of_avoids avoid']

/-- Two texts are alike in some patterns when the same of these stand in order in both. -/
def Alike (patterns : List Pattern) (text text' : Text) : Prop :=
  ∀ ⦃ordered : List Pattern⦄, ordered ⊆ patterns → (InOrder ordered text ↔ InOrder ordered text')

namespace Alike

variable {text' text'' : Text}

/-- A text is like itself. -/
theorem refl (patterns : List Pattern) (text : Text) : Alike patterns text text :=
  fun _ _ => Iff.rfl

/-- Texts are alike when they are like a third. -/
theorem trans (first : Alike patterns text text') (second : Alike patterns text' text'') :
    Alike patterns text text'' :=
  fun _ subset => (first subset).trans (second subset)

/-- Texts alike in some patterns are alike in fewer. -/
theorem mono (alike : Alike patterns text text') (subset : others ⊆ patterns) :
    Alike others text text' := fun _ subset' => alike fun _ member => subset (subset' member)

/-- In texts that are alike the same patterns stand. -/
theorem standsIn_iff (alike : Alike patterns text text') (member : pattern ∈ patterns) :
    pattern.StandsIn text ↔ pattern.StandsIn text' := by
  rw [← inOrder_singleton, ← inOrder_singleton]
  exact alike (List.cons_subset.mpr ⟨member, List.nil_subset patterns⟩)

end Alike

end Pattern

namespace Landmark.Definite

open Pattern (InOrder)

variable {landmark : Landmark} {patterns : List Pattern} {text : Text} {cut : Cut}

/-- Of a landmark that never starts inside itself, what follows any of its texts follows the
first. -/
theorem inOrder_cons_iff (definite : landmark.Definite) (closed : landmark.pattern.Closed)
    (search : landmark.find? text = some cut) :
    InOrder (landmark.pattern :: patterns) text ↔ InOrder patterns cut.after := by
  have whole : text = cut.before ++ cut.found ++ cut.after := by
    rw [← whole_of_find? search]
    simp [Cut.whole, Cut.found]
  constructor
  · rintro ⟨before, stretch, after, split, described, later⟩
    obtain ⟨gap, rfl⟩ := definite.first search split described
    have here : cut.found ++ cut.after = gap ++ (stretch ++ after) := by
      rw [whole] at split
      simpa using split
    by_cases start : gap = []
    · -- It starts where the first does, so it is the first.
      obtain ⟨head, tail, rfl, first, second⟩ := Pattern.accepts_append.mp described
      have same : head ++ tail ++ after = cut.head ++ cut.tail ++ cut.after := by
        simpa [start, Cut.found] using here.symm
      obtain ⟨rfl, rfl⟩ := definite.unique ⟨first, second⟩ (definite.accepts search) same
      obtain rfl := List.append_cancel_left same
      exact later
    · obtain ⟨rest, rfl⟩ := closed (definite.accepts_found search) described start here
      have behind : cut.after = rest ++ stretch ++ after := by simpa using here
      rw [behind]
      exact later.append_left (rest ++ stretch)
  · intro later
    exact ⟨cut.before, cut.found, cut.after, whole, definite.accepts_found search, later⟩

/-- A landmark is found behind the first of another exactly where the two stand in order. -/
theorem find?_after_isSome_iff (definite : landmark.Definite) (closed : landmark.pattern.Closed)
    {next : Landmark} (definite' : next.Definite) :
    ((landmark.find? text).bind fun cut => next.find? cut.after).isSome = true ↔
      InOrder [landmark.pattern, next.pattern] text := by
  cases search : landmark.find? text with
  | none =>
    have absent := definite.find?_eq_none_iff.mp search
    constructor
    · intro found
      contradiction
    · rintro ⟨before, stretch, after, split, described, _⟩
      exact (absent ⟨before, stretch, after, split, described⟩).elim
  | some cut =>
    rw [definite.inOrder_cons_iff closed search, Pattern.inOrder_singleton]
    exact definite'.find?_isSome_iff

/-- There are as many segments as texts of the landmark in order. -/
theorem le_length_segments_iff (definite : landmark.Definite) (closed : landmark.pattern.Closed)
    (count : Nat) (text : Text) : count ≤ (landmark.segments text).1.length ↔
      InOrder (List.replicate count landmark.pattern) text := by
  induction text using definite.scan generalizing count with
  | missing text missing =>
    rw [segments_of_find?_eq_none missing]
    cases count with
    | zero => simp [InOrder]
    | succ count =>
      have absent := definite.find?_eq_none_iff.mp missing
      constructor
      · intro none
        contradiction
      · rintro ⟨before, stretch, after, split, described, _⟩
        exact (absent ⟨before, stretch, after, split, described⟩).elim
  | found text cut search ih =>
    rw [definite.segments_of_find?_eq_some search]
    cases count with
    | zero => simp [InOrder]
    | succ count =>
      rw [List.length_cons, Nat.add_le_add_iff_right, ih count, List.replicate_succ,
        definite.inOrder_cons_iff closed search]

end Landmark.Definite

end ScreenRetrofit
