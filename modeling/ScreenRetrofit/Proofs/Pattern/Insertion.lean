import ScreenRetrofit.Proofs.Pattern.Order

/-!
# Insertions

An insertion puts a text at a place that is known by what ends there or by what starts there. A
pattern can share characters with both and still be spared: its texts only must not go on across the
place. They do not where what starts at the place never starts inside a text of the pattern, or where
what ends there never ends inside one; the second is the first read from right to left
(`Slot.Describe.reverse`). A pattern that is spared, and that is apart from what is put in, stands
after the insertion where it stood (`Insertion.Leads.alike`).
-/

namespace ScreenRetrofit

namespace Slot

variable {slots others : List Slot} {slot : Slot}

/-- Described texts one after the other are described by their slots one after the other. -/
theorem Describe.append {text rest : Text} (described : Describe slots text)
    (later : Describe others rest) : Describe (slots ++ others) (text ++ rest) := by
  induction described with
  | nil => exact later
  | take single suits _ ih => exact .take single suits ih
  | stay repeats suits _ ih => exact .stay repeats suits ih
  | leave repeats _ ih => exact .leave repeats ih

/-- A run at the end of the slots takes one character more at the end of the text. -/
theorem Describe.stay_last {text : Text} {c : Char} (described : Describe (slots ++ [slot]) text)
    (repeats : slot.isRun = true) (suits : slot.has c = true) :
    Describe (slots ++ [slot]) (text ++ [c]) := by
  generalize whole : slots ++ [slot] = all at described ⊢
  induction described generalizing slots with
  | nil => simp at whole
  | @take first d rest text single suits' later ih =>
    obtain _ | ⟨front, slots⟩ := slots
    · -- The run is the only slot, and a slot for one character is none.
      simp only [List.nil_append, List.cons.injEq] at whole
      rw [← whole.1, repeats] at single
      contradiction
    · simp only [List.cons_append, List.cons.injEq] at whole
      exact .take single suits' (ih whole.2)
  | stay repeats' suits' _ ih => exact .stay repeats' suits' (ih whole)
  | @leave first rest text repeats' later ih =>
    obtain _ | ⟨front, slots⟩ := slots
    · simp only [List.nil_append, List.cons.injEq] at whole
      obtain ⟨rfl, rfl⟩ := whole
      cases later
      exact .stay repeats suits (.leave repeats .nil)
    · simp only [List.cons_append, List.cons.injEq] at whole
      exact .leave repeats' (ih whole.2)

/-- A described text read from right to left is described by its slots read so. -/
theorem Describe.reverse {text : Text} (described : Describe slots text) :
    Describe slots.reverse text.reverse := by
  induction described with
  | nil => exact .nil
  | take single suits _ ih =>
    rw [List.reverse_cons, List.reverse_cons]
    exact ih.append (.take single suits .nil)
  | stay repeats suits _ ih =>
    rw [List.reverse_cons] at ih
    rw [List.reverse_cons, List.reverse_cons]
    exact ih.stay_last repeats suits
  | leave repeats _ ih =>
    have last := ih.append (Describe.leave repeats .nil)
    rw [List.reverse_cons]
    simpa using last

/-- A text of slots that no other may start in is over where one starts, or starts behind that
place. -/
theorem over_or_behind_of_not_mayEnter {before found after left block right : Text}
    (closed : mayEnter slots others = false) (described : Describe slots found)
    (blocked : Describe others block) (same : before ++ found ++ after = left ++ (block ++ right)) :
    (∃ gap, left = before ++ found ++ gap) ∨ ∃ gap, before = left ++ gap := by
  rw [List.append_assoc] at same
  rcases List.append_eq_append_iff.mp same with ⟨lead, cut, rest⟩ | ⟨gap, cut, _⟩
  · by_cases start : lead = []
    · exact .inr ⟨[], by simp [cut, start]⟩
    · obtain ⟨gap, rfl⟩ := over_of_not_mayEnter closed described blocked start rest
      exact .inl ⟨gap, by rw [cut, List.append_assoc]⟩
  · exact .inr ⟨gap, cut⟩

end Slot

namespace Pattern.Spelling

variable {pattern other : Pattern} {block : Text}

/-- Where a text starts that starts in no text of a pattern, that pattern does not go on across. -/
theorem avoids_start (spelling : Spelling pattern) (others : Spelling other)
    (checked : Slot.mayEnter spelling.slots others.slots = false) (blocked : other.Accepts block)
    (left right : Text) : pattern.Avoids left [] (block ++ right) := by
  intro before found after described same
  rw [List.append_nil] at same
  rcases Slot.over_or_behind_of_not_mayEnter checked (spelling.describe described)
    (others.describe blocked) same with ended | ⟨gap, rfl⟩
  · exact .inl ended
  · exact .inr ⟨gap, by simpa using same.symm⟩

/-- Where a text ends that ends in no text of a pattern, that pattern does not go on across. -/
theorem avoids_end (spelling : Spelling pattern) (others : Spelling other)
    (checked : Slot.mayEnter spelling.slots.reverse others.slots.reverse = false)
    (blocked : other.Accepts block) (left right : Text) :
    pattern.Avoids (left ++ block) [] right := by
  intro before found after described same
  rw [List.append_nil] at same
  -- From right to left the block stands behind the place.
  have mirrored : after.reverse ++ found.reverse ++ before.reverse =
      right.reverse ++ (block.reverse ++ left.reverse) := by
    have turned := congrArg List.reverse same
    simpa using turned
  rcases Slot.over_or_behind_of_not_mayEnter checked (spelling.describe described).reverse
    (others.describe blocked).reverse mirrored with ⟨gap, started⟩ | ⟨gap, ended⟩
  · have turned := congrArg List.reverse started
    exact .inr ⟨gap.reverse, by simpa using turned⟩
  · have turned := congrArg List.reverse ended
    have tail : after = gap.reverse ++ right := by simpa using turned
    rw [tail] at same
    refine .inl ⟨gap.reverse, ?_⟩
    rw [← List.append_assoc, List.append_cancel_right_eq] at same
    exact same.symm

end Pattern.Spelling

/-- A kind of insertion, spelled out. -/
structure Insertion where
  /-- What ends at the place. -/
  front : Pattern
  /-- What starts at the place. -/
  back : Pattern
  /-- What is put in. -/
  brought : Pattern
  /-- What ends at the place, as slots. -/
  frontSpelled : front.Spelling
  /-- What starts at the place, as slots. -/
  backSpelled : back.Spelling
  /-- What is put in, as slots. -/
  broughtSpelled : brought.Spelling

namespace Insertion

open Pattern (InOrder Alike)

/-- One insertion of a kind. -/
def Leads (insertion : Insertion) (source result : Text) : Prop :=
  ∃ left front new back right, source = left ++ front ++ (back ++ right) ∧
    result = left ++ front ++ new ++ (back ++ right) ∧ insertion.front.Accepts front ∧
    insertion.back.Accepts back ∧ insertion.brought.Accepts new

/-- A pattern is spared when none of its texts goes on across the place, and none shares a character
with what is put in. -/
structure Spares (insertion : Insertion) (pattern : Pattern) : Prop where
  /-- None goes on across the place. -/
  place {front back : Text} (ends : insertion.front.Accepts front)
    (starts : insertion.back.Accepts back) (left right : Text) :
    pattern.Avoids (left ++ front) [] (back ++ right)
  /-- None shares a character with what is put in. -/
  apart : pattern.Apart insertion.brought

/-- Whether slots show that a pattern is spared. -/
def spares (insertion : Insertion) (slots : List Slot) : Bool :=
  (!Slot.mayEnter slots.reverse insertion.frontSpelled.slots.reverse ||
      !Slot.mayEnter slots insertion.backSpelled.slots) &&
    Slot.areApart slots insertion.broughtSpelled.slots

variable {insertion : Insertion} {pattern : Pattern} {patterns : List Pattern}
  {source result : Text}

/-- A pattern is spared when its slots show it. -/
theorem Spares.of_slots (spelling : pattern.Spelling)
    (checked : insertion.spares spelling.slots = true) : insertion.Spares pattern := by
  simp only [spares, Bool.and_eq_true, Bool.or_eq_true, Bool.not_eq_true'] at checked
  obtain ⟨clear, disjoint⟩ := checked
  refine ⟨?_, spelling.apart insertion.broughtSpelled disjoint⟩
  intro front back ends starts left right
  rcases clear with closed | closed
  · exact spelling.avoids_end insertion.frontSpelled closed ends left (back ++ right)
  · exact spelling.avoids_start insertion.backSpelled closed starts (left ++ front) right

/-- After an insertion the patterns that it spares stand in the order in which they stood. -/
theorem Leads.alike (leads : insertion.Leads source result)
    (spared : ∀ pattern ∈ patterns, insertion.Spares pattern) : Alike patterns result source := by
  obtain ⟨left, front, new, back, right, rfl, rfl, ends, starts, brought⟩ := leads
  intro ordered subset
  have around : ∀ pattern ∈ ordered, pattern.Avoids (left ++ front) [] (back ++ right) :=
    fun pattern member => (spared pattern (subset member)).place ends starts left right
  have apart : ∀ pattern ∈ ordered, pattern.Avoids (left ++ front) new (back ++ right) :=
    fun pattern member => Pattern.Apart.avoids (spared pattern (subset member)).apart brought _ _
  have same := Pattern.inOrder_congr_of_avoids apart around
  rwa [List.append_nil] at same

end Insertion

end ScreenRetrofit
