import ScreenRetrofit.Pattern.Basic

/-!
# Patterns that never meet

Two patterns are *apart* when a text of the one and a text of the other never share a character,
wherever the two stand in one text. An edit that cuts in or replaces a text of the one pattern can
then neither break nor make a text of the other.

A pattern is spelled out as slots, one for each character or run. `Slot.areApart` reads two lists
of slots against each other, once from their starts and once from every place inside either of
them. It may answer no for patterns that are apart, since two classes always count as having a
character in common; whenever it answers yes they are (`Pattern.Spelling.apart`).
-/

namespace ScreenRetrofit

/-- What a pattern asks of one character, or of a run of characters. -/
inductive Slot where
  /-- One given character. -/
  | char (expected : Char)
  /-- One character of a class. -/
  | one (chars : CharClass)
  /-- Any number of characters of a class. -/
  | run (chars : CharClass)
  deriving DecidableEq, Repr

namespace Slot

/-- Whether a slot holds any number of characters. -/
def isRun : Slot → Bool
  | run _ => true
  | _ => false

/-- Whether a character suits a slot. -/
def has : Slot → Char → Bool
  | char expected, c => c == expected
  | one chars, c => chars.has c
  | run chars, c => chars.has c

/-- Whether one character may suit two slots. Two classes count as having one in common. -/
def mayShare : Slot → Slot → Bool
  | char expected, other => other.has expected
  | slot, char expected => slot.has expected
  | _, _ => true

/-- Two slots that one character suits may share one. -/
theorem mayShare_of_has {left right : Slot} {c : Char} (first : left.has c = true)
    (second : right.has c = true) : left.mayShare right = true := by
  cases left with
  | char expected =>
    obtain rfl : c = expected := by simpa [has] using first
    exact second
  | one chars =>
    cases right with
    | char expected =>
      obtain rfl : c = expected := by simpa [has] using second
      exact first
    | one => rfl
    | run => rfl
  | run chars =>
    cases right with
    | char expected =>
      obtain rfl : c = expected := by simpa [has] using second
      exact first
    | one => rfl
    | run => rfl

/-- The texts that slots in order describe, one character at a time. -/
inductive Describe : List Slot → Text → Prop where
  /-- No slots describe the empty text. -/
  | nil : Describe [] []
  /-- A slot for one character takes it and is done. -/
  | take {slot : Slot} {c : Char} {slots : List Slot} {text : Text} (single : slot.isRun = false)
      (suits : slot.has c = true) (later : Describe slots text) :
      Describe (slot :: slots) (c :: text)
  /-- A run takes a character and goes on. -/
  | stay {slot : Slot} {c : Char} {slots : List Slot} {text : Text} (repeats : slot.isRun = true)
      (suits : slot.has c = true) (later : Describe (slot :: slots) text) :
      Describe (slot :: slots) (c :: text)
  /-- A run ends. -/
  | leave {slot : Slot} {slots : List Slot} {text : Text} (repeats : slot.isRun = true)
      (later : Describe slots text) : Describe (slot :: slots) text

/-- A fixed text in front of described text is described by its characters. -/
theorem Describe.literal {slots : List Slot} {text : Text} (later : Describe slots text)
    (expected : Text) : Describe (expected.map char ++ slots) (expected ++ text) := by
  induction expected with
  | nil => exact later
  | cons c expected ih => exact .take rfl (by simp [has]) ih

/-- Characters of a class in front of described text are described by a run. -/
theorem Describe.inRun {chars : CharClass} {slots : List Slot} {text : Text}
    (later : Describe slots text) {taken : Text} (inside : ∀ c ∈ taken, chars.has c = true) :
    Describe (run chars :: slots) (taken ++ text) := by
  induction taken with
  | nil => exact .leave rfl later
  | cons c taken ih =>
    exact .stay rfl (inside c List.mem_cons_self)
      (ih fun d member => inside d (List.mem_cons_of_mem c member))

/-- Whether texts may agree as far as both go when one starts with a slot. What may follow the
slot is asked of `later`. -/
def mayAgreeFrom (slot : Slot) (later : List Slot → Bool) : List Slot → Bool
  | [] => true
  | first :: others =>
    (slot.isRun && later (first :: others)) || (first.isRun && mayAgreeFrom slot later others) ||
      (slot.mayShare first &&
        match slot.isRun, first.isRun with
        | false, false => later others
        | false, true => later (first :: others)
        | true, false => mayAgreeFrom slot later others
        | true, true => false)

/-- Whether texts that two lists of slots describe may agree as far as both go. -/
def mayAgree : List Slot → List Slot → Bool
  | [], _ => true
  | slot :: slots, others => slot.mayAgreeFrom (mayAgree slots) others

/-- Where the own run may end, the other text may agree with what follows the run. -/
theorem mayAgree_leave {slot : Slot} {slots others : List Slot} (repeats : slot.isRun = true)
    (agree : mayAgree slots others = true) : mayAgree (slot :: slots) others = true := by
  cases others with
  | nil => rfl
  | cons first others => simp [mayAgree, mayAgreeFrom, repeats, agree]

/-- Where the other run may end, the own text may agree with what follows that run. -/
theorem mayAgree_leave_other {slot first : Slot} {slots others : List Slot}
    (repeats : first.isRun = true) (agree : mayAgree (slot :: slots) others = true) :
    mayAgree (slot :: slots) (first :: others) = true := by
  rw [mayAgree] at agree
  simp [mayAgree, mayAgreeFrom, repeats, agree]

/-- Described texts that agree as far as both go may do so by their slots. -/
theorem mayAgree_of_describe {slots others : List Slot} {text other rest rest' : Text}
    (left : Describe slots text) (right : Describe others other)
    (same : text ++ rest = other ++ rest') : mayAgree slots others = true := by
  -- The outer induction follows the first text; runs of the second that end without a character
  -- need an inner one.
  induction left generalizing others other with
  | nil => rfl
  | @take slot c slots text single suits _ ih =>
    induction right with
    | nil => rfl
    | @take first d _ _ single' suits' later' _ =>
      simp only [List.cons_append, List.cons.injEq] at same
      obtain ⟨rfl, same⟩ := same
      have agree := ih later' same
      simp [mayAgree, mayAgreeFrom, single, single', mayShare_of_has suits suits', agree]
    | @stay first d _ _ repeats' suits' later' _ =>
      simp only [List.cons_append, List.cons.injEq] at same
      obtain ⟨rfl, same⟩ := same
      have agree := ih later' same
      simp [mayAgree, mayAgreeFrom, single, repeats', mayShare_of_has suits suits', agree]
    | leave repeats' _ ih' => exact mayAgree_leave_other repeats' (ih' same)
  | leave repeats _ ih => exact mayAgree_leave repeats (ih right same)
  | @stay slot c slots text repeats suits _ ih =>
    induction right with
    | nil => rfl
    | @take first d _ _ single' suits' later' _ =>
      simp only [List.cons_append, List.cons.injEq] at same
      obtain ⟨rfl, same⟩ := same
      have agree := ih later' same
      rw [mayAgree] at agree
      simp [mayAgree, mayAgreeFrom, repeats, single', mayShare_of_has suits suits', agree]
    | stay _ _ later' _ =>
      simp only [List.cons_append, List.cons.injEq] at same
      exact ih later' same.2
    | leave repeats' _ ih' => exact mayAgree_leave_other repeats' (ih' same)

/-- The slots that what is left of a described text may start with, for every place inside. -/
def remainders : List Slot → List (List Slot)
  | [] => []
  | slot :: slots => (if slot.isRun then slot :: slots else slots) :: remainders slots

/-- What is left of a described text behind a front is described by one of the remainders. -/
theorem describe_remainder {slots : List Slot} {text front rest : Text}
    (described : Describe slots text) (cut : text = front ++ rest) (inside : front ≠ []) :
    ∃ later ∈ remainders slots, Describe later rest := by
  induction described generalizing front with
  | nil => simp_all
  | @take slot c slots text single _ later ih =>
    obtain _ | ⟨d, front⟩ := front
    · contradiction
    · simp only [List.cons_append, List.cons.injEq] at cut
      by_cases done : front = []
      · refine ⟨slots, by simp [remainders, single], ?_⟩
        rw [done, List.nil_append] at cut
        exact cut.2 ▸ later
      · obtain ⟨found, member, described⟩ := ih cut.2 done
        exact ⟨found, by simp [remainders, member], described⟩
  | @stay slot c slots text repeats _ later ih =>
    obtain _ | ⟨d, front⟩ := front
    · contradiction
    · simp only [List.cons_append, List.cons.injEq] at cut
      by_cases done : front = []
      · refine ⟨slot :: slots, by simp [remainders, repeats], ?_⟩
        rw [done, List.nil_append] at cut
        exact cut.2 ▸ later
      · exact ih cut.2 done
  | leave _ _ ih =>
    obtain ⟨found, member, described⟩ := ih cut inside
    exact ⟨found, by simp [remainders, member], described⟩

/-- Whether a text of the second slots may start inside a text of the first. -/
def mayEnter (slots others : List Slot) : Bool :=
  (remainders slots).any fun later => !later.isEmpty && mayAgree later others

/-- Whether texts of two lists of slots never share a character. -/
def areApart (slots others : List Slot) : Bool :=
  !mayAgree slots others && !mayEnter slots others && !mayEnter others slots

/-- A text that no other may start in is over where one starts behind its start. -/
theorem over_of_not_mayEnter {slots others : List Slot} {found after lead block right : Text}
    (closed : mayEnter slots others = false) (described : Describe slots found)
    (blocked : Describe others block) (ahead : lead ≠ [])
    (same : found ++ after = lead ++ (block ++ right)) : ∃ gap, lead = found ++ gap := by
  rcases List.append_eq_append_iff.mp same with ⟨gap, cut, _⟩ | ⟨inner, cut, agree⟩
  · exact ⟨gap, cut⟩
  · by_cases ended : inner = []
    · exact ⟨[], by simp [cut, ended]⟩
    · obtain ⟨later, member, remains⟩ := describe_remainder described cut ahead
      have some : later ≠ [] := by
        rintro rfl
        cases remains
        contradiction
      have meets : mayAgree later others = true := mayAgree_of_describe remains blocked agree.symm
      have entered : mayEnter slots others = true :=
        List.any_eq_true.mpr ⟨later, member, by simp [some, meets]⟩
      rw [closed] at entered
      contradiction

end Slot

namespace Pattern

/-- No text of the first pattern shares a character with a text of the second: of two that stand
in one text, either is over before the other starts. -/
def Apart (first second : Pattern) : Prop :=
  ∀ {before found after left block right : Text}, first.Accepts found → second.Accepts block →
    before ++ found ++ after = left ++ block ++ right →
      (∃ gap, left = before ++ found ++ gap) ∨ ∃ gap, before = left ++ block ++ gap

/-- No text of the pattern starts inside another text of it. -/
def Closed (pattern : Pattern) : Prop :=
  ∀ {found after lead block right : Text}, pattern.Accepts found → pattern.Accepts block →
    lead ≠ [] → found ++ after = lead ++ (block ++ right) → ∃ gap, lead = found ++ gap

/-- A pattern spelled out: slots that describe whatever the pattern describes. -/
structure Spelling (pattern : Pattern) where
  /-- The slots. -/
  slots : List Slot
  /-- What the pattern describes the slots describe. -/
  describe {text : Text} (described : pattern.Accepts text) : Slot.Describe slots text

namespace Spelling

variable {pieces : Pattern}

/-- The empty pattern has no slots. -/
def nil : Spelling [] where
  slots := []
  describe described := by
    obtain rfl := described
    exact .nil

/-- A fixed text is spelled by the characters of the literal that it is written as. -/
def literal {written : String} {chars : Text} (spelled : written = String.ofList chars)
    (later : Spelling pieces) : Spelling (.literal written.toList :: pieces) where
  slots := chars.map .char ++ later.slots
  describe := by
    rintro _ ⟨first, rest, rfl, head, tail⟩
    obtain rfl : first = chars := by rw [head, spelled, String.toList_ofList]
    exact (later.describe tail).literal first

/-- A text made from a fixed one is spelled by what is made of the characters of its literal. -/
def made (make : Text → Text) {written : String} {chars : Text}
    (spelled : written = String.ofList chars) (later : Spelling pieces) :
    Spelling (.literal (make written.toList) :: pieces) where
  slots := (make chars).map .char ++ later.slots
  describe := by
    rintro _ ⟨first, rest, rfl, head, tail⟩
    obtain rfl : first = make chars := by rw [head, spelled, String.toList_ofList]
    exact (later.describe tail).literal _

/-- One or more characters of a class are one of them and a run. -/
def some {chars : CharClass} (later : Spelling pieces) : Spelling (.some chars :: pieces) where
  slots := .one chars :: .run chars :: later.slots
  describe := by
    rintro _ ⟨_ | ⟨c, first⟩, rest, rfl, ⟨full, inside⟩, tail⟩
    · contradiction
    · exact .take rfl (inside c List.mem_cons_self)
        ((later.describe tail).inRun fun d member => inside d (List.mem_cons_of_mem c member))

/-- Any number of characters of a class are a run. -/
def many {chars : CharClass} (later : Spelling pieces) : Spelling (.many chars :: pieces) where
  slots := .run chars :: later.slots
  describe := by
    rintro _ ⟨first, rest, rfl, inside, tail⟩
    exact (later.describe tail).inRun inside

/-- Patterns whose slots are apart are apart. -/
theorem apart {first second : Pattern} (left : Spelling first) (right : Spelling second)
    (checked : Slot.areApart left.slots right.slots = true) : Apart first second := by
  simp only [Slot.areApart, Bool.and_eq_true, Bool.not_eq_true'] at checked
  obtain ⟨⟨disagree, closed⟩, closed'⟩ := checked
  intro before found after front block back described blocked same
  rw [List.append_assoc, List.append_assoc] at same
  have left := left.describe described
  have right := right.describe blocked
  have never {rest rest' : Text} (equal : found ++ rest = block ++ rest') : False := by
    have agree := Slot.mayAgree_of_describe left right equal
    rw [disagree] at agree
    contradiction
  rcases List.append_eq_append_iff.mp same with ⟨lead, cut, rest⟩ | ⟨lead, cut, rest⟩
  · by_cases start : lead = []
    · rw [start, List.nil_append] at rest
      exact (never rest).elim
    · obtain ⟨gap, rfl⟩ := Slot.over_of_not_mayEnter closed left right start rest
      exact .inl ⟨gap, by rw [cut, List.append_assoc]⟩
  · by_cases start : lead = []
    · rw [start, List.nil_append] at rest
      exact (never rest.symm).elim
    · obtain ⟨gap, rfl⟩ := Slot.over_of_not_mayEnter closed' right left start rest
      exact .inr ⟨gap, by rw [cut, List.append_assoc]⟩

/-- A pattern whose slots may not start inside themselves is closed. -/
theorem closed {pattern : Pattern} (spelling : Spelling pattern)
    (checked : Slot.mayEnter spelling.slots spelling.slots = false) : Closed pattern :=
  fun described blocked ahead same =>
    Slot.over_of_not_mayEnter checked (spelling.describe described) (spelling.describe blocked)
      ahead same

end Spelling

end Pattern

end ScreenRetrofit
