import ScreenRetrofit.Proofs.Pattern.Order

/-!
# Changes of a text

A change cuts into a text of one pattern, or takes it out, and brings in a text of another. A
sequence of changes neither takes away patterns apart from all that it cuts
(`Change.Reaches.inOrder`) nor brings in patterns apart from all that it brings
(`Change.Reaches.inOrder_back`), and it keeps the order in which they stand. Putting a text at every
landmark is such a sequence (`Landmark.Definite.reaches_insertAtEach`).
-/

namespace ScreenRetrofit

/-- A kind of change, spelled out. -/
structure Change where
  /-- What is cut into or taken out. -/
  cut : Pattern
  /-- What comes in. -/
  brought : Pattern
  /-- What is cut, as slots. -/
  cutSpelled : cut.Spelling
  /-- What comes in, as slots. -/
  broughtSpelled : brought.Spelling

namespace Change

/-- One change of a kind: in a text that the cut pattern describes a middle part, which may be
empty, makes room for a text that the brought pattern describes. -/
def Leads (change : Change) (source result : Text) : Prop :=
  ∃ left front middle back right new, source = left ++ (front ++ middle ++ back) ++ right ∧
    result = left ++ front ++ new ++ (back ++ right) ∧
    change.cut.Accepts (front ++ middle ++ back) ∧ change.brought.Accepts new

/-- Any number of changes of the given kinds, one after the other. -/
inductive Reaches (changes : List Change) : Text → Text → Prop where
  /-- No change. -/
  | refl (text : Text) : Reaches changes text text
  /-- A change and what follows it. -/
  | step {change : Change} {source middle result : Text} (listed : change ∈ changes)
      (leads : change.Leads source middle) (later : Reaches changes middle result) :
      Reaches changes source result

open Pattern (InOrder)

variable {change : Change} {changes more : List Change} {pattern : Pattern}
  {patterns : List Pattern} {source middle result : Text}

/-- A pattern is apart from all that some kinds of changes cut when its slots are. -/
theorem apart_cut (spelling : pattern.Spelling) (checked :
    (changes.all fun change => Slot.areApart spelling.slots change.cutSpelled.slots) = true) :
    ∀ change ∈ changes, pattern.Apart change.cut :=
  fun change listed => spelling.apart change.cutSpelled (List.all_eq_true.mp checked change listed)

/-- A pattern is apart from all that some kinds of changes bring when its slots are. -/
theorem apart_brought (spelling : pattern.Spelling) (checked :
    (changes.all fun change => Slot.areApart spelling.slots change.broughtSpelled.slots) = true) :
    ∀ change ∈ changes, pattern.Apart change.brought :=
  fun change listed =>
    spelling.apart change.broughtSpelled (List.all_eq_true.mp checked change listed)

/-- A change of a text is a change of every text that ends with it. -/
theorem Leads.append_left (leads : change.Leads source result) (lead : Text) :
    change.Leads (lead ++ source) (lead ++ result) := by
  obtain ⟨left, front, middle, back, right, new, rfl, rfl, described, brought⟩ := leads
  exact ⟨lead ++ left, front, middle, back, right, new, by simp, by simp, described, brought⟩

/-- A change takes no patterns away that are apart from what it cuts. -/
theorem Leads.inOrder (leads : change.Leads source result)
    (apart : ∀ pattern ∈ patterns, pattern.Apart change.cut)
    (ordered : InOrder patterns source) : InOrder patterns result := by
  obtain ⟨left, front, middle, back, right, new, rfl, rfl, described, _⟩ := leads
  obtain ⟨firsts, others, rfl, inLeft, inRight⟩ := (Pattern.inOrder_iff_of_avoids
    fun pattern member => Pattern.Apart.avoids (apart pattern member) described left right).mp
      ordered
  have kept := inLeft.append (inRight.append_left (front ++ new ++ back))
  simpa only [List.append_assoc] using kept

/-- A change brings no patterns in that are apart from what it brings. -/
theorem Leads.inOrder_back (leads : change.Leads source result)
    (apart : ∀ pattern ∈ patterns, pattern.Apart change.brought)
    (ordered : InOrder patterns result) : InOrder patterns source := by
  obtain ⟨left, front, middle, back, right, new, rfl, rfl, _, brought⟩ := leads
  obtain ⟨firsts, others, rfl, inLeft, inRight⟩ := (Pattern.inOrder_iff_of_avoids
    fun pattern member => Pattern.Apart.avoids (apart pattern member) brought (left ++ front)
      (back ++ right)).mp ordered
  have kept := inLeft.append (inRight.append_left middle)
  simpa only [List.append_assoc] using kept

/-- One change is a sequence of changes. -/
theorem Leads.reaches (leads : change.Leads source result) (listed : change ∈ changes) :
    Reaches changes source result := .step listed leads (.refl result)

namespace Reaches

/-- Two sequences of changes one after the other are a sequence of changes. -/
theorem trans (first : Reaches changes source middle) (second : Reaches changes middle result) :
    Reaches changes source result := by
  induction first with
  | refl => exact second
  | step listed leads _ ih => exact .step listed leads (ih second)

/-- Changes of some kinds are changes of more kinds. -/
theorem mono (reaches : Reaches changes source result) (subset : changes ⊆ more) :
    Reaches more source result := by
  induction reaches with
  | refl text => exact .refl text
  | step listed leads _ ih => exact .step (subset listed) leads ih

/-- Changes of a text are changes of every text that ends with it. -/
theorem append_left (reaches : Reaches changes source result) (lead : Text) :
    Reaches changes (lead ++ source) (lead ++ result) := by
  induction reaches with
  | refl text => exact .refl (lead ++ text)
  | step listed leads _ ih => exact .step listed (leads.append_left lead) ih

/-- Changes take no patterns away that are apart from all that they cut. -/
theorem inOrder (reaches : Reaches changes source result)
    (apart : ∀ pattern ∈ patterns, ∀ change ∈ changes, pattern.Apart change.cut)
    (ordered : InOrder patterns source) : InOrder patterns result := by
  induction reaches with
  | refl => exact ordered
  | step listed leads _ ih =>
    exact ih (leads.inOrder (fun pattern member => apart pattern member _ listed) ordered)

/-- Changes bring no patterns in that are apart from all that they bring. -/
theorem inOrder_back (reaches : Reaches changes source result)
    (apart : ∀ pattern ∈ patterns, ∀ change ∈ changes, pattern.Apart change.brought)
    (ordered : InOrder patterns result) : InOrder patterns source := by
  induction reaches with
  | refl => exact ordered
  | step listed leads _ ih =>
    exact leads.inOrder_back (fun pattern member => apart pattern member _ listed) (ih ordered)

/-- A pattern apart from all that changes cut stands after them where it stood. -/
theorem standsIn (reaches : Reaches changes source result)
    (apart : ∀ change ∈ changes, pattern.Apart change.cut) (stands : pattern.StandsIn source) :
    pattern.StandsIn result := by
  rw [← Pattern.inOrder_singleton] at stands ⊢
  exact reaches.inOrder (List.forall_mem_singleton.mpr apart) stands

/-- A pattern apart from all that changes bring stood where it stands after them. -/
theorem standsIn_back (reaches : Reaches changes source result)
    (apart : ∀ change ∈ changes, pattern.Apart change.brought) (stands : pattern.StandsIn result) :
    pattern.StandsIn source := by
  rw [← Pattern.inOrder_singleton] at stands ⊢
  exact reaches.inOrder_back (List.forall_mem_singleton.mpr apart) stands

end Reaches

end Change

/-- Putting a text at every landmark is a sequence of changes. Each cuts into the end of the
landmark's head, however much of it, and brings in the text together with the landmark's tail, which
is there before and after. -/
theorem Landmark.Definite.reaches_insertAtEach_near {landmark : Landmark}
    (definite : landmark.Definite) {change : Change} {inserted : Text} (far near : Pattern)
    (parts : landmark.head = far ++ near) (cuts : change.cut = near ++ landmark.tail)
    (brings : change.brought = .literal inserted :: landmark.tail) (text : Text) :
    Change.Reaches [change] text (landmark.insertAtEach inserted text) := by
  induction text using definite.scan with
  | missing text missing =>
    rw [insertAtEach_of_find?_eq_none missing]
    exact .refl text
  | found text cut found ih =>
    obtain ⟨head, tail⟩ := definite.accepts found
    rw [parts] at head
    obtain ⟨front, back, split, _, ends⟩ := Pattern.accepts_append.mp head
    rw [definite.insertAtEach_of_find?_eq_some found]
    have lead : change.Leads text
        (cut.before ++ cut.head ++ (inserted ++ cut.tail) ++ cut.after) := by
      refine ⟨cut.before ++ front, back, cut.tail, [], cut.after, inserted ++ cut.tail, ?_,
        by simp [split], ?_, ?_⟩
      · rw [← whole_of_find? found]
        simp [Cut.whole, split]
      · rw [cuts, List.append_nil]
        exact Pattern.accepts_append.mpr ⟨back, cut.tail, rfl, ends, tail⟩
      · rw [brings]
        exact ⟨inserted, cut.tail, rfl, rfl, tail⟩
    exact .step List.mem_cons_self lead (ih.append_left _)

/-- Putting a text at every landmark is a sequence of changes that cut into the landmark. -/
theorem Landmark.Definite.reaches_insertAtEach {landmark : Landmark}
    (definite : landmark.Definite) {change : Change} {inserted : Text}
    (cuts : change.cut = landmark.pattern)
    (brings : change.brought = .literal inserted :: landmark.tail) (text : Text) :
    Change.Reaches [change] text (landmark.insertAtEach inserted text) :=
  definite.reaches_insertAtEach_near [] landmark.head rfl cuts brings text

end ScreenRetrofit
