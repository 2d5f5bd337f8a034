import ScreenRetrofit.Proofs.Pattern.Occurrence

/-!
# Replacements made at once

A replacement gives a stretch of a text, which may be empty, for a new text. Its places are bytes of
the text as it was, so replacements that are made at once do not see each other. A text put at every
landmark is a set of such replacements (`Landmark.Definite.makes_insertAtEach`).
-/

namespace ScreenRetrofit

open Text (utf8Length)

/-- A new text for what stands between two places of a text, in bytes from its start. -/
structure Replacement where
  /-- Where the old text starts. -/
  start : Nat
  /-- Where the old text ends. -/
  stop : Nat
  /-- The new text. -/
  new : Text
  deriving DecidableEq, Repr

namespace Replacement

/-- What becomes of a text from a place on when replacements are made there in order. What is kept
is cut from the text as it was. -/
def madeFrom (text : Text) (place : Nat) : List Replacement → Text
  | [] => Text.dropBytes place text
  | first :: others =>
    Text.stretch place (first.start - place) text ++ first.new ++ madeFrom text first.stop others

/-- What becomes of a text when replacements are made at once. -/
def made (replacements : List Replacement) (text : Text) : Text := madeFrom text 0 replacements

/-- The first of two replacements is over before the second, at another place, starts. -/
def Before (first second : Replacement) : Prop :=
  first.start < second.start ∧ first.stop ≤ second.start

/-- Replacements make one text from another that so many bytes stand in front of: they are met in
order, each behind the end of the one before. -/
inductive Makes : Nat → Text → List Replacement → Text → Prop where
  /-- Without a replacement everything is kept. -/
  | keep (offset : Nat) (text : Text) : Makes offset text [] text
  /-- A replacement behind what is kept, and the replacements behind it. -/
  | replace {offset : Nat} {kept old rest result : Text} {first : Replacement}
      {others : List Replacement} (start : first.start = offset + utf8Length kept)
      (stop : first.stop = first.start + utf8Length old)
      (later : Makes first.stop rest others result) :
      Makes offset (kept ++ old ++ rest) (first :: others) (kept ++ first.new ++ result)

namespace Makes

variable {offset : Nat} {text result : Text} {replacements others : List Replacement}

/-- Replacements in the end of a text are replacements in the text. -/
theorem append_left {front : Text}
    (makes : Makes (offset + utf8Length front) text replacements result) :
    Makes offset (front ++ text) replacements (front ++ result) := by
  cases makes with
  | keep => exact .keep offset _
  | @replace _ kept _ _ _ _ _ start stop later =>
    have start' := start.trans (Nat.add_assoc offset _ _)
    rw [← Text.utf8Length_append] at start'
    simpa using Makes.replace start' stop later

/-- Replacements in one text, and then in another, are replacements in both together. -/
theorem append {text' result' : Text} (makes : Makes offset text replacements result)
    (later : Makes (offset + utf8Length text) text' others result') :
    Makes offset (text ++ text') (replacements ++ others) (result ++ result') := by
  induction makes with
  | keep => exact later.append_left
  | @replace offset kept old rest result first others' start stop _ ih =>
    have size : offset + utf8Length (kept ++ old ++ rest) = first.stop + utf8Length rest := by
      simp only [stop, start, Text.utf8Length_append]
      omega
    simpa using Makes.replace start stop (ih (size ▸ later))

/-- Replacements that make a text from another make it at once. -/
theorem madeFrom_eq {front : Text} (makes : Makes (utf8Length front) text replacements result) :
    madeFrom (front ++ text) (utf8Length front) replacements = result := by
  generalize size : utf8Length front = offset at makes
  induction makes generalizing front with
  | keep => rw [madeFrom, ← size, Text.dropBytes_append]
  | @replace offset kept old rest result first others start stop _ ih =>
    subst size
    have between : first.start - utf8Length front = utf8Length kept := by
      rw [start]
      omega
    have behind : utf8Length (front ++ kept ++ old) = first.stop := by
      rw [stop, start, Text.utf8Length_append, Text.utf8Length_append]
    have cut := Text.stretch_append front kept (old ++ rest)
    have later := ih behind
    simp only [List.append_assoc] at cut later
    simp only [madeFrom, between, cut, List.append_assoc, later]

/-- Replacements that make a text from another make it at once. -/
theorem made_eq (makes : Makes 0 text replacements result) : made replacements text = result := by
  have start : Makes (utf8Length []) text replacements result := makes
  exact start.madeFrom_eq

end Makes

/-- A text put at the place of a landmark, where nothing is taken away. -/
def insertion (inserted : Text) (span : Landmark.Span) : Replacement :=
  ⟨span.place, span.place, inserted⟩

/-- A new text for that of a landmark. -/
def exchange (new : Text) (span : Landmark.Span) : Replacement := ⟨span.start, span.stop, new⟩

end Replacement

namespace Landmark

open Replacement (Makes Before made)

variable {landmark : Landmark} {other : Pattern} {replacement : Replacement}
  {others : List Replacement} {text inserted result : Text} {cut : Cut} {offset : Nat}

/-- The insertions of a text at every landmark of another text that so many bytes stand in front
of. -/
def insertionsFrom (landmark : Landmark) (inserted : Text) (offset : Nat) (text : Text) :
    List Replacement :=
  (spansFrom offset (landmark.segments text).1).map (.insertion inserted)

/-- Nothing is put into a text without the landmark. -/
theorem insertionsFrom_of_find?_eq_none (missing : landmark.find? text = none) (inserted : Text)
    (offset : Nat) : landmark.insertionsFrom inserted offset text = [] := by
  rw [insertionsFrom, Definite.spansFrom_of_find?_eq_none missing, List.map_nil]

namespace Definite

/-- A text put at every landmark is put at all of them at once. -/
theorem makes_insertAtEach (definite : landmark.Definite) (inserted : Text) (offset : Nat)
    (text : Text) : Makes offset text (landmark.insertionsFrom inserted offset text)
      (landmark.insertAtEach inserted text) := by
  induction text using definite.scan generalizing offset with
  | missing text missing =>
    rw [insertionsFrom_of_find?_eq_none missing, insertAtEach_of_find?_eq_none missing]
    exact .keep offset text
  | found text cut search ih =>
    have behind : offset + utf8Length (cut.before ++ cut.found) =
        offset + utf8Length (cut.before ++ cut.head) + utf8Length cut.tail := by
      simp [Cut.found, Nat.add_assoc]
    have later := ih (offset + utf8Length (cut.before ++ cut.found))
    rw [behind] at later
    have place : (Replacement.insertion inserted (cut.span.shift offset)).start =
      offset + utf8Length (cut.before ++ cut.head) := rfl
    have first : Makes offset (cut.before ++ cut.head ++ [] ++ (cut.tail ++ cut.after)) _ _ :=
      .replace place rfl later.append_left
    rw [insertionsFrom, definite.spansFrom_of_find?_eq_some search,
      definite.insertAtEach_of_find?_eq_some search, ← whole_of_find? search, behind]
    simpa [Cut.whole, Replacement.insertion, insertionsFrom] using first

/-- The insertions at every landmark are those where it stands. -/
theorem mem_insertionsFrom_iff (definite : landmark.Definite) (closed : landmark.pattern.Closed) :
    replacement ∈ landmark.insertionsFrom inserted offset text ↔
      ∃ span, landmark.StandsAt text span ∧
        replacement = .insertion inserted (span.shift offset) := by
  simp only [insertionsFrom, List.mem_map, definite.mem_spansFrom_iff closed]
  constructor
  · rintro ⟨_, ⟨span, stands, rfl⟩, rfl⟩
    exact ⟨span, stands, rfl⟩
  · rintro ⟨span, stands, rfl⟩
    exact ⟨_, ⟨span, stands, rfl⟩, rfl⟩

/-- Around a text of a pattern apart from the landmark there are the insertions before it and those
behind it. -/
theorem insertionsFrom_around (definite : landmark.Definite) (closed : landmark.pattern.Closed)
    (apart : landmark.pattern.Apart other) (blocked : other.Accepts cut.found)
    (inserted : Text) (offset : Nat) :
    landmark.insertionsFrom inserted offset cut.whole =
      landmark.insertionsFrom inserted offset cut.before ++
        landmark.insertionsFrom inserted (offset + cut.span.stop) cut.after := by
  rw [cut.whole_eq, insertionsFrom, definite.spansFrom_around closed apart blocked,
    List.map_append]
  rfl

/-- A text put at every landmark leaves a text of a pattern apart from it as it is. -/
theorem insertAtEach_around (definite : landmark.Definite) (closed : landmark.pattern.Closed)
    (apart : landmark.pattern.Apart other) (blocked : other.Accepts cut.found) (inserted : Text) :
    landmark.insertAtEach inserted cut.whole =
      landmark.insertAtEach inserted cut.before ++ cut.found ++
        landmark.insertAtEach inserted cut.after := by
  have whole := definite.makes_insertAtEach inserted 0 cut.whole
  have front := (definite.makes_insertAtEach inserted 0 cut.before).append (.keep _ cut.found)
  have parts := front.append (definite.makes_insertAtEach inserted (0 + cut.span.stop) cut.after)
  rw [List.append_nil, ← definite.insertionsFrom_around closed apart blocked, ← cut.whole_eq]
    at parts
  rw [← whole.made_eq, parts.made_eq]

/-- Insertions in front of an exchange, the exchange, and what is made behind it. -/
theorem makes_exchange (definite : landmark.Definite) (inserted new : Text)
    (later : Makes (offset + cut.span.stop) cut.after others result) :
    Makes offset cut.whole (landmark.insertionsFrom inserted offset cut.before ++
      .exchange new (cut.span.shift offset) :: others)
      (landmark.insertAtEach inserted cut.before ++ new ++ result) := by
  have stop : offset + cut.span.stop =
      offset + utf8Length cut.before + utf8Length cut.found := by
    simp [Cut.span, Nat.add_assoc]
  have front := definite.makes_insertAtEach inserted offset cut.before
  have first : Makes (offset + utf8Length cut.before) ([] ++ cut.found ++ cut.after)
      (.exchange new (cut.span.shift offset) :: others) ([] ++ new ++ result) :=
    .replace rfl stop later
  have both := front.append first
  simpa [cut.whole_eq] using both

variable (definite : landmark.Definite) (closed : landmark.pattern.Closed)
  (heads : landmark.head.isSolid = true) (tails : landmark.tail.isSolid = true)
include definite closed heads tails

/-- Insertions at a landmark with text on both sides are made inside the text. -/
theorem inside_of_mem_insertionsFrom
    (member : replacement ∈ landmark.insertionsFrom inserted offset text) :
    offset < replacement.start ∧ replacement.stop = replacement.start ∧
      replacement.start < offset + utf8Length text := by
  obtain ⟨span, stands, rfl⟩ := (definite.mem_insertionsFrom_iff closed).mp member
  have head := stands.start_lt_place heads
  have tail := stands.place_lt_stop tails
  have size := stands.stop_le
  simp only [Replacement.insertion, Span.shift, true_and]
  omega

/-- Insertions at a landmark with text on both sides are made at places of their own, in order. -/
theorem pairwise_insertionsFrom (inserted : Text) (offset : Nat) (text : Text) :
    (landmark.insertionsFrom inserted offset text).Pairwise Before := by
  refine List.pairwise_map.mpr ((pairwise_spansFrom offset _).imp_of_mem ?_)
  intro first second member member' apart
  obtain ⟨span, stands, rfl⟩ := (definite.mem_spansFrom_iff closed offset text _).mp member
  obtain ⟨span', stands', rfl⟩ := (definite.mem_spansFrom_iff closed offset text _).mp member'
  have tail := stands.place_lt_stop tails
  have head := stands'.start_lt_place heads
  simp only [Span.shift, Before, Replacement.insertion] at apart ⊢
  omega

/-- Insertions in front of an exchange, the exchange, and what is made behind it, are in order. -/
theorem pairwise_exchange {new : Text} (full : cut.found ≠ [])
    (behind : ∀ later ∈ others, offset + cut.span.stop ≤ later.start)
    (ordered : others.Pairwise Before) :
    (landmark.insertionsFrom inserted offset cut.before ++
      .exchange new (cut.span.shift offset) :: others).Pairwise Before := by
  have size := Text.utf8Length_pos full
  simp only [Cut.span, Text.utf8Length_append] at behind
  refine List.pairwise_append.mpr
    ⟨definite.pairwise_insertionsFrom closed heads tails inserted offset cut.before,
      .cons (fun later member => ?_) ordered, fun first member later member' => ?_⟩
  · have start := behind later member
    simp only [Before, Replacement.exchange, Span.shift, Cut.span, Text.utf8Length_append]
    omega
  · have inside := definite.inside_of_mem_insertionsFrom closed heads tails member
    rcases List.mem_cons.mp member' with rfl | further
    · simp only [Before, Replacement.exchange, Span.shift, Cut.span]
      omega
    · have start := behind later further
      simp only [Before]
      omega

end Definite

end Landmark

end ScreenRetrofit
