import ScreenRetrofit.Text.Basic
import ScreenRetrofit.Text.Blank

/-!
# Patterns

A pattern is a list of pieces: fixed texts and runs of characters of one class. A reader takes a
pattern from the front of a text; each run takes every character of its class that stands there.
`Accepts` says which texts a pattern describes without saying how they are found. A reader takes
only described texts and leaves the rest untouched (`take?_append`, `accepts_of_take?`).

A pattern is *delimited* when every run is followed by a fixed text whose first character is
outside the class of the run. There a run can stop in one place only, so the reader finds every
described text that the input starts with (`take?_eq_some_iff`).
-/

namespace ScreenRetrofit

/-- A class of characters. -/
inductive CharClass where
  /-- The characters of the Unicode property `White_Space`. -/
  | blank
  /-- Every character but one. -/
  | except (stop : Char)
  deriving DecidableEq, Repr

namespace CharClass

/-- Whether a character belongs to a class. -/
def has : CharClass → Char → Bool
  | blank, c => Text.isBlank c
  | except stop, c => c != stop

end CharClass

/-- One piece of a pattern. -/
inductive Piece where
  /-- A fixed text. -/
  | literal (text : Text)
  /-- One or more characters of a class. -/
  | some (chars : CharClass)
  /-- Any number of characters of a class. -/
  | many (chars : CharClass)
  deriving DecidableEq, Repr

namespace Piece

/-- The texts that a piece describes. -/
def Accepts : Piece → Text → Prop
  | literal expected, text => text = expected
  | some chars, text => text ≠ [] ∧ ∀ c ∈ text, chars.has c = true
  | many chars, text => ∀ c ∈ text, chars.has c = true

/-- Take a piece from the front of a text: the part taken and the rest. -/
def take? : Piece → Text → Option (Text × Text)
  | literal expected, text => (Text.after? expected text).map (expected, ·)
  | some chars, text =>
    let run := text.takeWhile chars.has
    if run.isEmpty then none else .some (run, text.dropWhile chars.has)
  | many chars, text => .some (text.takeWhile chars.has, text.dropWhile chars.has)

/-- What is taken and what is left make up the text. -/
theorem take?_append {piece : Piece} {text taken rest : Text}
    (read : piece.take? text = .some (taken, rest)) : taken ++ rest = text := by
  cases piece with
  | literal expected =>
    simp only [take?, Option.map_eq_some_iff, Prod.mk.injEq] at read
    obtain ⟨_, found, rfl, rfl⟩ := read
    exact (Text.after?_eq_some_iff.mp found).symm
  | some chars =>
    simp only [take?] at read
    split at read
    · contradiction
    · simp only [Option.some.injEq, Prod.mk.injEq] at read
      obtain ⟨rfl, rfl⟩ := read
      exact List.takeWhile_append_dropWhile
  | many chars =>
    simp only [take?, Option.some.injEq, Prod.mk.injEq] at read
    obtain ⟨rfl, rfl⟩ := read
    exact List.takeWhile_append_dropWhile

/-- What is taken is described by the piece. -/
theorem accepts_of_take? {piece : Piece} {text taken rest : Text}
    (read : piece.take? text = .some (taken, rest)) : piece.Accepts taken := by
  have inClass (chars : CharClass) : ∀ c ∈ text.takeWhile chars.has, chars.has c = true :=
    List.all_eq_true.mp List.all_takeWhile
  cases piece with
  | literal expected =>
    simp only [take?, Option.map_eq_some_iff, Prod.mk.injEq] at read
    obtain ⟨_, _, rfl, _⟩ := read
    rfl
  | some chars =>
    simp only [take?] at read
    split at read
    · contradiction
    · rename_i full
      simp only [Option.some.injEq, Prod.mk.injEq] at read
      obtain ⟨rfl, rfl⟩ := read
      exact ⟨by simpa using full, inClass chars⟩
  | many chars =>
    simp only [take?, Option.some.injEq, Prod.mk.injEq] at read
    obtain ⟨rfl, rfl⟩ := read
    exact inClass chars

end Piece

/-- Pieces in order. -/
abbrev Pattern := List Piece

namespace Pattern

/-- The texts that a pattern describes: one text of each piece, in order. -/
def Accepts : Pattern → Text → Prop
  | [], text => text = []
  | piece :: pieces, text =>
    ∃ first rest, text = first ++ rest ∧ piece.Accepts first ∧ Accepts pieces rest

/-- Take a pattern from the front of a text: the part taken and the rest. -/
def take? : Pattern → Text → Option (Text × Text)
  | [], text => some ([], text)
  | piece :: pieces, text => do
    let (first, middle) ← piece.take? text
    let (others, rest) ← take? pieces middle
    some (first ++ others, rest)

/-- A pattern with a first piece is taken by taking that piece and then the others. -/
theorem take?_cons_eq_some_iff {piece : Piece} {pieces : Pattern} {text taken rest : Text} :
    take? (piece :: pieces) text = some (taken, rest) ↔
      ∃ first middle others, piece.take? text = some (first, middle) ∧
        take? pieces middle = some (others, rest) ∧ taken = first ++ others := by
  constructor
  · intro read
    simp only [take?, Option.bind_eq_bind, Option.bind_eq_some_iff, Prod.exists,
      Option.some.injEq, Prod.mk.injEq] at read
    obtain ⟨first, middle, head, others, _, tail, rfl, rfl⟩ := read
    exact ⟨first, middle, others, head, tail, rfl⟩
  · rintro ⟨first, middle, others, head, tail, rfl⟩
    simp [take?, head, tail]

/-- What is taken and what is left make up the text. -/
theorem take?_append {pattern : Pattern} {text taken rest : Text}
    (read : pattern.take? text = some (taken, rest)) : taken ++ rest = text := by
  induction pattern generalizing text taken with
  | nil =>
    simp only [take?, Option.some.injEq, Prod.mk.injEq] at read
    obtain ⟨rfl, rfl⟩ := read
    rfl
  | cons piece pieces ih =>
    obtain ⟨first, middle, others, head, tail, rfl⟩ := take?_cons_eq_some_iff.mp read
    rw [List.append_assoc, ih tail, Piece.take?_append head]

/-- What is taken is described by the pattern. -/
theorem accepts_of_take? {pattern : Pattern} {text taken rest : Text}
    (read : pattern.take? text = some (taken, rest)) : pattern.Accepts taken := by
  induction pattern generalizing text taken with
  | nil =>
    simp only [take?, Option.some.injEq, Prod.mk.injEq] at read
    exact read.1.symm
  | cons piece pieces ih =>
    obtain ⟨first, middle, others, head, tail, rfl⟩ := take?_cons_eq_some_iff.mp read
    exact ⟨first, others, rfl, Piece.accepts_of_take? head, ih tail⟩

/-- Whether every run is followed by a fixed text that starts outside its class. -/
def isDelimited : Pattern → Bool
  | [] => true
  | .literal _ :: pieces => isDelimited pieces
  | .some chars :: pieces => stops chars pieces && isDelimited pieces
  | .many chars :: pieces => stops chars pieces && isDelimited pieces
where
  /-- Whether the next piece is a fixed text that starts outside a class. -/
  stops (chars : CharClass) : Pattern → Bool
    | .literal (c :: _) :: _ => !chars.has c
    | _ => false

/-- A text that a stopping pattern describes starts outside the class. -/
theorem starts_outside {chars : CharClass} {pattern : Pattern} {text : Text}
    (stop : isDelimited.stops chars pattern = true) (described : pattern.Accepts text) :
    ∃ c rest, text = c :: rest ∧ chars.has c = false := by
  cases pattern with
  | nil => simp [isDelimited.stops] at stop
  | cons piece pieces =>
    cases piece with
    | some => simp [isDelimited.stops] at stop
    | many => simp [isDelimited.stops] at stop
    | literal expected =>
      cases expected with
      | nil => simp [isDelimited.stops] at stop
      | cons c expected =>
        obtain ⟨_, rest, rfl, rfl, _⟩ := described
        exact ⟨c, expected ++ rest, rfl, by simpa [isDelimited.stops] using stop⟩

/-- A run in front of a character outside its class is taken whole and alone. -/
theorem span_run {chars : CharClass} {run rest : Text} {c : Char}
    (inside : ∀ c ∈ run, chars.has c = true) (outside : chars.has c = false) :
    (run ++ c :: rest).takeWhile chars.has = run ∧
      (run ++ c :: rest).dropWhile chars.has = c :: rest := by
  rw [List.takeWhile_append_of_pos inside, List.dropWhile_append_of_pos inside]
  simp [outside]

/-- In a delimited pattern a reader finds whatever described text the input starts with. -/
theorem take?_of_accepts {pattern : Pattern} {taken rest : Text}
    (delimited : pattern.isDelimited = true) (described : pattern.Accepts taken) :
    pattern.take? (taken ++ rest) = some (taken, rest) := by
  induction pattern generalizing taken with
  | nil =>
    obtain rfl : taken = [] := described
    rfl
  | cons piece pieces ih =>
    obtain ⟨first, others, rfl, head, tail⟩ := described
    refine take?_cons_eq_some_iff.mpr ⟨first, others ++ rest, others, ?_, ?_, rfl⟩
    · rw [List.append_assoc]
      cases piece with
      | literal expected =>
        obtain rfl : first = expected := head
        have found : Text.after? first (first ++ (others ++ rest)) = .some (others ++ rest) :=
          Text.after?_eq_some_iff.mpr rfl
        simp [Piece.take?, found]
      | some chars =>
        simp only [isDelimited, Bool.and_eq_true] at delimited
        obtain ⟨c, more, rfl, outside⟩ := starts_outside delimited.1 tail
        have ⟨taken, left⟩ := @span_run chars first (more ++ rest) c head.2 outside
        simp only [List.cons_append, Piece.take?, taken, left]
        simp [head.1]
      | many chars =>
        simp only [isDelimited, Bool.and_eq_true] at delimited
        obtain ⟨c, more, rfl, outside⟩ := starts_outside delimited.1 tail
        have ⟨taken, left⟩ := @span_run chars first (more ++ rest) c head outside
        simp only [List.cons_append, Piece.take?, taken, left]
    · refine ih ?_ tail
      cases piece <;> simp_all [isDelimited]

/-- A delimited pattern is taken exactly where one of its texts stands. -/
theorem take?_eq_some_iff {pattern : Pattern} {text taken rest : Text}
    (delimited : pattern.isDelimited = true) :
    pattern.take? text = some (taken, rest) ↔ text = taken ++ rest ∧ pattern.Accepts taken :=
  ⟨fun read => ⟨(take?_append read).symm, accepts_of_take? read⟩,
    fun ⟨cut, described⟩ => cut ▸ take?_of_accepts delimited described⟩

end Pattern

end ScreenRetrofit
