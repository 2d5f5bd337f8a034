import ScreenRetrofit.Text.Basic

/-!
# Texts as bytes

A text is kept as the bytes of its UTF-8 form, and is cut at byte offsets. A cut is refused when an
offset lies behind the end of the bytes or inside a character, or when the ends of a range are out
of order; nothing else is refused (`slice_bytes`, `putIn_bytes`, `replaceRange_bytes`). The bytes of
a text that is not empty stand in the bytes of another only where the text itself stands
(`exists_of_bytes_eq`), so what is found in the bytes is found between characters.
-/

namespace ScreenRetrofit

/-- A sequence of bytes. -/
abbrev Bytes := List UInt8

namespace Text

/-- The UTF-8 form of a text. -/
def bytes (text : Text) : Bytes := text.flatMap String.utf8EncodeChar

/-- The UTF-8 form is that of the string of the same characters. -/
theorem toByteArray_bytes (text : Text) :
    (bytes text).toByteArray = (String.ofList text).toByteArray :=
  String.toByteArray_ofList.symm

/-- The empty text has no bytes. -/
@[simp] theorem bytes_nil : bytes [] = [] := rfl

/-- The bytes of a text start with those of its first character. -/
theorem bytes_cons (c : Char) (text : Text) :
    bytes (c :: text) = String.utf8EncodeChar c ++ bytes text := List.flatMap_cons

/-- The bytes of a concatenation are those of its parts. -/
@[simp] theorem bytes_append (left right : Text) :
    bytes (left ++ right) = bytes left ++ bytes right := List.flatMap_append

/-- The number of bytes is the size of the text. -/
@[simp] theorem length_bytes (text : Text) : (bytes text).length = utf8Length text := by
  induction text with
  | nil => rfl
  | cons c text ih =>
    rw [bytes_cons, List.length_append, ih, String.length_utf8EncodeChar, utf8Length]

/-- A character is known from the bytes that start with its own. -/
theorem eq_of_utf8EncodeChar_append {c d : Char} {rest rest' : Bytes}
    (same : String.utf8EncodeChar c ++ rest = String.utf8EncodeChar d ++ rest') : c = d := by
  have first := ByteArray.utf8DecodeChar?_utf8EncodeChar_append (b := rest.toByteArray) (c := c)
  have second := ByteArray.utf8DecodeChar?_utf8EncodeChar_append (b := rest'.toByteArray) (c := d)
  rw [← List.toByteArray_append] at first second
  rw [same, second] at first
  exact (Option.some.inj first).symm

/-- Bytes that start with those of a text are the bytes of a text that starts with it. -/
theorem exists_of_bytes_eq_append {text part : Text} {back : Bytes}
    (same : bytes text = bytes part ++ back) :
    ∃ after, text = part ++ after ∧ bytes after = back := by
  induction part generalizing text with
  | nil => exact ⟨text, rfl, same⟩
  | cons c part ih =>
    rw [bytes_cons, List.append_assoc] at same
    cases text with
    | nil => simp at same
    | cons d text =>
      rw [bytes_cons] at same
      obtain rfl := eq_of_utf8EncodeChar_append same
      obtain ⟨after, rfl, rest⟩ := ih (List.append_cancel_left same)
      exact ⟨after, rfl, rest⟩

end Text

namespace Bytes

/-- Whether bytes may be cut at an offset: a character starts there, or it is their end. -/
def isBoundary (bytes : Bytes) (offset : Nat) : Bool :=
  match bytes[offset]? with
  | some byte => decide byte.IsUTF8FirstByte
  | none => offset == bytes.length

/-- The end of bytes is a boundary. -/
theorem isBoundary_length (bytes : Bytes) : bytes.isBoundary bytes.length = true := by
  simp [isBoundary]

/-- Bytes may be cut where those of a character start. -/
theorem isBoundary_utf8EncodeChar (front back : Bytes) (c : Char) :
    isBoundary (front ++ (String.utf8EncodeChar c ++ back)) front.length = true := by
  have some : 0 < (String.utf8EncodeChar c).length :=
    List.length_pos_iff.mpr String.utf8EncodeChar_ne_nil
  rw [isBoundary, List.getElem?_append_right (Nat.le_refl _), Nat.sub_self,
    List.getElem?_append_left some, List.getElem?_eq_getElem some]
  exact decide_eq_true UInt8.isUTF8FirstByte_getElem_zero_utf8EncodeChar

/-- A cut is not allowed inside the bytes of a character. -/
theorem isBoundary_inside {c : Char} {offset : Nat} (back : Bytes) (positive : 0 < offset)
    (inside : offset < c.utf8Size) :
    isBoundary (String.utf8EncodeChar c ++ back) offset = false := by
  have bound : offset < (String.utf8EncodeChar c).length := by
    rwa [String.length_utf8EncodeChar]
  rw [isBoundary, List.getElem?_append_left bound, List.getElem?_eq_getElem bound]
  refine decide_eq_false fun first => ?_
  have start := UInt8.isUTF8FirstByte_getElem_utf8EncodeChar.mp first
  omega

/-- Behind a front bytes may be cut where what stands there may be. -/
theorem isBoundary_append (front back : Bytes) (offset : Nat) :
    isBoundary (front ++ back) (front.length + offset) = back.isBoundary offset := by
  rw [isBoundary, isBoundary, List.getElem?_append_right (Nat.le_add_right _ _),
    Nat.add_sub_cancel_left]
  cases back[offset]? with
  | some byte => rfl
  | none =>
    rw [Bool.eq_iff_iff, beq_iff_eq, beq_iff_eq, List.length_append, Nat.add_left_cancel_iff]

/-- The bytes of a text may be cut exactly where the text may be. -/
theorem isBoundary_iff {text : Text} {offset : Nat} : isBoundary (Text.bytes text) offset = true ↔
    ∃ front rest, text = front ++ rest ∧ Text.utf8Length front = offset := by
  constructor
  · intro boundary
    induction text generalizing offset with
    | nil =>
      have ended : offset = 0 := by simpa [isBoundary] using boundary
      exact ⟨[], [], rfl, ended.symm⟩
    | cons c text ih =>
      rw [Text.bytes_cons] at boundary
      rcases Nat.eq_zero_or_pos offset with rfl | positive
      · exact ⟨[], c :: text, rfl, rfl⟩
      · rcases Nat.lt_or_ge offset c.utf8Size with inside | behind
        · rw [isBoundary_inside _ positive inside] at boundary
          contradiction
        · obtain ⟨further, rfl⟩ := Nat.exists_eq_add_of_le behind
          rw [← String.length_utf8EncodeChar, isBoundary_append] at boundary
          obtain ⟨front, rest, rfl, rfl⟩ := ih boundary
          exact ⟨c :: front, rest, rfl, rfl⟩
  · rintro ⟨front, rest, rfl, rfl⟩
    rw [Text.bytes_append, ← Text.length_bytes]
    cases rest with
    | nil =>
      rw [Text.bytes_nil, List.append_nil]
      exact isBoundary_length _
    | cons c rest =>
      rw [Text.bytes_cons]
      exact isBoundary_utf8EncodeChar _ _ c

/-- Two offsets between which bytes may be cut out: in order, inside the bytes, and boundaries. -/
structure IsRange (bytes : Bytes) (start stop : Nat) : Prop where
  /-- They are in order. -/
  ordered : start ≤ stop
  /-- They lie inside the bytes. -/
  inside : stop ≤ bytes.length
  /-- The first is a boundary. -/
  starts : bytes.isBoundary start = true
  /-- The second is a boundary. -/
  stops : bytes.isBoundary stop = true

/-- Whether two offsets are a range can be computed. -/
instance (bytes : Bytes) (start stop : Nat) : Decidable (bytes.IsRange start stop) :=
  decidable_of_iff (start ≤ stop ∧ stop ≤ bytes.length ∧ bytes.isBoundary start = true ∧
    bytes.isBoundary stop = true)
    ⟨fun ⟨ordered, inside, first, last⟩ => ⟨ordered, inside, first, last⟩,
      fun range => ⟨range.ordered, range.inside, range.starts, range.stops⟩⟩

/-- Around a part of a text there is a range of its bytes. -/
theorem isRange_around (front middle rest : Text) :
    IsRange (Text.bytes (front ++ middle ++ rest)) (Text.utf8Length front)
      (Text.utf8Length (front ++ middle)) where
  ordered := by simp
  inside := by simp
  starts := isBoundary_iff.mpr ⟨front, middle ++ rest, List.append_assoc .., rfl⟩
  stops := isBoundary_iff.mpr ⟨front ++ middle, rest, rfl, rfl⟩

/-- Bytes can be cut in two at an offset. -/
def CutsAt (bytes : Bytes) (offset : Nat) : Prop :=
  bytes.IsRange 0 offset ∧ bytes.IsRange offset bytes.length

/-- Between the two parts of a text its bytes can be cut. -/
theorem cutsAt (front rest : Text) :
    CutsAt (Text.bytes (front ++ rest)) (Text.utf8Length front) := by
  have behind := isRange_around front rest []
  rw [List.append_nil, ← Text.length_bytes (front ++ rest)] at behind
  exact ⟨isRange_around [] front rest, behind⟩

/-- From one offset to a later one is a range when bytes can be cut at both. -/
theorem CutsAt.isRange {bytes : Bytes} {start stop : Nat} (first : bytes.CutsAt start)
    (second : bytes.CutsAt stop) (ordered : start ≤ stop) : bytes.IsRange start stop :=
  ⟨ordered, second.1.inside, first.1.stops, second.1.stops⟩

/-- Of offsets in order that bytes can be cut at any two are a range, also with the start and the
end of the bytes among them. -/
theorem pairwise_isRange {text : Text} {places : List Nat} (ordered : places.Pairwise (· < ·))
    (cuts : ∀ place ∈ places, (Text.bytes text).CutsAt place) :
    (0 :: places ++ [(Text.bytes text).length]).Pairwise (Text.bytes text).IsRange := by
  have start : (Text.bytes text).CutsAt 0 := cutsAt [] text
  have stop : (Text.bytes text).CutsAt (Text.bytes text).length := by
    simpa using cutsAt text []
  have all : ∀ place ∈ 0 :: places ++ [(Text.bytes text).length],
      (Text.bytes text).CutsAt place := by
    intro place member
    simp only [List.cons_append, List.mem_cons, List.mem_append, List.not_mem_nil,
      or_false] at member
    rcases member with rfl | inside | rfl
    · exact start
    · exact cuts place inside
    · exact stop
  have sorted : (0 :: places ++ [(Text.bytes text).length]).Pairwise (· ≤ ·) := by
    rw [List.cons_append, List.pairwise_cons, List.pairwise_append]
    refine ⟨fun _ _ => Nat.zero_le _, ordered.imp Nat.le_of_lt, List.pairwise_singleton _ _, ?_⟩
    intro place member _ last
    rw [List.mem_singleton.mp last]
    exact (cuts place member).1.inside
  exact sorted.imp_of_mem fun first second => (all _ first).isRange (all _ second)

end Bytes

/-- Two offsets that bytes cannot be cut at. -/
structure BadRange where
  /-- Where the part was to start. -/
  start : Nat
  /-- Where the part was to end. -/
  stop : Nat
  deriving DecidableEq, Repr

/-- What is not refused is handed on. -/
theorem BadRange.ok_bind {α β : Type} (value : α) (next : α → Except BadRange β) :
    (Except.ok value >>= next) = next value := rfl

namespace Bytes

/-- The part of bytes between two offsets. -/
def slice (bytes : Bytes) (start stop : Nat) : Except BadRange Bytes :=
  if bytes.IsRange start stop then .ok ((bytes.take stop).drop start) else .error ⟨start, stop⟩

/-- Bytes with new ones put in at an offset. -/
def putIn (bytes : Bytes) (offset : Nat) (new : Bytes) : Except BadRange Bytes := do
  let front ← bytes.slice 0 offset
  let back ← bytes.slice offset bytes.length
  return front ++ new ++ back

/-- Bytes with a new part for that between two offsets. -/
def replaceRange (bytes : Bytes) (start stop : Nat) (new : Bytes) : Except BadRange Bytes :=
  if bytes.IsRange start stop then .ok (bytes.take start ++ new ++ bytes.drop stop)
  else .error ⟨start, stop⟩

/-- Whether a needle stands somewhere in bytes. -/
def contains (bytes needle : Bytes) : Bool :=
  match bytes with
  | [] => needle.isEmpty
  | first :: rest => needle.isPrefixOf (first :: rest) || contains rest needle

/-- A needle stands in bytes when they can be parted around it. -/
theorem contains_iff {bytes needle : Bytes} :
    bytes.contains needle = true ↔ needle <:+: bytes := by
  induction bytes with
  | nil => simp [contains]
  | cons first rest ih => simp [contains, ih, List.infix_cons_iff]

/-- Between the offsets around a part of a text stand the bytes of that part. -/
theorem slice_bytes (front middle rest : Text) :
    slice (Text.bytes (front ++ middle ++ rest)) (Text.utf8Length front)
      (Text.utf8Length (front ++ middle)) = .ok (Text.bytes middle) := by
  rw [slice, if_pos (isRange_around front middle rest), Text.bytes_append (front ++ middle),
    List.take_left' (Text.length_bytes _), Text.bytes_append, List.drop_left' (Text.length_bytes _)]

example : (Text.bytes ['Á']).slice 0 1 = .error ⟨0, 1⟩ := rfl

/-- Behind a front stand the bytes of the rest. -/
theorem slice_behind (front rest : Text) :
    slice (Text.bytes (front ++ rest)) (Text.utf8Length front) (Text.bytes (front ++ rest)).length =
      .ok (Text.bytes rest) := by
  have behind := slice_bytes front rest []
  rwa [List.append_nil, ← Text.length_bytes (front ++ rest)] at behind

/-- New bytes between two parts of a text stand between the bytes of both. -/
theorem putIn_bytes (front rest new : Text) :
    putIn (Text.bytes (front ++ rest)) (Text.utf8Length front) (Text.bytes new) =
      .ok (Text.bytes (front ++ new ++ rest)) := by
  have before : slice (Text.bytes (front ++ rest)) 0 (Text.utf8Length front) =
      .ok (Text.bytes front) := slice_bytes [] front rest
  rw [putIn, before, slice_behind, Text.bytes_append, Text.bytes_append]
  rfl

/-- A new part for that of a text between two others stands between the same. -/
theorem replaceRange_bytes (front middle rest new : Text) :
    replaceRange (Text.bytes (front ++ middle ++ rest)) (Text.utf8Length front)
      (Text.utf8Length (front ++ middle)) (Text.bytes new) =
        .ok (Text.bytes (front ++ new ++ rest)) := by
  have behind : (Text.bytes (front ++ middle ++ rest)).drop (Text.utf8Length (front ++ middle)) =
      Text.bytes rest := by
    rw [Text.bytes_append (front ++ middle), List.drop_left' (Text.length_bytes _)]
  have before : (Text.bytes (front ++ middle ++ rest)).take (Text.utf8Length front) =
      Text.bytes front := by
    rw [List.append_assoc, Text.bytes_append, List.take_left' (Text.length_bytes _)]
  rw [replaceRange, if_pos (isRange_around front middle rest), before, behind, Text.bytes_append,
    Text.bytes_append]

end Bytes

namespace Text

/-- The bytes of a text that is not empty stand in those of another only where the text stands. -/
theorem exists_of_bytes_eq {text part : Text} {front back : Bytes} (full : part ≠ [])
    (same : bytes text = front ++ bytes part ++ back) :
    ∃ before after, text = before ++ part ++ after ∧ bytes before = front ∧ bytes after = back := by
  -- Where the first character of the part starts the text can be cut.
  have boundary : Bytes.isBoundary (bytes text) front.length = true := by
    obtain ⟨c, rest, rfl⟩ := List.exists_cons_of_ne_nil full
    rw [same, bytes_cons, List.append_assoc, List.append_assoc]
    exact Bytes.isBoundary_utf8EncodeChar _ _ c
  obtain ⟨before, rest, rfl, size⟩ := Bytes.isBoundary_iff.mp boundary
  rw [bytes_append, List.append_assoc] at same
  obtain ⟨start, behind⟩ := List.append_inj same ((length_bytes before).trans size)
  obtain ⟨after, rfl, rest⟩ := exists_of_bytes_eq_append behind
  exact ⟨before, after, by rw [List.append_assoc], start, rest⟩

/-- The bytes of a needle that is not empty stand in those of a text where it occurs. -/
theorem contains_bytes {needle : Text} (full : needle ≠ []) (text : Text) :
    (bytes text).contains (bytes needle) = occursIn needle text := by
  rw [Bool.eq_iff_iff, Bytes.contains_iff, occursIn_iff]
  constructor
  · rintro ⟨front, back, same⟩
    obtain ⟨before, after, split, _⟩ := exists_of_bytes_eq full same.symm
    exact ⟨before, after, split⟩
  · rintro ⟨before, after, rfl⟩
    exact ⟨bytes before, bytes after, by simp⟩

end Text

end ScreenRetrofit
