/-!
# Texts

A text is a list of Unicode scalar values. Positions inside a text are prefixes of it, so a cut
never falls inside a character; the size of a text in bytes is that of its UTF-8 form and adds
up over concatenation (`utf8Length_append`). A needle occurs in a text when the text can be cut
around it (`occursIn_iff`).
-/

namespace ScreenRetrofit

/-- A sequence of Unicode scalar values. -/
abbrev Text := List Char

namespace Text

/-- The number of bytes of the UTF-8 form. -/
def utf8Length : Text → Nat
  | [] => 0
  | first :: rest => first.utf8Size + utf8Length rest

/-- The size of a concatenation is the sum of the sizes. -/
@[simp] theorem utf8Length_append (left right : Text) :
    utf8Length (left ++ right) = utf8Length left + utf8Length right := by
  induction left with
  | nil => simp [utf8Length]
  | cons first rest ih => simp only [List.cons_append, utf8Length, ih, Nat.add_assoc]

/-- A text without a number of bytes at its front; a character that is cut through goes whole. -/
def dropBytes : Nat → Text → Text
  | 0, text => text
  | _, [] => []
  | count, first :: rest => dropBytes (count - first.utf8Size) rest

/-- Without the bytes of its front a text is the rest. -/
theorem dropBytes_append (front rest : Text) :
    dropBytes (utf8Length front) (front ++ rest) = rest := by
  induction front with
  | nil => cases rest <;> rfl
  | cons first front ih =>
    obtain ⟨size, positive⟩ : ∃ size, first.utf8Size = size + 1 :=
      Nat.exists_eq_add_one.mpr first.utf8Size_pos
    have count : utf8Length (first :: front) = utf8Length front + size + 1 := by
      simp only [utf8Length, positive]
      omega
    rw [count, List.cons_append, dropBytes, positive, Nat.add_assoc, Nat.add_sub_cancel, ih]
    · simp

/-- The stretch of a text from a byte on, as many bytes long. -/
def stretch (start size : Nat) (text : Text) : Text :=
  let behind := dropBytes start text
  behind.take (behind.length - (dropBytes size behind).length)

/-- A stretch that starts and ends between characters is what stands there. -/
theorem stretch_append (front middle rest : Text) :
    stretch (utf8Length front) (utf8Length middle) (front ++ middle ++ rest) = middle := by
  have behind : dropBytes (utf8Length front) (front ++ middle ++ rest) = middle ++ rest := by
    rw [List.append_assoc, dropBytes_append]
  rw [stretch, behind, dropBytes_append]
  simp

/-- The rest of a text after a leading part, if the text starts with that part. -/
def after? : (lead text : Text) → Option Text
  | [], text => some text
  | _ :: _, [] => none
  | expected :: lead, found :: text => if expected = found then after? lead text else none

/-- The rest after a leading part is found exactly when the text is that part and the rest. -/
theorem after?_eq_some_iff {lead text rest : Text} :
    after? lead text = some rest ↔ text = lead ++ rest := by
  induction lead generalizing text with
  | nil => simp [after?]
  | cons expected lead ih =>
    cases text with
    | nil => simp [after?]
    | cons found text =>
      by_cases same : expected = found
      · simp [after?, same, ih]
      · simp [after?, same, Ne.symm same]

/-- Whether a needle stands somewhere in a text. -/
def occursIn (needle : Text) : Text → Bool
  | [] => needle.isEmpty
  | first :: rest => needle.isPrefixOf (first :: rest) || occursIn needle rest

/-- A needle occurs exactly when the text can be cut around it. -/
theorem occursIn_iff {needle text : Text} :
    occursIn needle text = true ↔ ∃ before after, text = before ++ needle ++ after := by
  induction text with
  | nil => cases needle <;> simp [occursIn]
  | cons first rest ih =>
    simp only [occursIn, Bool.or_eq_true, List.isPrefixOf_iff_prefix, ih]
    constructor
    · rintro (⟨after, found⟩ | ⟨before, after, rfl⟩)
      · exact ⟨[], after, by simp [found]⟩
      · exact ⟨first :: before, after, by simp⟩
    · rintro ⟨before, after, cut⟩
      cases before with
      | nil => exact .inl ⟨after, by simpa using cut.symm⟩
      | cons head before =>
        simp only [List.cons_append, List.cons.injEq] at cut
        exact .inr ⟨before, after, by simpa using cut.2⟩

/-- ASCII capital letters made small, every other character kept. -/
def lowerAscii (text : Text) : Text := text.map Char.toLower

end Text

end ScreenRetrofit
