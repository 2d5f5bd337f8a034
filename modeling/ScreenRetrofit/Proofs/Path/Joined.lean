import ScreenRetrofit.Path.Part

/-!
# Paths of plain names

A plain name joined to a directory is the last part of the path, however the directory is spelled
and wherever the path is seen from (`parts_slash_plain`). So two plain names joined to one directory
lead to two files.
-/

namespace ScreenRetrofit.Path

variable {base path : Path} {name other : Text}

/-- A text with a slash in it is cut there. -/
theorem cutAtSlashes_append_slash (left right : Text) :
    cutAtSlashes (left ++ '/' :: right) = cutAtSlashes left ++ cutAtSlashes right := by
  induction left with
  | nil => simp [cutAtSlashes]
  | cons c left ih =>
    rw [List.cons_append, cutAtSlashes, cutAtSlashes, ih]
    split
    · rfl
    · cases cut : cutAtSlashes left with
      | nil => exact absurd cut (cutAtSlashes_ne_nil left)
      | cons piece pieces => rfl

/-- A text without a slash is one piece. -/
theorem cutAtSlashes_of_not_mem {text : Text} (plain : '/' ∉ text) : cutAtSlashes text = [text] := by
  induction text with
  | nil => rfl
  | cons c rest ih =>
    rw [List.mem_cons, not_or] at plain
    obtain ⟨first, others⟩ := plain
    simp [cutAtSlashes, Ne.symm first, ih others]

/-- No piece of a text has a slash in it. -/
theorem not_mem_of_mem_cutAtSlashes {text piece : Text} (member : piece ∈ cutAtSlashes text) :
    '/' ∉ piece := by
  induction text generalizing piece with
  | nil =>
    obtain rfl := List.mem_singleton.mp member
    exact List.not_mem_nil
  | cons c rest ih =>
    rw [cutAtSlashes] at member
    split at member
    · rcases List.mem_cons.mp member with rfl | later
      · exact List.not_mem_nil
      · exact ih later
    · rename_i plain
      split at member
      · rename_i cut
        exact absurd cut (cutAtSlashes_ne_nil rest)
      · rename_i first pieces cut
        rcases List.mem_cons.mp member with rfl | later
        · exact List.not_mem_cons_of_ne_of_not_mem (Ne.symm plain) (ih (by simp [cut]))
        · exact ih (by simp [cut, later])

/-- Pieces without slashes are cut again where they were joined. -/
theorem cutAtSlashes_joinWithSlashes {pieces : List Text} (some : pieces ≠ [])
    (plain : ∀ piece ∈ pieces, '/' ∉ piece) : cutAtSlashes (joinWithSlashes pieces) = pieces := by
  induction pieces with
  | nil => contradiction
  | cons piece rest ih =>
    have first := plain piece List.mem_cons_self
    cases rest with
    | nil => exact cutAtSlashes_of_not_mem first
    | cons next rest =>
      have later := ih (List.cons_ne_nil next rest) fun other member =>
        plain other (List.mem_cons_of_mem piece member)
      rw [joinWithSlashes, cutAtSlashes_append_slash, cutAtSlashes_of_not_mem first, later]
      · rfl
      · simp

/-- A text without a slash does not start at the root. -/
theorem isAbsolute_of_not_mem {text : Text} (plain : '/' ∉ text) : isAbsolute ⟨text⟩ = false := by
  simp only [isAbsolute, decide_eq_false_iff_not]
  exact fun first => plain (List.mem_of_mem_head? first)

/-- A plain name is a name and holds no separator of any system. -/
theorem isPlainName_iff : isPlainName name = true ↔
    '/' ∉ name ∧ '\\' ∉ name ∧ Part.ofPiece? name = some (.name name) := by
  simp only [isPlainName, Bool.and_eq_true, Bool.not_eq_true', List.contains_eq_mem,
    decide_eq_false_iff_not, beq_iff_eq, and_assoc]
  refine and_congr_right fun noSlash => and_congr_right fun _ => ?_
  have pieces : pieces ⟨name⟩ = [name] := cutAtSlashes_of_not_mem noSlash
  simp only [parts, isAbsolute_of_not_mem noSlash, pieces]
  by_cases dot : name = ['.']
  · subst dot
    decide
  · cases part : Part.ofPiece? name <;> simp [dot, part]

/-- A plain name behind a slash is a part of its own, the last one. -/
theorem parts_slash_plain (lead : Text) (plain : isPlainName name = true) :
    parts ⟨lead ++ '/' :: name⟩ = parts ⟨lead ++ ['/']⟩ ++ [.name name] := by
  obtain ⟨noSlash, _, step⟩ := isPlainName_iff.mp plain
  have named : pieces ⟨lead ++ '/' :: name⟩ = cutAtSlashes lead ++ [name] := by
    rw [pieces, cutAtSlashes_append_slash, cutAtSlashes_of_not_mem noSlash]
  have bare : pieces ⟨lead ++ ['/']⟩ = cutAtSlashes lead ++ [[]] :=
    cutAtSlashes_append_slash lead []
  have absolute : isAbsolute ⟨lead ++ '/' :: name⟩ = isAbsolute ⟨lead ++ ['/']⟩ := by
    cases lead <;> rfl
  have start : (cutAtSlashes lead ++ [name]).head? = (cutAtSlashes lead ++ [[]]).head? := by
    cases cut : cutAtSlashes lead with
    | nil => exact absurd cut (cutAtSlashes_ne_nil lead)
    | cons piece pieces => rfl
  have filler : Part.ofPiece? [] = none := rfl
  simp only [parts, absolute, named, bare, start, List.filterMap_append, List.filterMap_cons,
    List.filterMap_nil, step, filler]
  split
  · simp
  · split <;> simp

/-- Paths of one file that end with plain names behind a slash end with one name. -/
theorem eq_of_parts_eq {lead lead' : Text} (plain : isPlainName name = true)
    (plain' : isPlainName other = true)
    (same : parts ⟨lead ++ '/' :: name⟩ = parts ⟨lead' ++ '/' :: other⟩) : name = other := by
  rw [parts_slash_plain lead plain, parts_slash_plain lead' plain'] at same
  obtain ⟨_, last⟩ := List.append_inj' same rfl
  exact Part.name.inj (List.head_eq_of_cons_eq last)

/-- A path joined to a base ends as it is spelled. -/
theorem exists_join (base path : Path) : ∃ lead, (base.join path).text = lead ++ path.text := by
  rw [join]
  split
  · exact ⟨[], rfl⟩
  · split
    · exact ⟨base.text, rfl⟩
    · exact ⟨base.text ++ ['/'], by simp⟩

/-- An absolute path has a spelling. -/
theorem ne_nil_of_isAbsolute (absolute : path.isAbsolute = true) : path.text ≠ [] := by
  intro empty
  simp [isAbsolute, empty] at absolute

/-- A path joined to a base has no spelling when neither has one. -/
theorem join_text_eq_nil_iff : (base.join path).text = [] ↔ base.text = [] ∧ path.text = [] := by
  rw [join]
  split
  · rename_i absolute
    have some := ne_nil_of_isAbsolute absolute
    exact iff_of_false some fun both => some both.2
  · split
    · exact List.append_eq_nil_iff
    · rename_i directory
      rw [not_or] at directory
      simp [directory.1]

/-- A plain name joined to a directory stands behind a slash. -/
theorem exists_join_plain (directory : base.text ≠ []) (plain : isPlainName name = true) :
    ∃ lead, (base.join ⟨name⟩).text = lead ++ '/' :: name := by
  obtain ⟨noSlash, _, _⟩ := isPlainName_iff.mp plain
  rw [join, isAbsolute_of_not_mem noSlash]
  by_cases ends : base.text.getLast? = some '/'
  · obtain ⟨lead, spelled⟩ := List.getLast?_eq_some_iff.mp ends
    exact ⟨lead, by simp [spelled]⟩
  · exact ⟨base.text, by simp [directory, ends]⟩

end ScreenRetrofit.Path
