import ScreenRetrofit.Proofs.Path.Joined

/-!
# Directories of paths

A plain name joined to a directory adds one part to the directory's parts, the name
(`parts_join_plain`), and the parent of the path is the directory again, in whatever way it was
spelled (`exists_parent?_join_plain`). Both follow from the pieces of a path alone
(`parts_eq_ofPieces`). A path has a parent that is more than the place where the path is seen from
when it has more than one part (`exists_parent?_ne_nil_iff`).
-/

namespace ScreenRetrofit.Path

variable {base path : Path} {name text piece : Text}

/-- The name that a path ends with, if it ends with one. -/
def fileName? (path : Path) : Option Text :=
  match path.parts.getLast? with
  | some (.name name) => some name
  | _ => none

/-- Whether the pieces of a path start at the root: nothing stands before the first slash. -/
def startsAtRoot : List Text → Bool
  | [] :: _ :: _ => true
  | _ => false

/-- The parts of a path with the given pieces. -/
def partsOfPieces (pieces : List Text) : List Part :=
  let steps := pieces.filterMap Part.ofPiece?
  if startsAtRoot pieces then .root :: steps
  else if pieces.head? = some ['.'] then .here :: steps
  else steps

/-- A path is absolute when its pieces start at the root. -/
theorem isAbsolute_eq_startsAtRoot (path : Path) :
    path.isAbsolute = startsAtRoot path.pieces := by
  obtain ⟨text⟩ := path
  cases text with
  | nil => rfl
  | cons c rest =>
    rw [pieces, cutAtSlashes]
    by_cases slash : c = '/'
    · cases cut : cutAtSlashes rest with
      | nil => exact absurd cut (cutAtSlashes_ne_nil rest)
      | cons => simp [slash, isAbsolute, startsAtRoot]
    · cases cut : cutAtSlashes rest <;> simp [slash, isAbsolute, startsAtRoot]

/-- The parts of a path are told from its pieces. -/
theorem parts_eq_ofPieces (path : Path) : path.parts = partsOfPieces path.pieces := by
  rw [parts, partsOfPieces, isAbsolute_eq_startsAtRoot]

/-- A slash at the end of a path is no part of it. -/
theorem parts_append_slash (some : text ≠ []) : parts ⟨text ++ ['/']⟩ = parts ⟨text⟩ := by
  have cut : pieces ⟨text ++ ['/']⟩ = pieces ⟨text⟩ ++ [[]] :=
    cutAtSlashes_append_slash text []
  have absolute : isAbsolute ⟨text ++ ['/']⟩ = isAbsolute ⟨text⟩ := by
    cases text with
    | nil => contradiction
    | cons => rfl
  have start : (pieces ⟨text⟩ ++ [[]]).head? = (pieces ⟨text⟩).head? := by
    cases first : pieces ⟨text⟩ with
    | nil => exact absurd first (cutAtSlashes_ne_nil text)
    | cons => rfl
  have filler : Part.ofPiece? [] = none := rfl
  simp only [parts, cut, absolute, start, List.filterMap_append, List.filterMap_cons, filler,
    List.filterMap_nil, List.append_nil]

/-- A plain name joined to a directory stands behind a slash, and what stands before the name are
the directory's parts. -/
theorem exists_join_plain_parts (directory : base.text ≠ []) (plain : isPlainName name = true) :
    ∃ lead, base.join ⟨name⟩ = ⟨lead ++ '/' :: name⟩ ∧ parts ⟨lead ++ ['/']⟩ = base.parts := by
  obtain ⟨noSlash, _, _⟩ := isPlainName_iff.mp plain
  rw [join, isAbsolute_of_not_mem noSlash]
  by_cases ends : base.text.getLast? = some '/'
  · obtain ⟨lead, spelled⟩ := List.getLast?_eq_some_iff.mp ends
    refine ⟨lead, by simp [spelled], ?_⟩
    rw [← spelled]
  · exact ⟨base.text, by simp [directory, ends], parts_append_slash directory⟩

/-- A plain name joined to a directory adds itself to the directory's parts. -/
theorem parts_join_plain (directory : base.text ≠ []) (plain : isPlainName name = true) :
    (base.join ⟨name⟩).parts = base.parts ++ [.name name] := by
  obtain ⟨lead, joined, front⟩ := exists_join_plain_parts directory plain
  rw [joined, parts_slash_plain lead plain, front]

/-- A plain name joined to a directory is the file name of the path. -/
theorem fileName?_join_plain (directory : base.text ≠ []) (plain : isPlainName name = true) :
    (base.join ⟨name⟩).fileName? = some name := by
  rw [fileName?, parts_join_plain directory plain, List.getLast?_concat]

/-- A filler is no part. -/
theorem ofPiece?_of_isFiller (filler : isFiller piece = true) : Part.ofPiece? piece = none := by
  rw [Part.ofPiece?, if_pos filler]

/-- Fillers at the end of pieces are no parts. -/
theorem filterMap_dropFillers (pieces : List Text) :
    (dropFillers pieces).filterMap Part.ofPiece? = pieces.filterMap Part.ofPiece? := by
  have cut : pieces = dropFillers pieces ++ (pieces.reverse.takeWhile isFiller).reverse := by
    rw [dropFillers, ← List.reverse_append, List.takeWhile_append_dropWhile, List.reverse_reverse]
  have none : (pieces.reverse.takeWhile isFiller).reverse.filterMap Part.ofPiece? = [] := by
    refine List.filterMap_eq_nil_iff.mpr fun piece member => ?_
    exact ofPiece?_of_isFiller
      (List.all_eq_true.mp List.all_takeWhile piece (List.mem_reverse.mp member))
  have parts := congrArg (List.filterMap Part.ofPiece?) cut
  rw [List.filterMap_append, none, List.append_nil] at parts
  exact parts.symm

/-- What is left when the fillers at the end are dropped was there before. -/
theorem dropFillers_subset (pieces : List Text) : dropFillers pieces ⊆ pieces := by
  intro piece member
  rw [dropFillers, List.mem_reverse] at member
  exact List.mem_reverse.mp ((List.dropWhile_suffix isFiller).mem member)

/-- A first piece that is no filler stays when the fillers at the end are dropped. -/
theorem dropFillers_cons (step : isFiller piece = false) (pieces : List Text) :
    dropFillers (piece :: pieces) = piece :: dropFillers pieces := by
  rw [dropFillers, dropFillers, List.reverse_cons, List.dropWhile_append]
  split
  · rename_i empty
    rw [List.isEmpty_iff] at empty
    simp [empty, step]
  · simp

/-- Nothing is dropped behind a last piece that is no filler. -/
theorem dropFillers_concat (step : isFiller piece = false) (pieces : List Text) :
    dropFillers (pieces ++ [piece]) = pieces ++ [piece] := by
  rw [dropFillers, List.reverse_concat, List.dropWhile_cons, step]
  simp

/-- The parts of a path are told from where it starts and from the pieces behind that are no
fillers. -/
theorem partsOfPieces_eq_of_steps {first : Text} {rest other : List Text}
    (root : first = [] → (rest = [] ↔ other = []))
    (steps : rest.filterMap Part.ofPiece? = other.filterMap Part.ofPiece?) :
    partsOfPieces (first :: rest) = partsOfPieces (first :: other) := by
  have start : startsAtRoot (first :: rest) = startsAtRoot (first :: other) := by
    cases first with
    | nil => cases rest <;> cases other <;> simp_all [startsAtRoot]
    | cons => rfl
  have parts : (first :: rest).filterMap Part.ofPiece? =
      (first :: other).filterMap Part.ofPiece? := by
    rw [List.filterMap_cons, List.filterMap_cons, steps]
  rw [partsOfPieces, partsOfPieces, start, parts]
  rfl

/-- A name that is a part is no filler. -/
theorem isFiller_of_ofPiece? (step : Part.ofPiece? name = some (.name name)) :
    isFiller name = false := by
  cases filler : isFiller name with
  | false => rfl
  | true => simp [ofPiece?_of_isFiller filler] at step

/-- The path that is left above a name behind some pieces: the first piece stays, wherever it
starts, and of the others those that stand before the fillers at their end. -/
def above (first : Text) (rest : List Text) : Path :=
  if first :: dropFillers rest = [[]] then ⟨['/']⟩
  else ⟨joinWithSlashes (first :: dropFillers rest)⟩

/-- The parent of a path that ends with a name is what is left above the name. -/
theorem parent?_of_pieces {first : Text} {rest : List Text}
    (cut : path.pieces = first :: rest ++ [name]) (step : isFiller name = false) :
    path.parent? = some (above first rest) := by
  have absolute : path.isAbsolute = decide (first = []) := by
    rw [isAbsolute_eq_startsAtRoot, cut]
    cases first with
    | nil => cases rest <;> rfl
    | cons => rfl
  have start : path.startPieces = if isFiller first then 1 else 0 := by
    simp [startPieces, absolute, cut, isFiller, List.isEmpty_iff]
  cases filler : isFiller first with
  | true =>
    have kept : dropFillers (rest ++ [name]) = rest ++ [name] := dropFillers_concat step rest
    simp only [parent?, start, cut, filler, if_true, List.cons_append, List.take_succ_cons,
      List.take_zero, List.drop_succ_cons, List.drop_zero, kept, List.dropLast_concat,
      List.nil_append, List.append_eq_nil_iff, List.cons_ne_nil, and_false, if_false]
    exact (apply_ite some _ _ _).symm
  | false =>
    have kept : dropFillers (first :: rest ++ [name]) = first :: rest ++ [name] :=
      dropFillers_concat step (first :: rest)
    simp only [parent?, start, cut, filler, Bool.false_eq_true, if_false, List.take_zero,
      List.drop_zero, kept, List.dropLast_concat, List.nil_append, dropFillers_cons filler,
      List.append_eq_nil_iff, List.cons_ne_nil, and_false, if_false]
    exact (apply_ite some _ _ _).symm

/-- What is left above a name has the parts of all pieces before the name. -/
theorem parts_above {first : Text} {rest : List Text}
    (single : ∀ piece ∈ first :: rest, '/' ∉ piece) :
    (above first rest).parts = partsOfPieces (first :: (rest ++ [[]])) := by
  have steps : (rest ++ [[]]).filterMap Part.ofPiece? = rest.filterMap Part.ofPiece? := by
    rw [List.filterMap_append]
    exact List.append_nil _
  rw [above]
  split
  · -- Nothing but fillers stands between the root and the name.
    rename_i root
    obtain ⟨rfl, fillers⟩ := List.cons_eq_cons.mp root
    have none : rest.filterMap Part.ofPiece? = [[]].filterMap Part.ofPiece? := by
      rw [← filterMap_dropFillers, fillers]
      rfl
    have top : parts ⟨['/']⟩ = partsOfPieces ([] :: [[]]) := parts_eq_ofPieces _
    rw [top]
    refine partsOfPieces_eq_of_steps (fun _ => ?_) (none.symm.trans steps.symm)
    simp only [List.append_eq_nil_iff, List.cons_ne_nil, and_false]
  · rename_i root
    have kept : ∀ piece ∈ first :: dropFillers rest, '/' ∉ piece := fun piece member =>
      single piece (List.cons_subset_cons first (dropFillers_subset rest) member)
    rw [parts_eq_ofPieces, pieces, cutAtSlashes_joinWithSlashes (List.cons_ne_nil _ _) kept]
    refine partsOfPieces_eq_of_steps (fun start => ?_) ?_
    · simp only [List.append_eq_nil_iff, List.cons_ne_nil, and_false, iff_false]
      exact fun fillers => root (by rw [start, fillers])
    · rw [steps, filterMap_dropFillers]

/-- A directory is the parent of what has its spelling and a plain name behind a slash. -/
theorem exists_parent?_slash_plain (lead : Text) (plain : isPlainName name = true) :
    ∃ parent, parent? ⟨lead ++ '/' :: name⟩ = some parent ∧
      parent.parts = parts ⟨lead ++ ['/']⟩ := by
  obtain ⟨noSlash, _, step⟩ := isPlainName_iff.mp plain
  have named : pieces ⟨lead ++ '/' :: name⟩ = cutAtSlashes lead ++ [name] := by
    rw [pieces, cutAtSlashes_append_slash, cutAtSlashes_of_not_mem noSlash]
  have bare : pieces ⟨lead ++ ['/']⟩ = cutAtSlashes lead ++ [[]] :=
    cutAtSlashes_append_slash lead []
  have single : ∀ piece ∈ cutAtSlashes lead, '/' ∉ piece := fun _ => not_mem_of_mem_cutAtSlashes
  cases cut : cutAtSlashes lead with
  | nil => exact absurd cut (cutAtSlashes_ne_nil lead)
  | cons first rest =>
    rw [cut] at named bare single
    refine ⟨above first rest, parent?_of_pieces named (isFiller_of_ofPiece? step), ?_⟩
    rw [parts_above single, parts_eq_ofPieces ⟨lead ++ ['/']⟩, bare]
    rfl

/-- The parent of a plain name joined to a directory is the directory, however it is spelled. -/
theorem exists_parent?_join_plain (directory : base.text ≠ [])
    (plain : isPlainName name = true) :
    ∃ parent, (base.join ⟨name⟩).parent? = some parent ∧ parent.parts = base.parts := by
  obtain ⟨lead, joined, front⟩ := exists_join_plain_parts directory plain
  rw [joined, ← front]
  exact exists_parent?_slash_plain lead plain

/-- Pieces with slashes between them make no text when there is none, or a single empty one. -/
theorem joinWithSlashes_eq_nil_iff {pieces : List Text} :
    joinWithSlashes pieces = [] ↔ pieces = [] ∨ pieces = [[]] := by
  cases pieces with
  | nil => simp [joinWithSlashes]
  | cons piece rest => cases rest <;> simp [joinWithSlashes]

/-- Only fillers are no parts. -/
theorem ofPiece?_eq_none_iff : Part.ofPiece? piece = none ↔ isFiller piece = true := by
  cases filler : isFiller piece with
  | true => simp [ofPiece?_of_isFiller filler]
  | false =>
    rw [Part.ofPiece?, filler]
    by_cases up : piece = ['.', '.'] <;> simp [up]

/-- The last piece that is left when the fillers at the end are dropped is a part. -/
theorem exists_filterMap_eq_concat {pieces : List Text} (left : dropFillers pieces ≠ []) :
    ∃ part, pieces.filterMap Part.ofPiece? =
      (dropFillers pieces).dropLast.filterMap Part.ofPiece? ++ [part] := by
  have step : isFiller ((dropFillers pieces).getLast left) = false := by
    simp only [dropFillers, List.getLast_reverse]
    exact List.head_dropWhile_not isFiller _
  cases part : Part.ofPiece? ((dropFillers pieces).getLast left) with
  | none =>
    rw [ofPiece?_eq_none_iff.mp part] at step
    contradiction
  | some last =>
    refine ⟨last, ?_⟩
    have cut := congrArg (List.filterMap Part.ofPiece?) (List.dropLast_concat_getLast left)
    rw [List.filterMap_append, filterMap_dropFillers] at cut
    rw [← cut, List.filterMap_cons, part, List.filterMap_nil]

/-- Nothing is left when the fillers at the end are dropped where no piece is a part. -/
theorem dropFillers_eq_nil_iff {pieces : List Text} :
    dropFillers pieces = [] ↔ pieces.filterMap Part.ofPiece? = [] := by
  constructor
  · intro none
    rw [← filterMap_dropFillers, none, List.filterMap_nil]
  · intro none
    refine Decidable.byContradiction fun left => ?_
    obtain ⟨last, parts⟩ := exists_filterMap_eq_concat left
    rw [none] at parts
    exact List.cons_ne_nil _ _ (List.append_eq_nil_iff.mp parts.symm).2

/-- A path has a part for where it starts, when that is written, and those of the pieces past
it. -/
theorem length_parts (path : Path) : path.parts.length =
    path.startPieces + ((path.pieces.drop path.startPieces).filterMap Part.ofPiece?).length := by
  cases cut : path.pieces with
  | nil => exact absurd cut (cutAtSlashes_ne_nil path.text)
  | cons first rest =>
    have start : path.startPieces = if path.isAbsolute || first = ['.'] then 1 else 0 := by
      simp [startPieces, cut]
    have root : path.isAbsolute = true → isFiller first = true := by
      rw [isAbsolute_eq_startsAtRoot, cut]
      cases first with
      | nil => simp [isFiller]
      | cons => simp [startsAtRoot]
    rw [start, parts, cut]
    cases absolute : path.isAbsolute with
    | true => simp [ofPiece?_of_isFiller (root absolute), Nat.add_comm]
    | false =>
      by_cases here : first = ['.']
      · have filler : Part.ofPiece? ['.'] = none := rfl
        simp [here, filler, Nat.add_comm]
      · simp [here]

/-- A path has a parent with a spelling of its own when the path has more than one part. -/
theorem exists_parent?_ne_nil_iff : (∃ parent, path.parent? = some parent ∧ parent.text ≠ []) ↔
    1 < path.parts.length := by
  have few : path.startPieces ≤ 1 := by
    rw [startPieces]
    split <;> omega
  have start : path.pieces.take path.startPieces = [] ↔ path.startPieces = 0 := by
    have some : path.pieces ≠ [] := cutAtSlashes_ne_nil path.text
    rw [List.take_eq_nil_iff, or_iff_left some]
  rw [length_parts, parent?]
  by_cases left : dropFillers (path.pieces.drop path.startPieces) = []
  · -- Nothing is written but where the path starts, and the parent has no spelling.
    rw [dropFillers_eq_nil_iff.mp left, List.length_nil, if_pos left]
    have empty : ¬ ∃ parent : Path,
        (if path.isAbsolute || path.text = [] then none else some ⟨[]⟩) = some parent ∧
          parent.text ≠ [] := by
      split <;> simp
    exact iff_of_false empty (by omega)
  · obtain ⟨last, parts⟩ := exists_filterMap_eq_concat left
    rw [parts, List.length_append, List.length_singleton, if_neg left]
    generalize (dropFillers (path.pieces.drop path.startPieces)).dropLast = before
    have spelled (kept : List Text) :
        (∃ parent : Path,
          (if kept = [[]] then some ⟨['/']⟩ else some ⟨joinWithSlashes kept⟩) = some parent ∧
            parent.text ≠ []) ↔ kept ≠ [] := by
      by_cases root : kept = [[]]
      · simp [root]
      · simp [root, joinWithSlashes_eq_nil_iff]
    rw [spelled, ne_eq, List.append_eq_nil_iff, start, dropFillers_eq_nil_iff,
      ← List.length_eq_zero_iff]
    omega

end ScreenRetrofit.Path
