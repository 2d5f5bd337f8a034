import ScreenRetrofit.Store.Memory
import ScreenRetrofit.Proofs.Path.Joined

/-!
# States of a store in memory

A write changes one text and the record of writes (`write_eq`). What it leaves alone, the root and
the marks, is what two states of one store have in common (`Sibling`); of a path such states say the
same as far as they hold the same text there.
-/

namespace ScreenRetrofit.Memory

variable {memory other : Memory} {path : Path} {text : Text}

/-- The store after a write of a text that succeeded. -/
def written (memory : Memory) (path : Path) (text : Text) : Memory :=
  { memory.addFile path text with writes := memory.writes ++ [memory.locate path] }

/-- A write is refused for a read-only file and succeeds otherwise. -/
theorem write_eq (memory : Memory) (path : Path) (text : Text) : memory.write path text =
    if memory.key path ∈ memory.readOnly then .error (.readOnly (memory.locate path))
    else .ok (memory.written path text) := rfl

/-- The store holds one text at all spellings of a path. -/
theorem contents_eq_of_key_eq {spelled : Path} (same : memory.key path = memory.key spelled) :
    memory.contents path = memory.contents spelled := by
  rw [contents, contents, same]

/-- After a write the text is at every spelling of its path, and every other text is as it was. -/
theorem contents_written (memory : Memory) (path : Path) (text : Text) (asked : Path) :
    (memory.written path text).contents asked =
      if memory.key asked = memory.key path then some text else memory.contents asked := by
  have key : (memory.written path text).key asked = memory.key asked := rfl
  rw [contents, key, written, addFile, List.lookup_cons]
  by_cases same : memory.key asked = memory.key path
  · simp [same]
  · simp [same, contents, beq_eq_false_iff_ne.mpr same]

/-- A path as the store sees it ends as it is spelled. -/
theorem exists_locate (memory : Memory) (path : Path) :
    ∃ lead, (memory.locate path).text = lead ++ path.text := by
  rw [locate]
  split
  · exact ⟨[], rfl⟩
  · exact Path.exists_join memory.root path

/-- A plain name in a directory stands behind a slash where the store sees it. -/
theorem exists_locate_plain {base : Path} {name : Text} (memory : Memory)
    (directory : base.text ≠ []) (plain : Path.isPlainName name = true) :
    ∃ lead, memory.locate (base.join ⟨name⟩) = ⟨lead ++ '/' :: name⟩ := by
  obtain ⟨front, joined⟩ := Path.exists_join_plain directory plain
  obtain ⟨lead, located⟩ := exists_locate memory (base.join ⟨name⟩)
  have spelled : (memory.locate (base.join ⟨name⟩)).text = (lead ++ front) ++ '/' :: name := by
    rw [located, joined, List.append_assoc]
  exact ⟨lead ++ front, congrArg Path.mk spelled⟩

/-- Plain names in one directory that the store keeps one text under are one name. -/
theorem eq_of_key_eq {base : Path} {name name' : Text} (directory : base.text ≠ [])
    (plain : Path.isPlainName name = true) (plain' : Path.isPlainName name' = true)
    (same : memory.key (base.join ⟨name⟩) = memory.key (base.join ⟨name'⟩)) : name = name' := by
  obtain ⟨_, spelled⟩ := exists_locate_plain memory directory plain
  obtain ⟨_, spelled'⟩ := exists_locate_plain memory directory plain'
  rw [key, key, spelled, spelled'] at same
  exact Path.eq_of_parts_eq plain plain' same

/-- Two states of one store: they differ at most in the texts that they hold and in the record of
writes. -/
structure Sibling (memory other : Memory) : Prop where
  /-- The directory that relative paths are seen from is the same. -/
  root : other.root = memory.root
  /-- The same files cannot be read. -/
  unreadable : other.unreadable = memory.unreadable
  /-- The same files cannot be written. -/
  readOnly : other.readOnly = memory.readOnly

namespace Sibling

/-- A store is a state of itself. -/
theorem refl (memory : Memory) : memory.Sibling memory := ⟨rfl, rfl, rfl⟩

/-- Of two states of one store either is one of the other's. -/
theorem symm (sibling : memory.Sibling other) : other.Sibling memory :=
  ⟨sibling.root.symm, sibling.unreadable.symm, sibling.readOnly.symm⟩

/-- The states of the states of a store are states of it. -/
theorem trans {last : Memory} (first : memory.Sibling other) (second : other.Sibling last) :
    memory.Sibling last :=
  ⟨second.root.trans first.root, second.unreadable.trans first.unreadable,
    second.readOnly.trans first.readOnly⟩

/-- A write leads to a state of the same store. -/
theorem written (memory : Memory) (path : Path) (text : Text) :
    memory.Sibling (memory.written path text) := ⟨rfl, rfl, rfl⟩

/-- States of one store see a path alike. -/
theorem locate_eq (sibling : memory.Sibling other) (path : Path) :
    other.locate path = memory.locate path := by
  rw [locate, locate, sibling.root]

/-- States of one store keep a path's text under the same key. -/
theorem key_eq (sibling : memory.Sibling other) (path : Path) :
    other.key path = memory.key path := by
  rw [key, key, sibling.locate_eq]

end Sibling

end ScreenRetrofit.Memory
