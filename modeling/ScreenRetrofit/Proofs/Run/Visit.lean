import ScreenRetrofit.Run.Visit
import ScreenRetrofit.Proofs.Store.Memory

/-!
# Visits to a store in memory

A visit to a file of a store in memory ends in one of five ways, and what the store says of the file
decides which (`ends_iff`). Only one of them changes the store: the text is stored, readable and not
read-only, and the pipeline makes another one of it.
-/

namespace ScreenRetrofit.Visit

variable {pipeline : Screen.Pipeline} {baseDir path : Path} {file : Text} {memory after : Memory}
  {visit : Visit}

/-- A visit to a file of a store in memory, with the store afterwards. -/
def onMemory (pipeline : Screen.Pipeline) (baseDir : Path) (file : Text) (memory : Memory) :
    Visit × Memory :=
  ((perform Memory.store pipeline baseDir file).run memory).run

/-- What the edits of a screen have to say, as events. -/
def remarks (pipeline : Screen.Pipeline) (source : Text) : List Event :=
  (pipeline.run source).notices.map Event.remark

/-- The ways in which a visit to a file at a path can end, each with the store afterwards. -/
inductive Ends (pipeline : Screen.Pipeline) (file : Text) (path : Path) (memory : Memory) :
    Visit → Memory → Prop
  /-- No text is stored at the path. -/
  | missing (absent : memory.contents path = none) :
    Ends pipeline file path memory ⟨file, path, .missing, [.notRegular path]⟩ memory
  /-- The text cannot be read. -/
  | unreadable {source : Text} (stored : memory.contents path = some source)
    (marked : memory.key path ∈ memory.unreadable) :
    Ends pipeline file path memory
      ⟨file, path, .failed (StoreFault.unreadable (memory.locate path)).message, []⟩ memory
  /-- The pipeline leaves the text as it is. -/
  | unchanged {source : Text} (stored : memory.contents path = some source)
    (readable : memory.key path ∉ memory.unreadable)
    (same : (pipeline.run source).result source = source) :
    Ends pipeline file path memory ⟨file, path, .unchanged, remarks pipeline source⟩ memory
  /-- The new text cannot be written. -/
  | refused {source : Text} (stored : memory.contents path = some source)
    (readable : memory.key path ∉ memory.unreadable)
    (changes : (pipeline.run source).result source ≠ source)
    (marked : memory.key path ∈ memory.readOnly) :
    Ends pipeline file path memory
      ⟨file, path, .failed (StoreFault.readOnly (memory.locate path)).message,
        remarks pipeline source⟩ memory
  /-- The new text takes the place of the old one. -/
  | updated {source : Text} (stored : memory.contents path = some source)
    (readable : memory.key path ∉ memory.unreadable)
    (changes : (pipeline.run source).result source ≠ source)
    (writable : memory.key path ∉ memory.readOnly) :
    Ends pipeline file path memory
      ⟨file, path, .updated, remarks pipeline source ++ [.wrote (Text.utf8Length source)
        (Text.utf8Length ((pipeline.run source).result source))]⟩
      (memory.written path ((pipeline.run source).result source))

/-- Whatever a store holds, a visit to a file of it ends in one of the ways. -/
theorem exists_ends (pipeline : Screen.Pipeline) (file : Text) (path : Path) (memory : Memory) :
    ∃ visit after, Ends pipeline file path memory visit after := by
  cases stored : memory.contents path with
  | none => exact ⟨_, _, .missing stored⟩
  | some source =>
    by_cases marked : memory.key path ∈ memory.unreadable
    · exact ⟨_, _, .unreadable stored marked⟩
    · by_cases same : (pipeline.run source).result source = source
      · exact ⟨_, _, .unchanged stored marked same⟩
      · by_cases readOnly : memory.key path ∈ memory.readOnly
        · exact ⟨_, _, .refused stored marked same readOnly⟩
        · exact ⟨_, _, .updated stored marked same readOnly⟩

/-- A visit ends in each of the ways that the store allows. -/
theorem Ends.onMemory_eq (ends : Ends pipeline file (baseDir.join ⟨file⟩) memory visit after) :
    onMemory pipeline baseDir file memory = (visit, after) := by
  cases ends with
  | missing absent => simp [onMemory, perform, Memory.store, Memory.isFile, absent]
  | unreadable stored marked =>
    simp [onMemory, perform, Memory.store, Memory.isFile, Memory.read, stored, marked]
  | unchanged stored readable same =>
    simp [onMemory, perform, Memory.store, Memory.isFile, Memory.read, remarks, stored, readable,
      same]
  | @refused source stored readable changes marked =>
    have failed : memory.write (baseDir.join ⟨file⟩) ((pipeline.run source).result source) =
        .error (.readOnly (memory.locate (baseDir.join ⟨file⟩))) := by
      rw [Memory.write_eq, if_pos marked]
    simp [onMemory, perform, Memory.store, Memory.isFile, Memory.read, remarks, stored, readable,
      changes, Store.run_write_ofState_error _ _ _ failed]
  | @updated source stored readable changes writable =>
    have wrote : memory.write (baseDir.join ⟨file⟩) ((pipeline.run source).result source) =
        .ok (memory.written (baseDir.join ⟨file⟩) ((pipeline.run source).result source)) := by
      rw [Memory.write_eq, if_neg writable]
    simp [onMemory, perform, Memory.store, Memory.isFile, Memory.read, remarks, stored, readable,
      changes, Store.run_write_ofState _ _ _ wrote]

/-- A visit ends in the one way that the store allows. -/
theorem ends_iff : Ends pipeline file (baseDir.join ⟨file⟩) memory visit after ↔
    onMemory pipeline baseDir file memory = (visit, after) := by
  refine ⟨Ends.onMemory_eq, fun performed => ?_⟩
  obtain ⟨visit', after', ends⟩ := exists_ends pipeline file (baseDir.join ⟨file⟩) memory
  rw [ends.onMemory_eq, Prod.mk.injEq] at performed
  obtain ⟨rfl, rfl⟩ := performed
  exact ends

/-- A visit comes to the same in two states of one store that hold the same text at its path. -/
theorem Ends.transfer {other : Memory} (ends : Ends pipeline file path memory visit after)
    (sibling : memory.Sibling other) (same : other.contents path = memory.contents path) :
    ∃ after', Ends pipeline file path other visit after' := by
  have marks : (other.key path ∈ other.unreadable ↔ memory.key path ∈ memory.unreadable) ∧
      (other.key path ∈ other.readOnly ↔ memory.key path ∈ memory.readOnly) := by
    rw [sibling.key_eq, sibling.unreadable, sibling.readOnly]
    exact ⟨Iff.rfl, Iff.rfl⟩
  cases ends with
  | missing absent => exact ⟨other, .missing (same.trans absent)⟩
  | unreadable stored marked =>
    rw [← sibling.locate_eq]
    exact ⟨other, .unreadable (same.trans stored) (marks.1.mpr marked)⟩
  | unchanged stored readable unaltered =>
    exact ⟨other, .unchanged (same.trans stored) (mt marks.1.mp readable) unaltered⟩
  | refused stored readable changes marked =>
    rw [← sibling.locate_eq]
    exact ⟨other, .refused (same.trans stored) (mt marks.1.mp readable) changes
      (marks.2.mpr marked)⟩
  | updated stored readable changes writable =>
    exact ⟨_, .updated (same.trans stored) (mt marks.1.mp readable) changes
      (mt marks.2.mp writable)⟩

/-- A visit leaves the texts at all other paths alone. -/
theorem Ends.contents_of_ne {asked : Path} (ends : Ends pipeline file path memory visit after)
    (apart : memory.key asked ≠ memory.key path) :
    after.contents asked = memory.contents asked := by
  cases ends with
  | updated => rw [Memory.contents_written, if_neg apart]
  | _ => rfl

end ScreenRetrofit.Visit
