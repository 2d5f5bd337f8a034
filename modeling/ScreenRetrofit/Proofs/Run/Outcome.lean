import ScreenRetrofit.Proofs.Run.Visit

/-!
# Outcomes of a visit

What a store in memory says of a file decides the outcome of a visit to it, and the outcome tells
whether the store was changed: exactly in an update one text was written, to the path of the visit
(`outcome_onMemory`). The marks are asked in the order of the work, so a read-only file that needs
no change is left in peace, and an unreadable one is never written to.
-/

namespace ScreenRetrofit

/-- A store in memory after one write of a text to a path. -/
structure Memory.WrittenOnce (memory after : Memory) (path : Path) (text : Text) : Prop where
  /-- The file at the path has the text, and every other file the text that it had. -/
  files (key : Memory.Key) : after.files.lookup key =
    if key = memory.key path then some text else memory.files.lookup key
  /-- The write is recorded with the path it was made to. -/
  writes : after.writes = memory.writes ++ [memory.locate path]
  /-- The root and the marks are as they were. -/
  sibling : memory.Sibling after

/-- A write that succeeds is one write. -/
theorem Memory.writtenOnce_written (memory : Memory) (path : Path) (text : Text) :
    memory.WrittenOnce (memory.written path text) path text where
  files key := by
    rw [written, addFile, List.lookup_cons]
    by_cases same : key = memory.key path
    · simp [same]
    · simp [same, beq_eq_false_iff_ne.mpr same]
  writes := rfl
  sibling := .written memory path text

namespace Visit

/-- A pipeline makes another text of a source. -/
def Changes (pipeline : Screen.Pipeline) (source : Text) : Prop :=
  (pipeline.run source).result source ≠ source

/-- The outcome of a visit is told by what the store holds at the path, by the marks of the file and
by what the pipeline makes of its text. Exactly when it is an update the store was written to, once,
with what the pipeline made; after every other visit the store is as it was. -/
theorem outcome_onMemory (pipeline : Screen.Pipeline) (baseDir : Path) (file : Text)
    (memory : Memory) :
    let path := baseDir.join ⟨file⟩
    let outcome := (onMemory pipeline baseDir file memory).1.outcome
    let after := (onMemory pipeline baseDir file memory).2
    (outcome = .missing ↔ memory.contents path = none) ∧
      ((∃ message, outcome = .failed message) ↔ ∃ source, memory.contents path = some source ∧
        (memory.key path ∈ memory.unreadable ∨
          Changes pipeline source ∧ memory.key path ∈ memory.readOnly)) ∧
      (outcome = .updated ↔ ∃ source, memory.contents path = some source ∧
        memory.key path ∉ memory.unreadable ∧ Changes pipeline source ∧
          memory.key path ∉ memory.readOnly) ∧
      (outcome = .unchanged ↔ ∃ source, memory.contents path = some source ∧
        memory.key path ∉ memory.unreadable ∧ ¬ Changes pipeline source) ∧
      (outcome = .updated → ∃ source, memory.contents path = some source ∧
        memory.WrittenOnce after path ((pipeline.run source).result source)) ∧
      (outcome ≠ .updated → after = memory) := by
  obtain ⟨visit, after, ends⟩ := exists_ends pipeline file (baseDir.join ⟨file⟩) memory
  rw [ends.onMemory_eq]
  cases ends with
  | missing absent => simp [absent]
  | unreadable stored marked => simp [stored, marked]
  | unchanged stored readable same => simp [stored, readable, Changes, same]
  | refused stored readable changes marked => simp [stored, readable, Changes, changes, marked]
  | @updated source stored readable changes writable =>
    have written := memory.writtenOnce_written (baseDir.join ⟨file⟩)
      ((pipeline.run source).result source)
    simp [stored, readable, Changes, changes, writable, written]

end Visit

end ScreenRetrofit
