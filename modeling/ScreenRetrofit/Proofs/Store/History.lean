import ScreenRetrofit.Proofs.Store.Memory

/-!
# Stores in memory and what was done to them

What a store in memory answers follows from the calls made to it. Paths are compared by where they
lead, which is the parts of the path joined to the root (`place`), so every spelling of a path meets
the same text and the same marks, and a step up is no way back. Each call is taken with the calls
before it (`turns`): they tell whether a write went through, and so which texts were stored and which
writes were recorded. A store keeps no more than that (`after_eq_state`), so of the texts stored at a
path the last one counts (`after_calls`).
-/

namespace ScreenRetrofit.Memory

/-- A call that may change a store in memory. -/
inductive Call where
  /-- Store a text. -/
  | addFile (path : Path) (text : Text)
  /-- Store an empty text that cannot be read. -/
  | addUnreadable (path : Path)
  /-- Refuse writes from now on. -/
  | makeReadOnly (path : Path)
  /-- Write a text. -/
  | write (path : Path) (text : Text)
  deriving DecidableEq, Repr

/-- The store after a call. Of a write the answer is not looked at. -/
def call (memory : Memory) : Call → Memory
  | .addFile path text => memory.addFile path text
  | .addUnreadable path => memory.addUnreadable path
  | .makeReadOnly path => memory.makeReadOnly path
  | .write path text => ((store.write path text).run memory).run.2

/-- The store that calls lead to when it starts without files. -/
def after (root : Path) (calls : List Call) : Memory := calls.foldl call { root := root }

/-- Where a path leads that is seen from a root. -/
def place (root path : Path) : Key := (root.join path).parts

/-- The place that a call marks as unreadable. -/
def Call.spoils? (root : Path) : Call → Option Key
  | addUnreadable path => some (place root path)
  | _ => none

/-- The place that a call makes read-only. -/
def Call.locks? (root : Path) : Call → Option Key
  | makeReadOnly path => some (place root path)
  | _ => none

/-- The places that calls have marked as unreadable. -/
def unreadableBy (root : Path) (calls : List Call) : List Key :=
  calls.filterMap (Call.spoils? root)

/-- The places that calls have made read-only. -/
def readOnlyBy (root : Path) (calls : List Call) : List Key :=
  calls.filterMap (Call.locks? root)

/-- Calls in order behind others, each with all that were made before it. -/
def turnsFrom (earlier : List Call) : List Call → List (List Call × Call)
  | [] => []
  | call :: later => (earlier, call) :: turnsFrom (earlier ++ [call]) later

/-- Calls in order, each with those made before it. -/
def turns (calls : List Call) : List (List Call × Call) := turnsFrom [] calls

/-- The text that a call stores, and where; a write does if its place has not been made read-only by
the calls before it. -/
def stored? (root : Path) : List Call × Call → Option (Key × Text)
  | (_, .addFile path text) => some (place root path, text)
  | (_, .addUnreadable path) => some (place root path, [])
  | (_, .makeReadOnly _) => none
  | (earlier, .write path text) =>
    if (readOnlyBy root earlier).contains (place root path) then none
    else some (place root path, text)

/-- The path that a call writes to, joined to the root; a write that is refused writes to none. -/
def written? (root : Path) : List Call × Call → Option Path
  | (earlier, .write path _) =>
    if (readOnlyBy root earlier).contains (place root path) then none else some (root.join path)
  | _ => none

/-- The text that was stored last at a place. -/
def latest? (root : Path) (calls : List Call) (key : Key) : Option Text :=
  (((turns calls).filterMap (stored? root)).filter (·.1 = key)).getLast?.map Prod.snd

variable {memory : Memory} {path : Path}

/-- A path as the store sees it is the path joined to the root. -/
theorem locate_eq_join (memory : Memory) (path : Path) :
    memory.locate path = memory.root.join path := by
  rw [locate]
  split
  · rename_i absolute
    exact (Path.join_of_isAbsolute memory.root absolute).symm
  · rfl

/-- The store keeps a path's text under the place that the path leads to. -/
theorem key_eq_place (memory : Memory) (path : Path) :
    memory.key path = place memory.root path := by
  rw [key, locate_eq_join, place]

/-- One call more comes last, with all the others before it. -/
theorem turnsFrom_concat (earlier calls : List Call) (call : Call) :
    turnsFrom earlier (calls ++ [call]) =
      turnsFrom earlier calls ++ [(earlier ++ calls, call)] := by
  induction calls generalizing earlier with
  | nil => simp [turnsFrom]
  | cons first calls ih => simp [turnsFrom, ih]

/-- One call more comes last, with all the others before it. -/
theorem turns_concat (calls : List Call) (call : Call) :
    turns (calls ++ [call]) = turns calls ++ [(calls, call)] :=
  turnsFrom_concat [] calls call

/-- What a store keeps of the calls made to it. -/
def state (root : Path) (calls : List Call) : Memory where
  root := root
  files := ((turns calls).filterMap (stored? root)).reverse
  unreadable := (unreadableBy root calls).reverse
  readOnly := (readOnlyBy root calls).reverse
  writes := (turns calls).filterMap (written? root)

/-- With one member more a list gives what that member gives as well. -/
theorem filterMap_concat {α β : Type} (give : α → Option β) (members : List α) (last : α) :
    (members ++ [last]).filterMap give = members.filterMap give ++ (give last).toList := by
  cases given : give last <;> simp [given]

/-- One call more adds what it stores, marks and writes. -/
theorem state_concat (root : Path) (calls : List Call) (call : Call) :
    state root (calls ++ [call]) =
      { root := root
        files := (stored? root (calls, call)).toList ++ (state root calls).files
        unreadable := (call.spoils? root).toList ++ (state root calls).unreadable
        readOnly := (call.locks? root).toList ++ (state root calls).readOnly
        writes := (state root calls).writes ++ (written? root (calls, call)).toList } := by
  have turned {α : Type} (given : Option α) : given.toList.reverse = given.toList := by
    cases given <;> rfl
  simp only [state, turns_concat, unreadableBy, readOnlyBy, filterMap_concat, List.reverse_append,
    turned]

/-- A write through the operations of the store is refused for a read-only file, which leaves the
store as it is, and is made otherwise. -/
theorem run_write (memory : Memory) (path : Path) (text : Text) :
    ((store.write path text).run memory).run =
      if memory.key path ∈ memory.readOnly then (.error (.readOnly (memory.locate path)), memory)
      else (.ok (), memory.written path text) := by
  have write := write_eq memory path text
  by_cases refused : memory.key path ∈ memory.readOnly
  · rw [if_pos refused] at write ⊢
    exact congrArg Id.run (Store.run_write_ofState_error isFile read Memory.write write)
  · rw [if_neg refused] at write ⊢
    exact congrArg Id.run (Store.run_write_ofState isFile read Memory.write write)

/-- What a store keeps of the calls made to it tells what it keeps after one more. -/
theorem call_state (root : Path) (calls : List Call) (call : Call) :
    (state root calls).call call = state root (calls ++ [call]) := by
  have key (path : Path) : (state root calls).key path = place root path := key_eq_place _ path
  rw [state_concat]
  cases call with
  | addFile path text =>
    rw [Memory.call, addFile, key]
    simp [stored?, written?, Call.spoils?, Call.locks?, state]
  | addUnreadable path =>
    rw [Memory.call, addUnreadable, addFile, key]
    simp [stored?, written?, Call.spoils?, Call.locks?, state]
  | makeReadOnly path =>
    rw [Memory.call, makeReadOnly, key]
    simp [stored?, written?, Call.spoils?, Call.locks?, state]
  | write path text =>
    have marked : (state root calls).key path ∈ (state root calls).readOnly ↔
        place root path ∈ readOnlyBy root calls := by
      rw [key]
      exact List.mem_reverse
    simp only [Memory.call, run_write, marked]
    by_cases refused : place root path ∈ readOnlyBy root calls
    · rw [if_pos refused]
      simp [stored?, written?, refused, Call.spoils?, Call.locks?, state]
    · rw [if_neg refused, written, addFile, key, locate_eq_join]
      simp [stored?, written?, refused, Call.spoils?, Call.locks?, state]

/-- A store keeps of the calls made to it what they stored, marked and wrote. -/
theorem after_eq_state (root : Path) (calls : List Call) : after root calls = state root calls := by
  have behind (earlier : List Call) :
      calls.foldl call (state root earlier) = state root (earlier ++ calls) := by
    induction calls generalizing earlier with
    | nil => simp
    | cons first calls ih => rw [List.foldl_cons, call_state, ih, List.append_assoc]; rfl
  exact behind []

/-- Of the entries of a key the one that was put in last is found. -/
theorem lookup_reverse (entries : List (Key × Text)) (key : Key) :
    entries.reverse.lookup key = (entries.filter (·.1 = key)).getLast?.map Prod.snd := by
  induction entries with
  | nil => rfl
  | cons entry entries ih =>
    obtain ⟨other, text⟩ := entry
    rw [List.reverse_cons, List.lookup_append, ih]
    by_cases same : other = key
    · rw [List.filter_cons_of_pos (by simpa using same), List.getLast?_cons]
      cases (entries.filter (·.1 = key)).getLast? <;> simp [same]
    · have alone : [(other, text)].lookup key = none := by simp [Ne.symm same]
      rw [List.filter_cons_of_neg (by simpa using same), alone, Option.or_none]

/-- A read gives the text that is stored at a path that is not marked as unreadable. -/
theorem read_eq_ok_iff {text : Text} : memory.read path = .ok text ↔
    memory.key path ∉ memory.unreadable ∧ memory.contents path = some text := by
  rw [read]
  by_cases marked : memory.key path ∈ memory.unreadable
  · simp [marked]
  · cases stored : memory.contents path <;> simp [marked]

/-- A read fails at a path that is marked as unreadable or that no text is stored at. -/
theorem exists_read_eq_error_iff : (∃ fault, memory.read path = .error fault) ↔
    memory.key path ∈ memory.unreadable ∨ memory.contents path = none := by
  rw [read]
  by_cases marked : memory.key path ∈ memory.unreadable
  · simp [marked]
  · cases stored : memory.contents path <;> simp [marked]

/-- What a store in memory answers follows from the calls made to it, whatever their order. At a path
stands the text of the last call that stored one where the path leads, and a file is there exactly when
there is such a call. A write is refused exactly where some call has made the file read-only, and then
changes nothing. A read fails exactly where some call has marked the file as unreadable or no text is
stored, and gives the text otherwise. The writes that went through are recorded in order. -/
theorem after_calls (root : Path) (calls : List Call) (path : Path) :
    let memory := after root calls
    memory.contents path = latest? root calls (place root path) ∧
      (memory.isFile path = true ↔ ∃ text, memory.contents path = some text) ∧
      (∀ text, let (answer, later) := ((store.write path text).run memory).run
        (answer = .ok () ↔ place root path ∉ readOnlyBy root calls) ∧
          (answer ≠ .ok () → later = memory)) ∧
      ((∃ fault, memory.read path = .error fault) ↔
        place root path ∈ unreadableBy root calls ∨ memory.contents path = none) ∧
      (∀ text, memory.read path = .ok text ↔
        place root path ∉ unreadableBy root calls ∧ memory.contents path = some text) ∧
      memory.writes = (turns calls).filterMap (written? root) := by
  intro memory
  have kept : memory = state root calls := after_eq_state root calls
  have key : memory.key path = place root path := by
    rw [key_eq_place, kept]
    rfl
  have unreadable : memory.key path ∈ memory.unreadable ↔
      place root path ∈ unreadableBy root calls := by
    rw [key, kept]
    exact List.mem_reverse
  have readOnly : memory.key path ∈ memory.readOnly ↔
      place root path ∈ readOnlyBy root calls := by
    rw [key, kept]
    exact List.mem_reverse
  refine ⟨?_, Option.isSome_iff_exists, fun text => ?_, ?_, fun text => ?_, by rw [kept]; rfl⟩
  · rw [contents, key, kept]
    exact lookup_reverse _ _
  · simp only [run_write, readOnly]
    by_cases refused : place root path ∈ readOnlyBy root calls <;> simp [refused]
  · rw [exists_read_eq_error_iff, unreadable]
  · rw [read_eq_ok_iff, unreadable]

/-- Two spellings of a path meet, and a step up leads elsewhere. -/
example :
    let memory := after defaultRoot [.addFile (.ofString "a//b") "old".toList,
      .write (.ofString "/mock/a/./b/") "new".toList]
    memory.contents (.ofString "a/b") = some "new".toList ∧
      memory.contents (.ofString "a/c/../b") = none := by decide

end ScreenRetrofit.Memory
