import Mathlib.Data.List.Induction
import ScreenRetrofit.Proofs.Config.Fit
import ScreenRetrofit.Proofs.Path.Joined

/-!
# The defect that is told

Of several defects of a configuration the first one is told: a missing directory before missing
files, and both before the names, which are looked at in order. A name offends when it is not safe
or repeats one before it (`Offends`), and the names before the one that is told are safe and differ
(`firstDefect?_eq_some_iff`). A name is safe by its spelling alone, without a view of it as a path
(`isPlainName_iff_safeName`).
-/

namespace ScreenRetrofit

/-- A name that leads from a directory to an entry of it, on any system. -/
structure Path.SafeName (name : Text) : Prop where
  /-- It has a character. -/
  some : name ≠ []
  /-- It has no slash. -/
  noSlash : '/' ∉ name
  /-- It has no backslash. -/
  noBackslash : '\\' ∉ name
  /-- It is not the directory itself. -/
  notHere : name ≠ ['.']
  /-- It is not the directory above. -/
  notUp : name ≠ ['.', '.']

/-- Plain names are the safe ones. -/
theorem Path.isPlainName_iff_safeName {name : Text} :
    isPlainName name = true ↔ SafeName name := by
  have part : Part.ofPiece? name = some (.name name) ↔
      name ≠ [] ∧ name ≠ ['.'] ∧ name ≠ ['.', '.'] := by
    rw [Part.ofPiece?]
    split
    · rename_i filler
      rcases (Bool.or_eq_true _ _).mp filler with empty | dot
      · simp [List.isEmpty_iff.mp empty]
      · simp [of_decide_eq_true dot]
    · rename_i step
      rw [isFiller, Bool.or_eq_true, List.isEmpty_iff, decide_eq_true_iff, not_or] at step
      by_cases up : name = ['.', '.']
      · simp [up]
      · simp [up, step]
  rw [isPlainName_iff, part]
  constructor
  · rintro ⟨noSlash, noBackslash, some, notHere, notUp⟩
    exact ⟨some, noSlash, noBackslash, notHere, notUp⟩
  · rintro ⟨some, noSlash, noBackslash, notHere, notUp⟩
    exact ⟨noSlash, noBackslash, some, notHere, notUp⟩

namespace Config

variable {config : Config} {seen before : List Text} {name : Text} {defect : Defect}

/-- What a name is told for, given the names before it. -/
inductive Offends (before : List Text) (name : Text) : Defect → Prop
  /-- The name is not safe. -/
  | malformed (unfit : ¬ Path.SafeName name) : Offends before name (.invalidFileName name)
  /-- The name is one of those before it. -/
  | repeated (safe : Path.SafeName name) (listed : name ∈ before) :
    Offends before name (.duplicateFile name)

/-- It does not matter in what order the names before one were seen. -/
theorem Offends.of_mem_iff {other : List Text} (offends : Offends before name defect)
    (same : name ∈ before ↔ name ∈ other) : Offends other name defect := by
  cases offends with
  | malformed unfit => exact .malformed unfit
  | repeated safe listed => exact .repeated safe (same.mp listed)

/-- A single name is told when it offends. -/
theorem firstDefect?_singleton_iff : firstDefect? seen [name] = some defect ↔
    Offends seen name defect := by
  rw [firstDefect?, firstDefect?]
  by_cases plain : Path.isPlainName name = true
  · have safe := Path.isPlainName_iff_safeName.mp plain
    by_cases listed : name ∈ seen
    · simp only [plain, listed, Bool.not_true, Bool.false_eq_true, if_false, if_true,
        Option.some.injEq]
      refine ⟨fun told => told ▸ .repeated safe listed, fun offends => ?_⟩
      cases offends with
      | malformed unfit => exact absurd safe unfit
      | repeated _ _ => rfl
    · simp only [plain, listed, Bool.not_true, Bool.false_eq_true, if_false, reduceCtorEq,
        false_iff]
      intro offends
      cases offends with
      | malformed unfit => exact unfit safe
      | repeated _ listed' => exact listed listed'
  · have unfit := mt Path.isPlainName_iff_safeName.mpr plain
    simp only [plain, Bool.not_false, if_true, Option.some.injEq]
    refine ⟨fun told => told ▸ .malformed unfit, fun offends => ?_⟩
    cases offends with
    | malformed _ => rfl
    | repeated safe _ => exact absurd safe unfit

/-- The names behind others are looked at when those have no defect, and then those count as
seen. -/
theorem firstDefect?_append (seen before names : List Text) :
    firstDefect? seen (before ++ names) =
      (firstDefect? seen before).or (firstDefect? (before.reverse ++ seen) names) := by
  induction before generalizing seen with
  | nil => rfl
  | cons name before ih =>
    rw [List.cons_append, firstDefect?, firstDefect?, ih]
    split
    · rfl
    · split
      · rfl
      · simp

/-- The name that is told is the first that offends. -/
theorem firstDefect?_eq_some_iff (seen names : List Text) (defect : Defect) :
    firstDefect? seen names = some defect ↔ ∃ before name after,
      names = before ++ name :: after ∧ firstDefect? seen before = none ∧
        Offends (seen ++ before) name defect := by
  have told (before : List Text) (name : Text) :
      firstDefect? (before.reverse ++ seen) [name] = some defect ↔
        Offends (seen ++ before) name defect := by
    rw [firstDefect?_singleton_iff]
    have same : name ∈ before.reverse ++ seen ↔ name ∈ seen ++ before := by
      simp [or_comm]
    exact ⟨fun offends => offends.of_mem_iff same, fun offends => offends.of_mem_iff same.symm⟩
  constructor
  · intro found
    -- Names are added at the end, so that the first names are those that have been looked at.
    induction names using List.reverseRecOn with
    | nil => simp [firstDefect?] at found
    | append_singleton names name ih =>
      rw [firstDefect?_append] at found
      cases first : firstDefect? seen names with
      | some earlier =>
        rw [first, Option.some_or] at found
        obtain ⟨before, offender, after, cut, clean, offends⟩ := ih (first.trans found)
        exact ⟨before, offender, after ++ [name], by simp [cut], clean, offends⟩
      | none =>
        rw [first, Option.none_or, told] at found
        exact ⟨names, name, [], rfl, first, found⟩
  · rintro ⟨before, name, after, rfl, clean, offends⟩
    rw [firstDefect?_append, clean, Option.none_or, ← List.singleton_append, firstDefect?_append,
      (told before name).mpr offends, Option.some_or]

/-- Some names are safe and differ. -/
def Listable (names : List Text) : Prop := (∀ name ∈ names, Path.SafeName name) ∧ names.Nodup

/-- Names have no defect when they are safe and differ. -/
theorem firstDefect?_nil_eq_none_iff (names : List Text) :
    firstDefect? [] names = none ↔ Listable names := by
  simp [firstDefect?_eq_none_iff, Listable, Path.isPlainName_iff_safeName]

/-- The name that is told has only safe and different names before it. -/
theorem firstDefect?_nil_eq_some_iff (names : List Text) (defect : Defect) :
    firstDefect? [] names = some defect ↔ ∃ before name after,
      names = before ++ name :: after ∧ Listable before ∧ Offends before name defect := by
  simp only [firstDefect?_eq_some_iff, firstDefect?_nil_eq_none_iff, List.nil_append]

/-- The defects of a configuration, in the order in which they are told. -/
theorem defect?_eq_some_iff : config.defect? = some defect ↔
    (config.baseDir.text = [] ∧ defect = .emptyBaseDir) ∨
    (config.baseDir.text ≠ [] ∧ config.files = [] ∧ defect = .noFiles) ∨
    (config.baseDir.text ≠ [] ∧ ∃ before name after,
      config.files = before ++ name :: after ∧ Listable before ∧ Offends before name defect) := by
  rw [defect?]
  by_cases directory : config.baseDir.text = []
  · simp only [directory, if_true, Option.some.injEq, ne_eq, not_true, false_and, or_false,
      true_and]
    exact eq_comm
  · by_cases files : config.files = []
    · simp only [directory, files, if_false, if_true, Option.some.injEq, ne_eq, not_false_eq_true,
        true_and, false_and, false_or, List.nil_eq, List.append_eq_nil_iff, reduceCtorEq, and_false,
        exists_false, or_false]
      exact eq_comm
    · simp [directory, files, firstDefect?_nil_eq_some_iff]

/-- A missing directory is told before all. -/
theorem defect?_eq_emptyBaseDir_iff :
    config.defect? = some .emptyBaseDir ↔ config.baseDir.text = [] := by
  rw [defect?_eq_some_iff]
  constructor
  · rintro (⟨directory, _⟩ | ⟨_, _, other⟩ | ⟨_, _, _, _, _, _, offends⟩)
    · exact directory
    · cases other
    · cases offends
  · exact fun directory => .inl ⟨directory, rfl⟩

/-- Missing files are told where there is a directory. -/
theorem defect?_eq_noFiles_iff :
    config.defect? = some .noFiles ↔ config.baseDir.text ≠ [] ∧ config.files = [] := by
  rw [defect?_eq_some_iff]
  constructor
  · rintro (⟨_, other⟩ | ⟨directory, files, _⟩ | ⟨_, _, _, _, _, _, offends⟩)
    · cases other
    · exact ⟨directory, files⟩
    · cases offends
  · exact fun ⟨directory, files⟩ => .inr (.inl ⟨directory, files, rfl⟩)

/-- A name that is not safe is told where only safe and different names stand before it. -/
theorem defect?_eq_invalidFileName_iff : config.defect? = some (.invalidFileName name) ↔
    config.baseDir.text ≠ [] ∧ ∃ before after, config.files = before ++ name :: after ∧
      (∀ other ∈ before, Path.SafeName other) ∧ before.Nodup ∧ ¬ Path.SafeName name := by
  rw [defect?_eq_some_iff]
  constructor
  · rintro (⟨_, other⟩ | ⟨_, _, other⟩ | ⟨directory, before, _, after, cut, listable, offends⟩)
    · cases other
    · cases other
    · cases offends with
      | malformed unfit => exact ⟨directory, before, after, cut, listable.1, listable.2, unfit⟩
  · rintro ⟨directory, before, after, cut, safe, distinct, unfit⟩
    exact .inr (.inr ⟨directory, before, name, after, cut, ⟨safe, distinct⟩, .malformed unfit⟩)

/-- A repeated name is told where only safe and different names stand before it. -/
theorem defect?_eq_duplicateFile_iff : config.defect? = some (.duplicateFile name) ↔
    config.baseDir.text ≠ [] ∧ ∃ before after, config.files = before ++ name :: after ∧
      (∀ other ∈ before, Path.SafeName other) ∧ before.Nodup ∧
      Path.SafeName name ∧ name ∈ before := by
  rw [defect?_eq_some_iff]
  constructor
  · rintro (⟨_, other⟩ | ⟨_, _, other⟩ | ⟨directory, before, _, after, cut, listable, offends⟩)
    · cases other
    · cases other
    · cases offends with
      | repeated fit listed =>
        exact ⟨directory, before, after, cut, listable.1, listable.2, fit, listed⟩
  · rintro ⟨directory, before, after, cut, safe, distinct, fit, listed⟩
    exact .inr (.inr
      ⟨directory, before, name, after, cut, ⟨safe, distinct⟩, .repeated fit listed⟩)

end Config

end ScreenRetrofit
