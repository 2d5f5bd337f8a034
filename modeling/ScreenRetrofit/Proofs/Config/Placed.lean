import ScreenRetrofit.Config.File
import ScreenRetrofit.Proofs.Config.Defect
import ScreenRetrofit.Proofs.Path.Parent

/-!
# The check of a configuration that was read from a file

A configuration is checked for the same defects where it is read from a text and where it is read
from a file with that text, but for one: a missing directory is not told of a file whose path has
more than one part (`check_ofFile_iff`). There the directory that holds the file stands in for the
missing one, and the defect that is told, if any, is the one of the files.
-/

namespace ScreenRetrofit.Config

variable {path : Path} {config : Config} {text : Text}

/-- The first defect of some files in a directory, if there is one. -/
def filesDefect? (files : List Text) : Option Defect :=
  if files = [] then some .noFiles else firstDefect? [] files

/-- A configuration has the defects of its files where it has a directory. -/
theorem defect?_of_baseDir (directory : config.baseDir.text ≠ []) :
    config.defect? = filesDefect? config.files := by
  rw [defect?, if_neg directory, filesDefect?]

/-- A missing directory is no defect of the files. -/
theorem filesDefect?_ne_emptyBaseDir (files : List Text) :
    filesDefect? files ≠ some .emptyBaseDir := by
  let listed : Config := ⟨⟨['/']⟩, [⟨[], files⟩]⟩
  have directory : listed.baseDir.text ≠ [] := List.cons_ne_nil _ _
  have same : listed.files = files := List.append_nil files
  rw [← same, ← defect?_of_baseDir directory, ne_eq, defect?_eq_emptyBaseDir_iff]
  exact directory

/-- Placing a configuration keeps its files. -/
theorem files_placedAt (path : Path) (config : Config) :
    (config.placedAt path).files = config.files := by
  rw [placedAt]
  split
  · rfl
  · split <;> rfl

/-- A configuration is placed without a directory when it has none and the path of its file has no
part above the last. -/
theorem baseDir_placedAt_eq_nil_iff : (config.placedAt path).baseDir.text = [] ↔
    config.baseDir.text = [] ∧ path.parts.length ≤ 1 := by
  rw [← Nat.not_lt, ← Path.exists_parent?_ne_nil_iff, placedAt]
  by_cases absolute : config.baseDir.isAbsolute = true
  · have directory := Path.ne_nil_of_isAbsolute absolute
    simp [absolute, directory]
  · rw [if_neg absolute]
    cases above : path.parent? with
    | none => simp
    | some parent => simp [Path.join_text_eq_nil_iff, and_comm]

/-- What is read from a file is what its text describes, placed. -/
theorem ofFile_eq_ok (path : Path) (described : ofText text = .ok config) :
    ofFile path (.ok text) = .ok (config.placedAt path) := by
  simp [ofFile, described, Except.mapError, bind, Except.bind, pure, Except.pure]

/-- Where a directory is given, or the directory of the file stands in for it, a placed
configuration has the defects of its files. -/
theorem defect?_placedAt (directory : config.baseDir.text ≠ [] ∨ 1 < path.parts.length) :
    (config.placedAt path).defect? = filesDefect? config.files := by
  have placed : (config.placedAt path).baseDir.text ≠ [] := by
    rw [ne_eq, baseDir_placedAt_eq_nil_iff, not_and_or, Nat.not_le]
    exact directory
  rw [defect?_of_baseDir placed, files_placedAt]

/-- The check of what is read from a file has the result of the check of what its text describes
exactly when a directory is given or the path of the file has no part above the last. Otherwise the
text is told to lack a directory, and the file is told the defect of its names, if they have one. -/
theorem check_ofFile_iff (path : Path) (described : ofText text = .ok config) :
    ∃ placed, ofFile path (.ok text) = .ok placed ∧
      (placed.defect? = config.defect? ↔ config.baseDir.text ≠ [] ∨ path.parts.length ≤ 1) ∧
      (config.baseDir.text = [] → 1 < path.parts.length →
        config.defect? = some .emptyBaseDir ∧ placed.defect? = filesDefect? config.files) := by
  refine ⟨config.placedAt path, ofFile_eq_ok path described, ?_⟩
  by_cases given : config.baseDir.text = []
  · have told : config.defect? = some .emptyBaseDir := defect?_eq_emptyBaseDir_iff.mpr given
    by_cases single : path.parts.length ≤ 1
    · have same : (config.placedAt path).defect? = some .emptyBaseDir :=
        defect?_eq_emptyBaseDir_iff.mpr (baseDir_placedAt_eq_nil_iff.mpr ⟨given, single⟩)
      exact ⟨iff_of_true (same.trans told.symm) (.inr single),
        fun _ several => absurd single (Nat.not_le.mpr several)⟩
    · -- The directory of the file is taken for the missing one.
      have names : (config.placedAt path).defect? = filesDefect? config.files :=
        defect?_placedAt (.inr (Nat.not_le.mp single))
      have apart : (config.placedAt path).defect? ≠ config.defect? := by
        rw [names, told]
        exact filesDefect?_ne_emptyBaseDir config.files
      have few : ¬ (config.baseDir.text ≠ [] ∨ path.parts.length ≤ 1) :=
        not_or.mpr ⟨not_not.mpr given, single⟩
      exact ⟨iff_of_false apart few, fun _ _ => ⟨told, names⟩⟩
  · have names : (config.placedAt path).defect? = filesDefect? config.files :=
      defect?_placedAt (.inl given)
    have same := names.trans (defect?_of_baseDir given).symm
    exact ⟨iff_of_true same (.inl given), fun empty => absurd empty given⟩

/-- A configuration file that gives an empty directory. -/
def undirected : Text :=
  "base_dir = \"\"\n[[groups]]\nsubject = \"math\"\nfiles = [\"a.dart\"]\n".toList

/-- What the file with an empty directory describes. -/
def unplaced : Config := ⟨⟨[]⟩, [⟨"math".toList, ["a.dart".toList]⟩]⟩

/-- The file with an empty directory is read. -/
theorem ofText_undirected : ofText undirected = .ok unplaced := by
  decide +kernel

/-- The file with an empty directory is told to have none when its name alone leads to it, and
passes the check in a directory. -/
theorem check_ofFile_undirected : ofText undirected = .ok unplaced ∧
    (∃ placed, ofFile (Path.ofString "retrofit.toml") (.ok undirected) = .ok placed ∧
      placed.defect? = unplaced.defect?) ∧
    ∃ placed, ofFile (Path.ofString "conf/retrofit.toml") (.ok undirected) = .ok placed ∧
      unplaced.defect? = some .emptyBaseDir ∧ placed.defect? = none := by
  refine ⟨ofText_undirected, ?_, ?_⟩
  · obtain ⟨placed, read, agree, _⟩ :=
      check_ofFile_iff (Path.ofString "retrofit.toml") ofText_undirected
    exact ⟨placed, read, agree.mpr (.inr (by decide))⟩
  · obtain ⟨placed, read, _, unlike⟩ :=
      check_ofFile_iff (Path.ofString "conf/retrofit.toml") ofText_undirected
    obtain ⟨told, names⟩ := unlike rfl (by decide)
    exact ⟨placed, read, told, names.trans (by decide)⟩

/-- The check of a file does not always have the result of the check of its text. -/
theorem check_undirected_unlike : ¬ ∀ (path : Path) (text : Text) (config : Config),
    ofText text = .ok config →
      ∃ placed, ofFile path (.ok text) = .ok placed ∧ placed.defect? = config.defect? := by
  intro alike
  obtain ⟨placed, read, same⟩ :=
    alike (Path.ofString "conf/retrofit.toml") undirected unplaced ofText_undirected
  rw [ofFile_eq_ok _ ofText_undirected, Except.ok.injEq] at read
  rw [← read] at same
  revert same
  decide

end ScreenRetrofit.Config
