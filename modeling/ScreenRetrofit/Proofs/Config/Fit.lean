import ScreenRetrofit.Config.Basic

/-!
# Configurations fit for a run

A configuration has no defect exactly when it names a directory and lists plain file names, at least
one and none of them twice (`defect?_eq_none_iff`). The order and the groups of the names do not
matter.
-/

namespace ScreenRetrofit.Config

variable {config other : Config}

/-- Names have no defect when they are plain and neither listed twice nor seen before. -/
theorem firstDefect?_eq_none_iff (seen names : List Text) : firstDefect? seen names = none ↔
    (∀ name ∈ names, Path.isPlainName name = true ∧ name ∉ seen) ∧ names.Nodup := by
  induction names generalizing seen with
  | nil => simp [firstDefect?]
  | cons name names ih =>
    rw [firstDefect?]
    by_cases plain : Path.isPlainName name = true
    · by_cases listed : name ∈ seen
      · simp [plain, listed]
      · simp only [plain, listed, Bool.not_true, Bool.false_eq_true, if_false, ih,
          List.nodup_cons, List.mem_cons]
        grind
    · simp [plain]

/-- A configuration is fit for a run when it names a directory and lists plain names once each. -/
theorem defect?_eq_none_iff : config.defect? = none ↔
    config.baseDir.text ≠ [] ∧ config.files ≠ [] ∧
      (∀ name ∈ config.files, Path.isPlainName name = true) ∧ config.files.Nodup := by
  rw [defect?]
  by_cases directory : config.baseDir.text = []
  · simp [directory]
  · by_cases files : config.files = []
    · simp [directory, files]
    · simp [directory, files, firstDefect?_eq_none_iff]

/-- What is fit for a run stays so with its files in another order. -/
theorem defect?_eq_none_of_perm (fit : config.defect? = none)
    (directory : other.baseDir = config.baseDir) (perm : other.files.Perm config.files) :
    other.defect? = none := by
  obtain ⟨named, listed, plain, distinct⟩ := defect?_eq_none_iff.mp fit
  refine defect?_eq_none_iff.mpr ⟨directory ▸ named, ?_, ?_, perm.nodup_iff.mpr distinct⟩
  · intro none
    rw [none, List.nil_perm] at perm
    exact listed perm
  · exact fun name member => plain name (perm.mem_iff.mp member)

end ScreenRetrofit.Config
