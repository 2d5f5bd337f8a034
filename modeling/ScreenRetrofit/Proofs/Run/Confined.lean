import Mathlib.Data.List.Nodup
import ScreenRetrofit.Proofs.Config.Defect
import ScreenRetrofit.Proofs.Path.Parent
import ScreenRetrofit.Proofs.Run.Visits
import ScreenRetrofit.Store.Memory

/-!
# Runs stay in their directory

A run looks for every file at the path of its name in the directory and at no other path
(`paths_perform`, `perform_within`). Where the configuration has no defect, these paths differ and
the directory is the parent of each, so a store that refuses all other paths makes no difference to
the run. What the check accepts, what it tells otherwise and what follows for the run are stated
together in `accepts_exactly_safe`.
-/

namespace ScreenRetrofit

variable {m : Type → Type} [Monad m] {config : Config} {baseDir : Path} {file : Text}

/-- Where a run looks for its files, in order. -/
def Config.paths (config : Config) : List Path :=
  config.files.map fun file => config.baseDir.join ⟨file⟩

/-- Whether a path leads to an entry of a directory, however the directory is spelled. -/
def Path.isIn (path directory : Path) : Bool := path.parent?.map parts = some directory.parts

/-- A plain name joined to a directory leads to an entry of it. -/
theorem Path.isIn_join_plain (directory : baseDir.text ≠ []) (plain : isPlainName file = true) :
    (baseDir.join ⟨file⟩).isIn baseDir = true := by
  obtain ⟨parent, above, same⟩ := exists_parent?_join_plain directory plain
  simp [isIn, above, same]

/-- A store with all paths closed that do not lead to an entry of a directory. -/
def Store.within (store : Store m) (directory : Path) : Store m where
  isFile path := if path.isIn directory then store.isFile path else pure false
  read path := if path.isIn directory then store.read path else pure (.error (.absent path))
  write path text :=
    if path.isIn directory then store.write path text else pure (.error (.readOnly path))

namespace Visit

/-- A visit asks for nothing but its own path. -/
theorem perform_within (store : Store m) (pipeline : Screen.Pipeline)
    (inside : (baseDir.join ⟨file⟩).isIn baseDir = true) :
    perform (store.within baseDir) pipeline baseDir file = perform store pipeline baseDir file := by
  simp only [perform, Store.within, inside, if_true]

variable [LawfulMonad m]

/-- A visit reports the path of its file in the directory, whatever it comes to. -/
theorem path_perform (store : Store m) (pipeline : Screen.Pipeline) (baseDir : Path)
    (file : Text) : path <$> perform store pipeline baseDir file =
      (fun _ => baseDir.join ⟨file⟩) <$> perform store pipeline baseDir file := by
  simp only [perform, map_bind]
  refine congrArg _ (funext fun found => ?_)
  cases found with
  | false => simp
  | true =>
    simp only [if_true, map_bind]
    refine congrArg _ (funext fun read => ?_)
    cases read with
    | error fault => simp
    | ok source =>
      simp only
      split
      · simp
      · simp only [map_bind]
        refine congrArg _ (funext fun written => ?_)
        cases written <;> simp

end Visit

namespace Run

variable [LawfulMonad m]

/-- Work that is the same on every member of a list is the same on the list. -/
theorem mapM_congr_of_mem {α β : Type} {work other : α → m β} {members : List α}
    (same : ∀ member ∈ members, work member = other member) :
    members.mapM work = members.mapM other := by
  induction members with
  | nil => simp
  | cons member members ih =>
    rw [List.mapM_cons, List.mapM_cons, same member List.mem_cons_self,
      ih fun later listed => same later (List.mem_cons_of_mem member listed)]

/-- Where each piece of work shows the same whatever it comes to, the work on a list does. -/
theorem map_mapM_eq_of_forall {α β γ : Type} {work : α → m β} {shown : β → γ} {known : α → γ}
    (same : ∀ member, shown <$> work member = (fun _ => known member) <$> work member)
    (members : List α) : List.map shown <$> members.mapM work =
      (fun _ => members.map known) <$> members.mapM work := by
  induction members with
  | nil => simp
  | cons member members ih =>
    calc List.map shown <$> (member :: members).mapM work
        = (do
            let first ← shown <$> work member
            let others ← List.map shown <$> members.mapM work
            return first :: others) := by simp [List.mapM_cons]
      _ = (do
            let first ← (fun _ => known member) <$> work member
            let others ← (fun _ => members.map known) <$> members.mapM work
            return first :: others) := by rw [same, ih]
      _ = (fun _ => (member :: members).map known) <$> (member :: members).mapM work := by
        simp [List.mapM_cons]

/-- A run looks for its files at the paths of its configuration. -/
theorem paths_perform (store : Store m) (config : Config) :
    (fun run => run.visits.map Visit.path) <$> perform store config =
      (fun _ => config.paths) <$> perform store config := by
  calc (fun run => run.visits.map Visit.path) <$> perform store config
      = List.map Visit.path <$> visits <$> perform store config := by
        rw [Functor.map_map]
    _ = (fun _ => config.paths) <$> visits <$> perform store config := by
        rw [visits_perform]
        exact map_mapM_eq_of_forall (Visit.path_perform store _ config.baseDir) config.files
    _ = (fun _ => config.paths) <$> perform store config := by
        rw [Functor.map_map]

/-- A run over a configuration without a defect is the same when the store is closed outside its
directory. -/
theorem perform_within (store : Store m) (fit : config.defect? = none) :
    perform (store.within config.baseDir) config = perform store config := by
  obtain ⟨directory, _, plain, _⟩ := Config.defect?_eq_none_iff.mp fit
  have same : ∀ group ∈ config.groups,
      (do
        let visits ← group.files.mapM (Visit.perform (store.within config.baseDir)
          Screen.Pipeline.videoRetrofit config.baseDir)
        return (⟨group.subject, visits⟩ : GroupVisits)) =
      (do
        let visits ← group.files.mapM (Visit.perform store
          Screen.Pipeline.videoRetrofit config.baseDir)
        return ⟨group.subject, visits⟩) := by
    intro group listed
    have inside : ∀ file ∈ group.files, (config.baseDir.join ⟨file⟩).isIn config.baseDir = true :=
      fun file member => Path.isIn_join_plain directory
        (plain file (List.mem_flatMap_of_mem listed member))
    rw [mapM_congr_of_mem fun file member => Visit.perform_within store _ (inside file member)]
  rw [perform, perform, mapM_congr_of_mem same]

end Run

namespace Config

/-- Plain names listed once lead to paths with different parts. -/
theorem nodup_parts_paths (fit : config.defect? = none) : (config.paths.map Path.parts).Nodup := by
  obtain ⟨directory, _, plain, distinct⟩ := defect?_eq_none_iff.mp fit
  have parts : config.paths.map Path.parts =
      config.files.map fun file => config.baseDir.parts ++ [Path.Part.name file] := by
    rw [paths, List.map_map]
    exact List.map_congr_left fun file listed => Path.parts_join_plain directory (plain file listed)
  rw [parts]
  refine List.Nodup.map (fun file other same => ?_) distinct
  exact Path.Part.name.inj (List.head_eq_of_cons_eq (List.append_cancel_left same))

/-- A configuration without a defect is one that names a directory and lists safe names, at least
one and none of them twice in all groups. Otherwise the defect is told of the directory before the
files, and of the files before the names; of these it is the first that is not safe or repeats one
before it. The paths of a run are those of the configuration; where it has no defect they differ,
each has the directory for its parent and the listed name for its own, and the run is the same over
a store that is closed outside the directory. -/
theorem accepts_exactly_safe [LawfulMonad m] (store : Store m) (config : Config) :
    (config.defect? = none ↔ config.baseDir.text ≠ [] ∧ config.files ≠ [] ∧
      (∀ name ∈ config.files, Path.SafeName name) ∧ config.files.Nodup) ∧
    (config.defect? = some .emptyBaseDir ↔ config.baseDir.text = []) ∧
    (config.defect? = some .noFiles ↔ config.baseDir.text ≠ [] ∧ config.files = []) ∧
    (∀ name, config.defect? = some (.invalidFileName name) ↔
      config.baseDir.text ≠ [] ∧ ∃ before after, config.files = before ++ name :: after ∧
        (∀ other ∈ before, Path.SafeName other) ∧ before.Nodup ∧ ¬ Path.SafeName name) ∧
    (∀ name, config.defect? = some (.duplicateFile name) ↔
      config.baseDir.text ≠ [] ∧ ∃ before after, config.files = before ++ name :: after ∧
        (∀ other ∈ before, Path.SafeName other) ∧ before.Nodup ∧
        Path.SafeName name ∧ name ∈ before) ∧
    ((fun run => run.visits.map Visit.path) <$> Run.perform store config =
      (fun _ => config.paths) <$> Run.perform store config) ∧
    (config.defect? = none →
      (config.paths.map Path.parts).Nodup ∧
      (∀ file ∈ config.files,
        (∃ parent, (config.baseDir.join ⟨file⟩).parent? = some parent ∧
          parent.parts = config.baseDir.parts) ∧
        (config.baseDir.join ⟨file⟩).fileName? = some file) ∧
      Run.perform (store.within config.baseDir) config = Run.perform store config) := by
  refine ⟨?_, defect?_eq_emptyBaseDir_iff, defect?_eq_noFiles_iff,
    fun name => defect?_eq_invalidFileName_iff, fun name => defect?_eq_duplicateFile_iff,
    Run.paths_perform store config, fun fit => ?_⟩
  · simp only [defect?_eq_none_iff, Path.isPlainName_iff_safeName]
  · obtain ⟨directory, _, plain, _⟩ := defect?_eq_none_iff.mp fit
    refine ⟨nodup_parts_paths fit, fun file listed => ⟨?_, ?_⟩, Run.perform_within store fit⟩
    · exact Path.exists_parent?_join_plain directory (plain file listed)
    · exact Path.fileName?_join_plain directory (plain file listed)

/-- Two screens of two subjects in a directory that is spelled with a dot and two slashes. -/
def spelledApart : Config where
  baseDir := .ofString "./games//."
  groups := [⟨"math".toList, ["sums.dart".toList]⟩, ⟨"words".toList, ["rhymes.dart".toList]⟩]

/-- The screens of a directory spelled with dots and slashes are found in it. -/
theorem accepts_exactly_safe_spelledApart : spelledApart.defect? = none ∧
    (spelledApart.paths.map Path.parts).Nodup ∧
    (∀ file ∈ spelledApart.files, (spelledApart.baseDir.join ⟨file⟩).fileName? = some file) ∧
    Run.perform (Memory.store.within spelledApart.baseDir) spelledApart =
      Run.perform Memory.store spelledApart := by
  have fit : spelledApart.defect? = none := by decide
  obtain ⟨_, _, _, _, _, _, consequences⟩ := accepts_exactly_safe Memory.store spelledApart
  obtain ⟨distinct, placed, confined⟩ := consequences fit
  exact ⟨fit, distinct, fun file listed => (placed file listed).2, confined⟩

end Config

end ScreenRetrofit
