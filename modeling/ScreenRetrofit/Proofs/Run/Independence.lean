import ScreenRetrofit.Proofs.Config.Fit
import ScreenRetrofit.Proofs.Run.Visit
import ScreenRetrofit.Proofs.Run.Visits
import ScreenRetrofit.Proofs.Screen.Rerun

/-!
# Files are visited independently

Plain names listed once lead to texts that the store keeps apart, so no visit of a run sees what
another one wrote. What a run has done up to some file is settled by the store as it was at the
start (`Settles`): one visit settles its own path (`settles_of_ends`), and a run is settled visit by
visit as long as the paths still to come hold what they held (`settles_onFiles`).

So every visit is the one made alone, and the order in which files are listed, or the groups that
they are listed in, cannot be told from the outcomes and the texts (`run_independent`).
-/

namespace ScreenRetrofit

open Screen (retrofit)

variable {initial current memory after : Memory} {visit : Visit} {visits : List Visit}
  {file : Text} {baseDir path : Path}

namespace Visit

/-- The visit to a file of a store that no other visit has been made to. -/
def alone (memory : Memory) (baseDir : Path) (file : Text) : Visit :=
  (onMemory Screen.Pipeline.videoRetrofit baseDir file memory).1

/-- The paths of the visits that rewrote a file, in order. -/
def updatedPaths (visits : List Visit) : List Path :=
  (visits.filter (·.outcome = .updated)).map Visit.path

/-- Visits to the files with some names, one after the other, with the store afterwards. -/
def onFiles (baseDir : Path) (files : List Text) (memory : Memory) : List Visit × Memory :=
  ((files.mapM (perform Memory.store Screen.Pipeline.videoRetrofit baseDir)).run memory).run

/-- The files behind the first are visited in the store that its visit leaves. -/
theorem onFiles_cons (baseDir : Path) (file : Text) (files : List Text) (memory : Memory) :
    onFiles baseDir (file :: files) memory =
      let (visit, middle) := onMemory Screen.Pipeline.videoRetrofit baseDir file memory
      let (visits, after) := onFiles baseDir files middle
      (visit :: visits, after) := by
  simp [onFiles, onMemory, List.mapM_cons]

/-- That some visits lead from one state of a store to another, as a state at the start settles it:
they write retrofits of the texts that it held to the paths of the files that they rewrite, in
order, and nothing else. -/
structure Settles (initial : Memory) (visits : List Visit) (before after : Memory) : Prop where
  /-- Root and marks are as before. -/
  sibling : before.Sibling after
  /-- The rewritten files are recorded as written to. -/
  writes : after.writes = before.writes ++ (updatedPaths visits).map initial.locate
  /-- The rewritten files hold the retrofits of what they held, the others what they did. -/
  contents : ∀ path, after.contents path =
    if initial.key path ∈ (updatedPaths visits).map initial.key then
      (initial.contents path).map retrofit
    else before.contents path

/-- The paths that visits one after the other rewrote are those of the first and of the others. -/
theorem updatedPaths_append (visits others : List Visit) :
    updatedPaths (visits ++ others) = updatedPaths visits ++ updatedPaths others := by
  rw [updatedPaths, List.filter_append, List.map_append, updatedPaths, updatedPaths]

namespace Settles

/-- Without a visit nothing changes. -/
theorem nil (initial memory : Memory) : Settles initial [] memory memory where
  sibling := .refl memory
  writes := (List.append_nil memory.writes).symm
  contents path := by simp [updatedPaths]

/-- A visit that rewrites no file changes nothing. -/
theorem of_kept (initial memory : Memory) (kept : visit.outcome ≠ .updated) :
    Settles initial [visit] memory memory where
  sibling := .refl memory
  writes := by simp [updatedPaths, kept]
  contents path := by simp [updatedPaths, kept]

/-- Visits one after the other are settled as the first and the others are. -/
theorem append {others : List Visit} {last : Memory} (first : Settles initial visits memory after)
    (second : Settles initial others after last) :
    Settles initial (visits ++ others) memory last where
  sibling := first.sibling.trans second.sibling
  writes := by
    rw [second.writes, first.writes, updatedPaths_append, List.map_append, List.append_assoc]
  contents path := by
    -- Whichever of the two wrote last, it wrote the retrofit of the text at the start.
    rw [second.contents, first.contents, updatedPaths_append, List.map_append]
    by_cases later : initial.key path ∈ (updatedPaths others).map initial.key
    · rw [if_pos later, if_pos (List.mem_append_right _ later)]
    · simp only [if_neg later, List.mem_append, or_iff_left later]

end Settles

/-- A visit to a text that is as it was at the start is settled by the start. -/
theorem settles_of_ends (sibling : initial.Sibling current)
    (fresh : current.contents path = initial.contents path)
    (ends : Ends Screen.Pipeline.videoRetrofit file path current visit after) :
    Settles initial [visit] current after := by
  cases ends with
  | @updated source stored readable changes writable =>
    refine ⟨.written current path _, ?_, fun asked => ?_⟩
    · simp [updatedPaths, Memory.written, sibling.locate_eq]
    · rw [Memory.contents_written, sibling.key_eq, sibling.key_eq]
      by_cases same : initial.key asked = initial.key path
      · have held : initial.contents asked = some source :=
          (Memory.contents_eq_of_key_eq same).trans (fresh.symm.trans stored)
        simp [updatedPaths, same, held, retrofit]
      · simp [updatedPaths, same]
  | _ => exact .of_kept initial current (by simp)

/-- A visit to a text that is as it was at the start is the one made alone. -/
theorem eq_alone_of_ends (sibling : initial.Sibling current)
    (fresh : current.contents (baseDir.join ⟨file⟩) = initial.contents (baseDir.join ⟨file⟩))
    (ends : Ends Screen.Pipeline.videoRetrofit file (baseDir.join ⟨file⟩) current visit after) :
    visit = alone initial baseDir file := by
  obtain ⟨after', first⟩ := ends.transfer sibling.symm fresh.symm
  rw [alone, first.onMemory_eq]

/-- A file that is rewritten alone holds a text that the retrofit changes. -/
theorem exists_of_alone_updated (updated : (alone memory baseDir file).outcome = .updated) :
    ∃ source, memory.contents (alone memory baseDir file).path = some source ∧
      retrofit source ≠ source := by
  obtain ⟨visit, after, ends⟩ :=
    exists_ends Screen.Pipeline.videoRetrofit file (baseDir.join ⟨file⟩) memory
  rw [alone, ends.onMemory_eq] at updated ⊢
  cases ends with
  | updated stored readable changes writable => exact ⟨_, stored, changes⟩
  | _ => contradiction

/-- Of visits made alone each that rewrites a file finds a text there that the retrofit changes. -/
theorem exists_of_mem_updatedPaths {files : List Text}
    (updated : path ∈ updatedPaths (files.map (alone memory baseDir))) :
    ∃ source, memory.contents path = some source ∧ retrofit source ≠ source := by
  obtain ⟨visit, member, rfl⟩ := List.mem_map.mp updated
  obtain ⟨listed, wrote⟩ := List.mem_filter.mp member
  obtain ⟨file, _, rfl⟩ := List.mem_map.mp listed
  exact exists_of_alone_updated (of_decide_eq_true wrote)

/-- What visits settle does not depend on their order. -/
theorem Settles.contents_eq_of_perm {others : List Visit} {last : Memory}
    (settled : Settles initial visits memory after) (settled' : Settles initial others memory last)
    (perm : others.Perm visits) (path : Path) : last.contents path = after.contents path := by
  have paths : ((updatedPaths others).map initial.key).Perm
      ((updatedPaths visits).map initial.key) := ((perm.filter _).map _).map _
  simp only [settled.contents, settled'.contents, paths.mem_iff]

/-- In a directory visits to plain names listed once are those made alone, and are settled by the
start, as long as the names still to come hold what they held. -/
theorem settles_onFiles (directory : baseDir.text ≠ []) (files : List Text)
    (plain : ∀ file ∈ files, Path.isPlainName file = true) (distinct : files.Nodup)
    (sibling : initial.Sibling current) (fresh : ∀ file ∈ files,
      current.contents (baseDir.join ⟨file⟩) = initial.contents (baseDir.join ⟨file⟩)) :
    (onFiles baseDir files current).1 = files.map (alone initial baseDir) ∧
      Settles initial (onFiles baseDir files current).1 current
        (onFiles baseDir files current).2 := by
  induction files generalizing current with
  | nil => exact ⟨rfl, .nil initial current⟩
  | cons file files ih =>
    obtain ⟨absent, distinct⟩ := List.nodup_cons.mp distinct
    obtain ⟨visit, middle, ends⟩ :=
      exists_ends Screen.Pipeline.videoRetrofit file (baseDir.join ⟨file⟩) current
    have settled := settles_of_ends sibling (fresh file List.mem_cons_self) ends
    -- What carries the induction: the visit wrote under one key, and no later name has that key.
    have still : ∀ later ∈ files,
        middle.contents (baseDir.join ⟨later⟩) = initial.contents (baseDir.join ⟨later⟩) := by
      intro later member
      have apart : current.key (baseDir.join ⟨later⟩) ≠ current.key (baseDir.join ⟨file⟩) := by
        intro same
        have one := Memory.eq_of_key_eq directory (plain later (List.mem_cons_of_mem _ member))
          (plain file List.mem_cons_self) same
        exact absent (one ▸ member)
      rw [ends.contents_of_ne apart, fresh later (List.mem_cons_of_mem _ member)]
    obtain ⟨others, rest⟩ := ih (fun later member => plain later (List.mem_cons_of_mem _ member))
      distinct (sibling.trans settled.sibling) still
    rw [onFiles_cons, ends.onMemory_eq]
    refine ⟨?_, settled.append rest⟩
    rw [List.map_cons, ← others, eq_alone_of_ends sibling (fresh file List.mem_cons_self) ends]

end Visit

namespace Run

open Visit (alone updatedPaths onFiles Settles)

/-- A run over a store in memory, with the store afterwards. -/
def onMemory (config : Config) (memory : Memory) : Run × Memory :=
  ((perform Memory.store config).run memory).run

/-- A run over a store in memory visits the files one after the other. -/
theorem onFiles_eq (config : Config) (memory : Memory) :
    onFiles config.baseDir config.files memory =
      ((onMemory config memory).1.visits, (onMemory config memory).2) := by
  rw [onFiles, ← visits_perform]
  rfl

/-- A run over a configuration without a defect visits every file as if alone, and is settled by
the store at its start. -/
theorem settles_onMemory {config : Config} (fit : config.defect? = none) (memory : Memory) :
    (onMemory config memory).1.visits = config.files.map (alone memory config.baseDir) ∧
      Settles memory (onMemory config memory).1.visits memory (onMemory config memory).2 := by
  obtain ⟨directory, _, plain, distinct⟩ := Config.defect?_eq_none_iff.mp fit
  have settled := Visit.settles_onFiles directory config.files plain distinct (.refl memory)
    fun _ _ => rfl
  rwa [onFiles_eq] at settled

/-- A run over a configuration without a defect treats its files independently. Each visit is the
one made to its file alone. Afterwards the rewritten files hold the retrofits of their texts, which
are other texts, and every other path holds what it held; and the record of writes has grown by the
rewritten files, in order. So the same files in another order, or in other groups, are visited to
the same ends, with the same summary and the same texts afterwards. -/
theorem run_independent {config : Config} (fit : config.defect? = none) (memory : Memory) :
    let run := (onMemory config memory).1
    let after := (onMemory config memory).2
    run.visits = config.files.map (alone memory config.baseDir) ∧
      (∀ path ∈ updatedPaths run.visits, ∃ source, memory.contents path = some source ∧
        retrofit source ≠ source ∧ after.contents path = some (retrofit source)) ∧
      (∀ path, memory.key path ∉ (updatedPaths run.visits).map memory.key →
        after.contents path = memory.contents path) ∧
      after.writes = memory.writes ++ (updatedPaths run.visits).map memory.locate ∧
      ∀ other : Config, other.baseDir = config.baseDir → other.files.Perm config.files →
        (onMemory other memory).1.visits.Perm run.visits ∧
          (onMemory other memory).1.summary = run.summary ∧
          ∀ path, (onMemory other memory).2.contents path = after.contents path := by
  intro run after
  obtain ⟨visits, settled⟩ : run.visits = config.files.map (alone memory config.baseDir) ∧
      Settles memory run.visits memory after := settles_onMemory fit memory
  refine ⟨visits, fun path updated => ?_, fun path apart => ?_, settled.writes,
    fun other directory perm => ?_⟩
  · have listed : memory.key path ∈ (updatedPaths run.visits).map memory.key :=
      List.mem_map_of_mem updated
    rw [visits] at updated
    obtain ⟨source, stored, changes⟩ := Visit.exists_of_mem_updatedPaths updated
    exact ⟨source, stored, changes, by rw [settled.contents, if_pos listed, stored]; rfl⟩
  · rw [settled.contents, if_neg apart]
  · have fit' := Config.defect?_eq_none_of_perm fit directory perm
    obtain ⟨visits', settled'⟩ := settles_onMemory fit' memory
    have perm' : (onMemory other memory).1.visits.Perm run.visits := by
      rw [visits', visits, directory]
      exact perm.map _
    exact ⟨perm', Summary.ofOutcomes_eq_of_perm (perm'.map _),
      settled.contents_eq_of_perm settled' perm'⟩

/-- Three screens of two subjects. -/
def twoSubjects : Config where
  baseDir := .ofString "games"
  groups := [⟨"math".toList, ["sums.dart".toList, "shapes.dart".toList]⟩,
    ⟨"words".toList, ["rhymes.dart".toList]⟩]

/-- The same screens as one subject, in another order. -/
def oneSubject : Config where
  baseDir := .ofString "games"
  groups := [⟨"all".toList, ["rhymes.dart".toList, "sums.dart".toList, "shapes.dart".toList]⟩]

/-- A store with two of the screens, one of which has an import. -/
def smallStore : Memory where
  root := Memory.defaultRoot
  files := [((Path.ofString "/mock/games/sums.dart").parts, "import a;\n".toList),
    ((Path.ofString "/mock/games/shapes.dart").parts, "class A".toList)]

/-- In one subject as in two the three screens are visited to the same ends: one is rewritten, one
left as it is and one missing. -/
theorem run_independent_twoSubjects : twoSubjects.defect? = none ∧
    oneSubject.files.Perm twoSubjects.files ∧
    (onMemory oneSubject smallStore).1.visits.Perm (onMemory twoSubjects smallStore).1.visits ∧
    (onMemory twoSubjects smallStore).1.summary = ⟨1, 1, 1, 0⟩ ∧
    (onMemory oneSubject smallStore).1.summary = ⟨1, 1, 1, 0⟩ := by
  have fit : twoSubjects.defect? = none := by decide
  have perm : oneSubject.files.Perm twoSubjects.files := by decide
  have counted : (onMemory twoSubjects smallStore).1.summary = ⟨1, 1, 1, 0⟩ := by decide +kernel
  obtain ⟨_, _, _, _, regrouped⟩ := run_independent fit smallStore
  obtain ⟨visits, summary, _⟩ := regrouped oneSubject rfl perm
  exact ⟨fit, perm, visits, counted, summary.trans counted⟩

end Run

end ScreenRetrofit
