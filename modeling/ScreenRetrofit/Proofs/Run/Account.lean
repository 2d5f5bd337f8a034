import ScreenRetrofit.Proofs.Run.Confined
import ScreenRetrofit.Proofs.Run.Independence

/-!
# The account of a run

A run accounts for every file that is configured, once for each time that it is listed and in that
order, whatever becomes of the files and whatever the configuration is worth. Each visit shows its file
and its path and says nothing in the name of the run (`Visit.shown_perform`), so the visits of a run
show its configuration (`shown_perform`). Its summary and what it says in its own name are then told by
the outcomes of these visits alone (`run_accounts`).
-/

namespace ScreenRetrofit

/-- Whether an outcome is told as an error: the file is missing, or could not be read or written. -/
def Outcome.isFailure (outcome : Outcome) : Bool := outcome = .missing || outcome.isFailed

namespace Summary

/-- One more outcome adds one to the failures if it is told as an error. -/
theorem failures_record (summary : Summary) (outcome : Outcome) :
    (summary.record outcome).failures =
      summary.failures + if outcome.isFailure then 1 else 0 := by
  cases outcome <;> simp [record, failures, Outcome.isFailure, Outcome.isFailed] <;> omega

/-- Outcomes counted one after the other add their number to the total. -/
theorem total_foldl_record (outcomes : List Outcome) (summary : Summary) :
    (outcomes.foldl record summary).total = summary.total + outcomes.length := by
  induction outcomes generalizing summary with
  | nil => rfl
  | cons outcome outcomes ih =>
    rw [List.foldl_cons, ih, total_record, List.length_cons]
    omega

/-- Outcomes counted one after the other add those told as errors to the failures. -/
theorem failures_foldl_record (outcomes : List Outcome) (summary : Summary) :
    (outcomes.foldl record summary).failures =
      summary.failures + outcomes.countP Outcome.isFailure := by
  induction outcomes generalizing summary with
  | nil => rfl
  | cons outcome outcomes ih =>
    rw [List.foldl_cons, ih, failures_record, List.countP_cons]
    omega

/-- A summary counts every outcome. -/
theorem total_ofOutcomes (outcomes : List Outcome) :
    (ofOutcomes outcomes).total = outcomes.length := by
  rw [ofOutcomes, total_foldl_record]
  exact Nat.zero_add _

/-- The failures of a summary are the outcomes told as errors. -/
theorem failures_ofOutcomes (outcomes : List Outcome) :
    (ofOutcomes outcomes).failures = outcomes.countP Outcome.isFailure := by
  rw [ofOutcomes, failures_foldl_record]
  exact Nat.zero_add _

end Summary

/-- Whether an event is logged in the name of the run. -/
def Event.isOfRun (event : Event) : Bool := event.message.source = runSource

/-- Remarks of the edits are not made in the name of the run. -/
theorem Event.isOfRun_remark (notice : Screen.Notice) : (remark notice).isOfRun = false := by
  cases notice <;> decide

/-- What works on a file does not speak in the name of the run. -/
theorem Event.visitSource_ne_runSource : visitSource ≠ runSource := by decide

/-- A missing file is not told of in the name of the run. -/
theorem Event.isOfRun_notRegular (path : Path) : (notRegular path).isOfRun = false :=
  decide_eq_false visitSource_ne_runSource

/-- A write is not told of in the name of the run. -/
theorem Event.isOfRun_wrote (before after : Nat) : (wrote before after).isOfRun = false :=
  decide_eq_false visitSource_ne_runSource

variable {m : Type → Type} [Monad m] [LawfulMonad m]

namespace Visit

/-- What a visit shows whatever it comes to: its file, its path, and what it logs in the name of the
run. -/
def shown (visit : Visit) : Text × Path × List Event :=
  (visit.file, visit.path, visit.log.filter Event.isOfRun)

/-- What the visit to a file of a directory is to show. -/
def due (baseDir : Path) (file : Text) : Text × Path × List Event :=
  (file, baseDir.join ⟨file⟩, [])

/-- The remarks of the edits are not logged in the name of the run. -/
theorem filter_remarks (notices : List Screen.Notice) :
    (notices.map Event.remark).filter Event.isOfRun = [] := by
  simp [Event.isOfRun_remark]

/-- A visit shows its file and its path and logs nothing in the name of the run. -/
theorem shown_perform (store : Store m) (pipeline : Screen.Pipeline) (baseDir : Path)
    (file : Text) : shown <$> perform store pipeline baseDir file =
      (fun _ => due baseDir file) <$> perform store pipeline baseDir file := by
  simp only [perform, map_bind]
  refine congrArg _ (funext fun found => ?_)
  cases found with
  | false => simp [shown, due, Event.isOfRun_notRegular]
  | true =>
    simp only [if_true, map_bind]
    refine congrArg _ (funext fun read => ?_)
    cases read with
    | error fault => simp [shown, due]
    | ok source =>
      simp only
      split
      · simp [shown, due, filter_remarks]
      · simp only [map_bind]
        refine congrArg _ (funext fun written => ?_)
        cases written <;> simp [shown, due, filter_remarks, Event.isOfRun_wrote]

end Visit

namespace Run

open Visit (onFiles)

/-- What a group of visits shows. -/
def GroupVisits.shown (group : GroupVisits) : Text × List (Text × Path × List Event) :=
  (group.subject, group.visits.map Visit.shown)

/-- What the visits to the files of a group are to show. -/
def GroupVisits.due (baseDir : Path) (group : Config.Group) :
    Text × List (Text × Path × List Event) :=
  (group.subject, group.files.map (Visit.due baseDir))

/-- The visits to the files of a group show the group. -/
theorem GroupVisits.shown_perform (store : Store m) (pipeline : Screen.Pipeline) (baseDir : Path)
    (group : Config.Group) :
    shown <$> (do
        let visits ← group.files.mapM (Visit.perform store pipeline baseDir)
        return ⟨group.subject, visits⟩) =
      (fun _ => due baseDir group) <$> (do
        let visits ← group.files.mapM (Visit.perform store pipeline baseDir)
        return (⟨group.subject, visits⟩ : GroupVisits)) := by
  have files := map_mapM_eq_of_forall (Visit.shown_perform store pipeline baseDir) group.files
  calc shown <$> (do
          let visits ← group.files.mapM (Visit.perform store pipeline baseDir)
          return ⟨group.subject, visits⟩)
      = (fun shown => (group.subject, shown)) <$> List.map Visit.shown <$>
          group.files.mapM (Visit.perform store pipeline baseDir) := by
        simp [shown]
    _ = (fun shown => (group.subject, shown)) <$> (fun _ => group.files.map (Visit.due baseDir)) <$>
          group.files.mapM (Visit.perform store pipeline baseDir) := by
        rw [files]
    _ = (fun _ => due baseDir group) <$> (do
          let visits ← group.files.mapM (Visit.perform store pipeline baseDir)
          return (⟨group.subject, visits⟩ : GroupVisits)) := by
        simp [due]

/-- A run shows the directory and the groups of its configuration. -/
theorem shown_perform (store : Store m) (config : Config) :
    (fun run => (run.baseDir, run.groups.map GroupVisits.shown)) <$> perform store config =
      (fun _ => (config.baseDir, config.groups.map (GroupVisits.due config.baseDir))) <$>
        perform store config := by
  have groups := map_mapM_eq_of_forall
    (GroupVisits.shown_perform store Screen.Pipeline.videoRetrofit config.baseDir) config.groups
  have paired := congrArg (fun shown => (config.baseDir, ·) <$> shown) groups
  simpa [perform] using paired

/-- The messages of a log that are in the name of the run. -/
def own (log : List Entry) : List Log.Message :=
  (log.map fun entry => entry.event.message).filter fun message =>
    message.source = Event.runSource

/-- What a run has to say of a visit: a warning, with the file and the message, if it failed. -/
def warning? (visit : Visit) : Option Log.Message :=
  match visit.outcome with
  | .failed message =>
    some ⟨.warn, Event.runSource, "failed to process file".toList,
      [("file".toList, visit.file), ("error".toList, message)]⟩
  | _ => none

/-- What a run has to say of a group: that it is next, then the warnings of its visits. -/
def groupMessages (group : GroupVisits) : List Log.Message :=
  ⟨.info, Event.runSource, "processing group".toList,
    [("subject".toList, group.subject), ("files".toList, Nat.toDigits 10 group.visits.length)]⟩ ::
    group.visits.filterMap warning?

/-- What a run over a configuration has to say: its directory and how many files it lists, its groups,
and the counts that it ends with. -/
def messages (config : Config) (run : Run) : List Log.Message :=
  ⟨.info, Event.runSource, "starting video retrofit".toList,
    [("base_dir".toList, config.baseDir.quoted),
      ("files".toList, Nat.toDigits 10 config.fileCount)]⟩ ::
    run.groups.flatMap groupMessages ++
    [⟨.info, Event.runSource, "video retrofit finished".toList,
      [("updated".toList, Nat.toDigits 10 run.summary.updated),
        ("unchanged".toList, Nat.toDigits 10 run.summary.unchanged),
        ("missing".toList, Nat.toDigits 10 run.summary.missing),
        ("errors".toList, Nat.toDigits 10 run.summary.errors)]⟩]

/-- The messages of logs one after the other are those of the first and of the second. -/
theorem own_append (log later : List Entry) : own (log ++ later) = own log ++ own later := by
  simp [own]

/-- The messages of logs put together are those of each. -/
theorem own_flatMap {α : Type} (log : α → List Entry) (members : List α) :
    own (members.flatMap log) = members.flatMap fun member => own (log member) := by
  simp [own, List.map_flatMap, List.filter_flatMap]

/-- Of a visit that logs nothing in the name of the run only its failure is told. -/
theorem own_visitLog {visit : Visit} (quiet : visit.log.filter Event.isOfRun = []) :
    own (visitLog visit) = (warning? visit).toList := by
  have silent : own (visit.log.map (⟨some visit.file, ·⟩)) = [] := by
    have messages : own (visit.log.map (⟨some visit.file, ·⟩)) =
        (visit.log.filter Event.isOfRun).map Event.message := by
      rw [own, List.map_map, List.filter_map]
      rfl
    rw [messages, quiet, List.map_nil]
  rw [visitLog, own_append, silent]
  cases outcome : visit.outcome <;> simp [own, warning?, outcome, Event.message]

/-- Of a group whose visits log nothing in the name of the run its name and its failures are told. -/
theorem own_groupLog {group : GroupVisits}
    (quiet : ∀ visit ∈ group.visits, visit.log.filter Event.isOfRun = []) :
    own (groupLog group) = groupMessages group := by
  have warnings : own (group.visits.flatMap visitLog) = group.visits.filterMap warning? := by
    rw [own_flatMap, List.filterMap_eq_flatMap_toList]
    exact List.flatMap_congr fun visit member => own_visitLog (quiet visit member)
  rw [groupLog, ← List.singleton_append, own_append, warnings]
  rfl

/-- A run whose visits log nothing in its name tells what it has to say. -/
theorem own_log {config : Config} {run : Run} (directory : run.baseDir = config.baseDir)
    (count : run.visits.length = config.fileCount)
    (quiet : ∀ visit ∈ run.visits, visit.log.filter Event.isOfRun = []) :
    own run.log = messages config run := by
  have groups : own (run.groups.flatMap groupLog) = run.groups.flatMap groupMessages := by
    rw [own_flatMap]
    exact List.flatMap_congr fun group member => own_groupLog fun visit inside =>
      quiet visit (List.mem_flatMap_of_mem member inside)
  rw [log, directory, count, own_append, ← List.singleton_append, own_append, groups]
  rfl

/-- A run over a store in memory shows the directory and the groups of its configuration. -/
theorem shown_onMemory (config : Config) (memory : Memory) :
    (onMemory config memory).1.baseDir = config.baseDir ∧
      (onMemory config memory).1.groups.map GroupVisits.shown =
        config.groups.map (GroupVisits.due config.baseDir) := by
  have run := congrArg (fun work => ((work.run memory).run).1) (shown_perform Memory.store config)
  exact Prod.mk.inj run

/-- The visits of groups that show those of a configuration show its files in order. -/
theorem shown_visits {run : Run} {config : Config} (shown : run.groups.map GroupVisits.shown =
      config.groups.map (GroupVisits.due config.baseDir)) :
    run.visits.map Visit.shown = config.files.map (Visit.due config.baseDir) := by
  calc run.visits.map Visit.shown
      = (run.groups.map GroupVisits.shown).flatMap Prod.snd := by
        simp [visits, List.map_flatMap, List.flatMap_map, GroupVisits.shown]
    _ = config.files.map (Visit.due config.baseDir) := by
        rw [shown]
        simp [Config.files, List.map_flatMap, List.flatMap_map, GroupVisits.due]

/-- A run accounts for its configuration, whatever that is worth and whatever the store holds. It
visits each listed file in order, at the path of its name in the directory, each in the store that the
visits before it left, and its groups are those of the configuration. Each count of its summary is the
number of outcomes of that kind; in total they are the files, and the failures are the missing files
and those that could not be read or written. In its own name it logs its start, each group followed by
a warning for each of its visits that failed, and the counts that it ends with. -/
theorem run_accounts (config : Config) (memory : Memory) :
    let run := (onMemory config memory).1
    let outcomes := run.visits.map Visit.outcome
    (run.visits.map fun visit => (visit.file, visit.path)) =
        config.files.map (fun file => (file, config.baseDir.join ⟨file⟩)) ∧
      run.visits.length = config.fileCount ∧
      run.visits = (onFiles config.baseDir config.files memory).1 ∧
      (run.groups.map fun group => (group.subject, group.visits.map Visit.file)) =
        config.groups.map (fun group => (group.subject, group.files)) ∧
      run.summary = ⟨outcomes.count .updated, outcomes.count .unchanged, outcomes.count .missing,
        outcomes.countP Outcome.isFailed⟩ ∧
      run.summary.total = config.fileCount ∧
      run.summary.failures = outcomes.countP Outcome.isFailure ∧
      own run.log = messages config run := by
  intro run outcomes
  obtain ⟨directory, groups⟩ := shown_onMemory config memory
  have visits : run.visits.map Visit.shown = config.files.map (Visit.due config.baseDir) :=
    shown_visits groups
  have count : run.visits.length = config.fileCount := by
    simpa [Config.fileCount] using congrArg List.length visits
  have quiet : ∀ visit ∈ run.visits, visit.log.filter Event.isOfRun = [] := by
    intro visit member
    have listed : Visit.shown visit ∈ config.files.map (Visit.due config.baseDir) :=
      visits ▸ List.mem_map_of_mem member
    obtain ⟨file, _, same⟩ := List.mem_map.mp listed
    exact (congrArg (fun shown => shown.2.2) same).symm
  refine ⟨?_, count, ?_, ?_, Summary.ofOutcomes_eq outcomes, ?_,
    Summary.failures_ofOutcomes outcomes, own_log directory count quiet⟩
  · have pairs := congrArg (List.map fun shown => (shown.1, shown.2.1)) visits
    simpa [Visit.shown, Visit.due, Function.comp_def] using pairs
  · rw [onFiles_eq]
  · have pairs := congrArg (List.map fun shown => (shown.1, shown.2.map Prod.fst)) groups
    simpa [GroupVisits.shown, GroupVisits.due, Visit.shown, Visit.due, Function.comp_def] using pairs
  · rw [summary, Summary.total_ofOutcomes, List.length_map, count]

end Run

end ScreenRetrofit
