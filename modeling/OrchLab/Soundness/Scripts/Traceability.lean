import OrchLab.Soundness.Orders.Recording
import OrchLab.Soundness.Orders.Window
import OrchLab.Soundness.Scripts.Trajectories

/-! # The traceability gate

The writer numbers the rows of a task over many transactions; the checker scans the exported rows with a
dictionary of its own. What a reachable service has recorded of a task is a well-formed trajectory: its
occurrences take its positions one after the other, and the rows of one message have one position. So the gate
accepts it.
-/

namespace OrchLab

/-! ## The trajectories of an export -/

section Export

variable {deployment : Deployment} {s : OrdersService} (reachable : (ordersMachine deployment).Reachable s)
include reachable

/-- The events of a task are a well-formed trajectory. -/
private theorem wellFormed_events {task : TaskId} {file : TaskFile} (found : s.file? task = some file) :
    WellFormedTrajectory (file.events.map taskEventRecord) := by
  obtain ⟨-, -, events, -⟩ := file?_eq_some_iff.mp found
  have ordered : file.events.Pairwise (·.eventId < ·.eventId) := by
    rw [events]
    exact (EventLog.pairwise_eventId _).filter _
  have distinct : distinctEvents (file.events.map taskEventRecord) =
      (occurrences file.events).map taskEventRecord := by
    rw [distinctEvents, firstOccurrences_map, occurrences_eq ordered]
    rfl
  have positions := reachable_positions reachable found
  have count : (occurrences file.events).length = file.row.currentEventSeq := by
    rw [← List.length_map (f := (·.eventSeq)), positions, List.length_range']
  refine ⟨⟨?_, ?_⟩, ?_⟩
  · calc (distinctEvents (file.events.map taskEventRecord)).map (·.eventSeq)
      _ = ((occurrences file.events).map (·.eventSeq)).map Nat.cast := by
        rw [distinct, List.map_map, List.map_map]
        rfl
      _ = (List.range file.row.currentEventSeq).map fun index : ℕ => (index + 1 : ℤ) := by
        rw [positions, List.range'_eq_map_range, List.map_map]
        refine List.map_congr_left fun index _ => ?_
        rw [Function.comp_apply, Nat.add_comm, Int.natCast_succ]
      _ = _ := by rw [distinct, List.length_map, count]
  · intro row here message first names known
    obtain ⟨event, member, rfl⟩ := List.mem_map.mp here
    obtain ⟨there, also⟩ := mem_of_firstOf? known
    obtain ⟨other, member', rfl⟩ := List.mem_map.mp there
    exact congrArg Nat.cast (reachable_eventSeq_eq reachable found event member other member' message names also)
  · obtain ⟨first, rest, rows, type, -⟩ := (reachable_recorded reachable found).created
    rw [rows, List.map_cons, List.head?_cons, Option.map_some]
    exact congrArg some type

/-- The positions and types the checker keeps of a task are those of its rows. -/
theorem trajectoryOf?_export {task : TaskId} {row : TaskRow} (known : s.db.task? task = some row) :
    trajectoryOf? (exportTaskEvents deployment.executionId s.db) task =
      some ((s.db.trajectory task).map fun event => ((event.eventSeq : ℤ), event.eventType)) := by
  obtain ⟨file, found, -, -, events⟩ := file?_of_task? known
  obtain ⟨first, rest, rows, -⟩ := (reachable_recorded reachable found).created
  rw [trajectoryOf?, eventsByTask_get?, filter_exportTaskEvents reachable, ← events, if_neg (by rw [rows]; simp),
    Option.map_some, List.map_map]
  rfl

/-- `check_trajectories` finds no error in an export. -/
theorem checkTrajectories_export :
    checkTrajectories (exportTaskEvents deployment.executionId s.db) deployment.executionId = [] := by
  refine List.append_eq_nil_iff.mpr ⟨?_, List.flatMap_eq_nil_iff.mpr fun entry member => ?_⟩
  · refine List.map_eq_nil_iff.mpr (List.filter_eq_nil_iff.mpr fun event member => ?_)
    obtain ⟨row, sorted, rfl⟩ := List.mem_map.mp member
    have own := of_decide_eq_true (List.mem_filter.mp ((mem_sortOn _).mp sorted)).2
    simp [taskEventRecord, own]
  · obtain ⟨present, rows⟩ := mem_eventsByTask_iff.mp (show (entry.1, entry.2) ∈ _ from member)
    have known : s.db.task? entry.1 ≠ none := by
      intro absent
      obtain ⟨row, there, own⟩ := List.mem_map.mp present
      have exported : row ∈ (exportTaskEvents deployment.executionId s.db).filter (·.taskId = entry.1) :=
        List.mem_filter.mpr ⟨there, decide_eq_true own⟩
      rw [filter_exportTaskEvents reachable, (reachable_ledger reachable).trajectory_of_absent absent] at exported
      cases exported
    obtain ⟨row, stored⟩ := Option.ne_none_iff_exists'.mp known
    obtain ⟨file, found, -, -, events⟩ := file?_of_task? stored
    rw [trajectoryErrors_eq_nil_iff, rows, filter_exportTaskEvents reachable, ← events]
    exact wellFormed_events reachable found

end Export

/-! ## The states and the decisions of an execution -/

/-- States that are valid, fit their trajectories and have identifiers of their own. -/
theorem StateCheck.foldl_of_sound {executionId : String} {trajectory? : TaskId → Option (List (ℤ × EventType))}
    {states : List StateRecord} {check : StateCheck}
    (sound : ∀ record ∈ states, record = .of record.systemState ∧ record.systemState.valid = true ∧
      errorsOf executionId trajectory? record = [])
    (distinct : (states.map (·.stateId)).Nodup)
    (fresh : ∀ record ∈ states, check.tasks.get? record.stateId = none) :
    (states.foldl (StateCheck.record executionId trajectory?) check).errors = check.errors ∧
      (∀ record ∈ states, (states.foldl (StateCheck.record executionId trajectory?) check).tasks.get?
        record.stateId = some record.taskId) ∧
      ∀ id, (∀ record ∈ states, record.stateId ≠ id) →
        (states.foldl (StateCheck.record executionId trajectory?) check).tasks.get? id = check.tasks.get? id := by
  induction states generalizing check with
  | nil => simp
  | cons record rest ih =>
    obtain ⟨copies, valid, fits⟩ := sound record (List.mem_cons_self ..)
    have named : record.systemState.stateId = record.stateId := by rw [copies]; rfl
    have own : record.systemState.taskId = record.taskId := by rw [copies]; rfl
    have unknown := fresh record (List.mem_cons_self ..)
    rw [List.map_cons, List.nodup_cons, List.mem_map] at distinct
    have apart : ∀ later ∈ rest, later.stateId ≠ record.stateId := fun later member same =>
      distinct.1 ⟨later, member, same⟩
    have first : StateCheck.record executionId trajectory? check record =
        ⟨check.tasks.set record.stateId record.taskId, check.errors⟩ := by
      simp [StateCheck.record, valid, fits, named, own, unknown]
    rw [List.foldl_cons, first]
    obtain ⟨errors, known, others⟩ := @ih ⟨check.tasks.set record.stateId record.taskId, check.errors⟩
      (fun later member => sound later (List.mem_cons_of_mem _ member)) distinct.2 fun later member => by
        rw [Dict.get?_set, if_neg (apart later member)]
        exact fresh later (List.mem_cons_of_mem _ member)
    refine ⟨errors, List.forall_mem_cons.mpr ⟨?_, known⟩, fun id elsewhere => ?_⟩
    · rw [others record.stateId apart, Dict.get?_set, if_pos rfl]
    · obtain ⟨head, tail⟩ := List.forall_mem_cons.mp elsewhere
      rw [others id tail, Dict.get?_set, if_neg (Ne.symm head)]

/-- Decisions that are valid, point to known states and have identifiers of their own. -/
theorem DecisionCheck.foldl_of_sound {executionId : String} {stateTasks : Dict StateId TaskId}
    {decisions : List DecisionRecord} {check : DecisionCheck}
    (sound : ∀ record ∈ decisions, record.valid = true ∧ record.executionId = executionId ∧
      stateTasks.get? record.stateId = some record.taskId)
    (distinct : (decisions.map (·.decisionId)).Nodup)
    (fresh : ∀ record ∈ decisions, record.decisionId ∉ check.seen) :
    (decisions.foldl (DecisionCheck.record executionId stateTasks) check).errors = check.errors := by
  induction decisions generalizing check with
  | nil => rfl
  | cons record rest ih =>
    obtain ⟨valid, execution, points⟩ := sound record (List.mem_cons_self ..)
    rw [List.map_cons, List.nodup_cons, List.mem_map] at distinct
    have first : DecisionCheck.record executionId stateTasks check record =
        ⟨record.decisionId :: check.seen, check.errors⟩ := by
      simp [DecisionCheck.record, valid, execution, points, fresh record (List.mem_cons_self ..)]
    rw [List.foldl_cons, first]
    refine ih (fun later member => sound later (List.mem_cons_of_mem _ member)) distinct.2 fun later member => ?_
    rw [List.mem_cons, not_or]
    exact ⟨fun same => distinct.1 ⟨later, member, same⟩, fresh later (List.mem_cons_of_mem _ member)⟩

/-! ## The gate -/

section Gate

variable {deployment : Deployment} {s : RecordingService}

theorem mem_collect_states {record : StateRecord} :
    record ∈ (s.collect deployment.executionId).states ↔ record ∈ s.states := mem_sortOn _

theorem mem_collect_decisions {record : DecisionRecord} :
    record ∈ (s.collect deployment.executionId).decisions ↔ record ∈ s.decisions := mem_sortOn _

variable (reachable : (recordingMachine deployment).Reachable s)
include reachable

/-- `check_states` finds no error, and knows the task of every recorded state. -/
private theorem checkStates_collect :
    (checkStates (s.collect deployment.executionId).states deployment.executionId
        (trajectoryOf? (s.collect deployment.executionId).events)).errors = [] ∧
      ∀ record ∈ s.states, (checkStates (s.collect deployment.executionId).states deployment.executionId
        (trajectoryOf? (s.collect deployment.executionId).events)).tasks.get? record.stateId =
          some record.taskId := by
  have recording := reachable_recording reachable
  have distinct : ((s.collect deployment.executionId).states.map (·.stateId)).Nodup :=
    ((sortOn_perm _ _).map _).nodup_iff.mpr recording.stateIds
  have fits : ∀ record ∈ (s.collect deployment.executionId).states, record = .of record.systemState ∧
      record.systemState.valid = true ∧ StateCheck.errorsOf deployment.executionId
        (trajectoryOf? (s.collect deployment.executionId).events) record = [] := by
    intro record member
    have sound := recording.states record (mem_collect_states.mp member)
    refine ⟨sound.copies, sound.valid, ?_⟩
    obtain ⟨row, stored⟩ := Option.ne_none_iff_exists'.mp sound.task
    have trajectory := trajectoryOf?_export (reachable_service reachable) stored
    have window : (record.systemState.recentEvents.any fun event => ((event.eventSeq : ℤ), event.eventType) ∉
        (s.service.db.trajectory record.systemState.taskId).map fun event =>
          ((event.eventSeq : ℤ), event.eventType)) = false := by
      rw [List.any_eq_false]
      intro event shown
      obtain ⟨shown', here, seq, type⟩ := sound.window event shown
      rw [decide_eq_true_eq, not_not, List.mem_map]
      exact ⟨shown', here, by rw [seq, type]⟩
    have named : record.stateId = record.systemState.stateId := by rw [sound.copies]; rfl
    have own : record.taskId = record.systemState.taskId := by rw [sound.copies]; rfl
    have events : record.recentEvents = record.systemState.recentEvents := by rw [sound.copies]; rfl
    simp only [StateCheck.errorsOf, RecordingService.collect, trajectory, window, named, own, events,
      sound.executionId, ne_eq, not_true_eq_false, or_self, ↓reduceIte, Bool.false_eq_true, List.append_nil]
  obtain ⟨errors, known, -⟩ := @StateCheck.foldl_of_sound _ _ _ ⟨∅, []⟩ fits distinct fun _ _ => rfl
  exact ⟨errors, fun record member => known record (mem_collect_states.mpr member)⟩

/-- The gate finds no error. -/
private theorem errors_collect :
    (s.collect deployment.executionId).errors deployment.executionId = [] := by
  have recording := reachable_recording reachable
  obtain ⟨errors, known⟩ := checkStates_collect reachable
  have distinct : ((s.collect deployment.executionId).decisions.map (·.decisionId)).Nodup :=
    ((sortOn_perm _ _).map _).nodup_iff.mpr recording.decisionIds
  rw [Artifacts.errors, List.append_eq_nil_iff, List.append_eq_nil_iff]
  refine ⟨⟨checkTrajectories_export (reachable_service reachable), errors⟩, ?_⟩
  refine DecisionCheck.foldl_of_sound (fun record member => ?_) distinct fun _ _ => List.not_mem_nil
  obtain ⟨valid, execution, state, shown, named, own⟩ :=
    recording.decisions record (mem_collect_decisions.mp member)
  refine ⟨valid, execution, ?_⟩
  rw [← named, ← own]
  exact known state shown

/-- The exported rows are those of the log. -/
theorem collect_events_perm : (s.collect deployment.executionId).events.Perm
    (s.service.db.taskEvents.rows.map taskEventRecord) := by
  have own : ∀ row ∈ s.service.db.taskEvents.rows, decide (row.executionId = deployment.executionId) = true :=
    fun row member => decide_eq_true (executionId_of_mem_rows (reachable_service reachable) member)
  rw [RecordingService.collect, exportTaskEvents, List.filter_eq_self.mpr own]
  exact (sortOn_perm _ _).map _

private theorem mem_collect_events {record : TaskEventRecord} :
    record ∈ (s.collect deployment.executionId).events ↔
      ∃ row ∈ s.service.db.taskEvents.rows, taskEventRecord row = record :=
  (collect_events_perm reachable).mem_iff.trans List.mem_map

end Gate

/-- The artifacts hold everything the service recorded, and pass the gate for the reasons it checks: the rows of
a task are its trajectory from its creation, its occurrences are numbered without gaps up to the position of the
task and repetitions carry the position of the first, the states are valid and their windows shown, and decisions
point to their states. -/
structure Artifacts.Traceable (deployment : Deployment) (s : RecordingService) (artifacts : Artifacts) : Prop where
  exportedEvents : artifacts.events.Perm (s.service.db.taskEvents.rows.map taskEventRecord)
  exportedStates : artifacts.states.Perm s.states.files.flatten
  exportedDecisions : artifacts.decisions.Perm s.decisions.files.flatten
  accepted : artifacts.errors deployment.executionId = []
  rows : ∀ task row, s.service.db.task? task = some row →
    artifacts.events.filter (·.taskId = task) = (s.service.db.trajectory task).map taskEventRecord ∧
      ∃ first rest, s.service.db.trajectory task = first :: rest ∧ first.eventType = .taskCreated
  numbered : ∀ task row, s.service.db.task? task = some row →
    (s.service.db.distinctOccurrences task).map (·.eventSeq) = List.range' 1 row.currentEventSeq
  repeated : ∀ earlier ∈ artifacts.events, ∀ later ∈ artifacts.events, ∀ message,
    earlier.messageId = some message → later.messageId = some message → earlier.eventSeq = later.eventSeq
  states : ∀ record ∈ artifacts.states, record.systemState.valid = true ∧
    ∀ event ∈ record.systemState.recentEvents, ∃ row ∈ artifacts.events,
      row.taskId = record.taskId ∧ row.eventSeq = event.eventSeq ∧ row.eventType = event.eventType
  decisions : ∀ record ∈ artifacts.decisions, record.valid = true ∧
    ∃ state ∈ artifacts.states, state.stateId = record.stateId ∧ state.taskId = record.taskId

/-- What a reachable recording service leaves is traceable. -/
theorem collect_traceable {deployment : Deployment} {s : RecordingService}
    (reachable : (recordingMachine deployment).Reachable s) :
    (s.collect deployment.executionId).Traceable deployment s := by
  have reached := reachable_service reachable
  have ledger := reachable_ledger reached
  have recording := reachable_recording reachable
  constructor
  · exact collect_events_perm reachable
  · exact sortOn_perm _ _
  · exact sortOn_perm _ _
  · exact errors_collect reachable
  · intro task row known
    obtain ⟨file, found, -, -, events⟩ := file?_of_task? known
    obtain ⟨first, rest, rows, type, -⟩ := (reachable_recorded reached found).created
    exact ⟨filter_exportTaskEvents reached task, first, rest, by rw [← events, rows], type⟩
  · intro task row known
    obtain ⟨file, found, rfl, -, -⟩ := file?_of_task? known
    rw [distinctOccurrences_eq ledger found, reachable_positions reached found]
  · intro earlier here later there message names also
    obtain ⟨row, stored, rfl⟩ := (mem_collect_events reachable).mp here
    obtain ⟨other, stored', rfl⟩ := (mem_collect_events reachable).mp there
    have same := ledger.taskId_eq stored stored' names also
    obtain ⟨owner, known⟩ := Option.ne_none_iff_exists'.mp (ledger.events row stored)
    obtain ⟨file, found, -, -, events⟩ := file?_of_task? known
    have recorded : ∀ event ∈ s.service.db.taskEvents.rows, event.taskId = row.taskId → event ∈ file.events := by
      intro event member own
      rw [events]
      exact OrdersDb.mem_trajectory.mpr ⟨member, own⟩
    exact congrArg Nat.cast (reachable_eventSeq_eq reached found row (recorded row stored rfl) other
      (recorded other stored' same.symm) message names also)
  · intro record member
    have sound := recording.states record (mem_collect_states.mp member)
    refine ⟨sound.valid, fun event shown => ?_⟩
    obtain ⟨row, here, seq, type⟩ := sound.window event shown
    obtain ⟨stored, own⟩ := OrdersDb.mem_trajectory.mp here
    refine ⟨taskEventRecord row, (mem_collect_events reachable).mpr ⟨row, stored, rfl⟩, ?_,
      congrArg Nat.cast seq, type⟩
    rw [sound.copies]
    exact own
  · intro record member
    obtain ⟨valid, -, state, shown, same⟩ := recording.decisions record (mem_collect_decisions.mp member)
    exact ⟨valid, state, mem_collect_states.mpr shown, same⟩

/-- Labels with the measurements of the rules engine. -/
def ruled (labels : List OrdersLabel) : List RecordingLabel := labels.map (⟨·, ⟨.rules, 1, none, none, 0⟩⟩)

/-- A failure is delivered twice around the retry it leads to. -/
theorem collect_traceable_pilot : ∃ s, (recordingMachine .pilot).Reachable s ∧
    (s.collect Deployment.pilot.executionId).events.length = 5 ∧
    (s.collect Deployment.pilot.executionId).states.length = 2 ∧
    (s.collect Deployment.pilot.executionId).decisions.length = 2 ∧
    (s.collect Deployment.pilot.executionId).Traceable .pilot s := by
  obtain ⟨s, reachable, passes⟩ : ∃ s, (recordingMachine .pilot).Reachable s ∧
      decide ((s.collect Deployment.pilot.executionId).events.length = 5 ∧
        (s.collect Deployment.pilot.executionId).states.length = 2 ∧
        (s.collect Deployment.pilot.executionId).decisions.length = 2) = true :=
    Machine.exists_reachable_of_replay? (ruled (firstDispatch ++
      [.consume (.inventoryEvent (firstReply 20 (.failed ⟨1, .primary, .transientError⟩))) false ⟨11, 100⟩,
        .build .worker (.calm 101 2),
        .decide .worker (.proposing .retry (some .inventoryPrimary) .transientRetry) 2 ⟨12, 102⟩,
        .consume (.inventoryEvent (firstReply 20 (.failed ⟨1, .primary, .transientError⟩))) true ⟨13, 103⟩]))
      (by decide +kernel)
  obtain ⟨rows, states, decisions⟩ := of_decide_eq_true passes
  exact ⟨s, reachable, rows, states, decisions, collect_traceable reachable⟩

end OrchLab
