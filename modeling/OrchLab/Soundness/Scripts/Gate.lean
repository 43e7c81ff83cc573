import OrchLab.Model.Scripts.Gate
import OrchLab.Soundness.Scripts.Trajectories
import OrchLab.ToMathlib.LastWhere
import Mathlib.Data.List.Induction

/-! # What the whole gate accepts

The states and the decisions are scanned with a dictionary and a set of identifiers. A scan that has found no error
knows every record it has passed, so a duplicate is found by whichever of the two comes last, and a decision is
followed to the one state of its identifier. The gate accepts exactly the consistent executions.
-/

namespace OrchLab

/-! ## The states -/

/-- A state is valid, agrees with its envelope, and its window is part of the trajectory of its task. -/
structure StateRecord.Fits (executionId : String) (events : List TaskEventRecord) (record : StateRecord) : Prop where
  valid : record.systemState.valid = true
  stateId : record.stateId = record.systemState.stateId
  taskId : record.taskId = record.systemState.taskId
  executionId : record.systemState.executionId = executionId
  task : record.systemState.taskId ∈ events.map (·.taskId)
  window : ∀ event ∈ record.systemState.recentEvents, ∃ row ∈ events, row.taskId = record.systemState.taskId ∧
    row.eventSeq = event.eventSeq ∧ row.eventType = event.eventType
  recentEvents : record.recentEvents = record.systemState.recentEvents

theorem trajectoryOf?_eq (events : List TaskEventRecord) (task : TaskId) : trajectoryOf? events task =
    if task ∈ events.map (·.taskId) then
      some ((events.filter (·.taskId = task)).map fun event => (event.eventSeq, event.eventType))
    else none := by
  have present : task ∈ events.map (·.taskId) ↔ ¬events.filter (·.taskId = task) = [] := by
    simp [List.filter_eq_nil_iff]
  rw [trajectoryOf?, eventsByTask_get?]
  by_cases none : events.filter (·.taskId = task) = []
  · rw [if_pos none, if_neg (by rw [present, not_not]; exact none), Option.map_none]
  · rw [if_neg none, if_pos (present.mpr none), Option.map_some]

namespace StateCheck

variable {executionId : String} {events : List TaskEventRecord}

/-- A valid state has no error exactly when it fits. -/
theorem errorsOf_eq_nil_iff {record : StateRecord} (valid : record.systemState.valid = true) :
    errorsOf executionId (trajectoryOf? events) record = [] ↔ record.Fits executionId events := by
  rw [errorsOf, trajectoryOf?_eq]
  by_cases task : record.systemState.taskId ∈ events.map (·.taskId)
  · simp only [if_pos task, List.append_eq_nil_iff, ite_eq_right_iff, imp_false, not_or, not_not,
      List.cons_ne_self, ne_eq]
    have shown : (record.systemState.recentEvents.any fun event => ((event.eventSeq : ℤ), event.eventType) ∉
        (events.filter (·.taskId = record.systemState.taskId)).map fun event => (event.eventSeq, event.eventType)) =
          false ↔ ∀ event ∈ record.systemState.recentEvents, ∃ row ∈ events,
            row.taskId = record.systemState.taskId ∧ row.eventSeq = event.eventSeq ∧
              row.eventType = event.eventType := by
      simp [List.any_eq_false, and_assoc]
    rw [Bool.not_eq_true, shown]
    constructor
    · rintro ⟨⟨⟨stateId, taskId⟩, execution⟩, window, recent⟩
      exact ⟨valid, stateId, taskId, execution, task, window, recent⟩
    · rintro ⟨-, stateId, taskId, execution, -, window, recent⟩
      exact ⟨⟨⟨stateId, taskId⟩, execution⟩, window, recent⟩
  · simp only [if_neg task, List.append_eq_nil_iff, List.cons_ne_self, and_false, false_iff]
    exact fun fits => task fits.task

/-- What the scan knows of the records it has passed: the task of the last valid state of each identifier, and
whether it has found an error. -/
structure Knows (executionId : String) (events : List TaskEventRecord) (check : StateCheck)
    (records : List StateRecord) : Prop where
  tasks : ∀ id, check.tasks.get? id = (lastWhere (fun record => record.systemState.valid &&
    decide (record.systemState.stateId = id)) records).map (·.systemState.taskId)
  accepts : check.errors = [] ↔ (∀ record ∈ records, record.Fits executionId events) ∧
    (records.map (·.systemState.stateId)).Nodup

/-- Among records that are all valid, an identifier is known when some record carries it. -/
theorem Knows.isSome_iff {check : StateCheck} {records : List StateRecord}
    (knows : check.Knows executionId events records)
    (valid : ∀ record ∈ records, record.systemState.valid = true) (id : StateId) :
    (check.tasks.get? id).isSome = true ↔ id ∈ records.map (·.systemState.stateId) := by
  have last : lastWhere (fun record : StateRecord => record.systemState.valid &&
      decide (record.systemState.stateId = id)) records = none ↔ id ∉ records.map (·.systemState.stateId) := by
    rw [lastWhere, List.getLast?_eq_none_iff, List.filter_eq_nil_iff, List.mem_map]
    constructor
    · rintro none ⟨record, member, named⟩
      exact none record member (by simp [valid record member, named])
    · intro none record member found
      exact none ⟨record, member, (by simpa [valid record member] using found)⟩
  rw [knows.tasks, Option.isSome_map, Option.isSome_iff_ne_none, ne_eq, last, not_not]

/-- The scan of one record more. -/
theorem Knows.record {check : StateCheck} {records : List StateRecord}
    (knows : check.Knows executionId events records) (new : StateRecord) :
    (check.record executionId (trajectoryOf? events) new).Knows executionId events (records ++ [new]) := by
  by_cases valid : new.systemState.valid = true
  · have scan : check.record executionId (trajectoryOf? events) new =
        { tasks := check.tasks.set new.systemState.stateId new.systemState.taskId
          errors := check.errors ++
            (if (check.tasks.get? new.systemState.stateId).isSome then
              [.duplicatedState new.systemState.stateId] else []) ++
            errorsOf executionId (trajectoryOf? events) new } := if_pos valid
    rw [scan]
    constructor
    · intro id
      rw [Dict.get?_set, lastWhere_concat, valid, Bool.true_and]
      by_cases named : id = new.systemState.stateId
      · simp [named]
      · simp [named, Ne.symm named, knows.tasks]
    · have before : check.errors = [] → ∀ record ∈ records, record.systemState.valid = true :=
        fun clean record member => ((knows.accepts.mp clean).1 record member).valid
      rw [List.append_eq_nil_iff, List.append_eq_nil_iff, errorsOf_eq_nil_iff valid, List.forall_mem_append,
        List.forall_mem_singleton, List.map_append, List.map_singleton, List.nodup_append]
      constructor
      · rintro ⟨⟨clean, unique⟩, fits⟩
        obtain ⟨all, distinct⟩ := knows.accepts.mp clean
        refine ⟨⟨all, fits⟩, distinct, List.nodup_singleton _, fun id member other here same => ?_⟩
        rw [List.mem_singleton] at here
        rw [if_pos ((knows.isSome_iff (before clean) _).mpr (here ▸ same ▸ member))] at unique
        cases unique
      · rintro ⟨⟨all, fits⟩, distinct, -, apart⟩
        have clean := knows.accepts.mpr ⟨all, distinct⟩
        refine ⟨⟨clean, if_neg fun known => ?_⟩, fits⟩
        exact apart _ ((knows.isSome_iff (before clean) _).mp known) _ (List.mem_singleton_self _) rfl
  · have scan : check.record executionId (trajectoryOf? events) new =
        { check with errors := check.errors ++ [.invalidState] } := if_neg valid
    rw [scan]
    constructor
    · intro id
      rw [lastWhere_concat, Bool.eq_false_iff.mpr valid, Bool.false_and, if_neg Bool.false_ne_true]
      exact knows.tasks id
    · refine iff_of_false (by simp) fun accepted => valid ?_
      exact (accepted.1 new (List.mem_append_right _ (List.mem_singleton_self _))).valid

theorem knows_checkStates (executionId : String) (events : List TaskEventRecord) (records : List StateRecord) :
    (checkStates records executionId (trajectoryOf? events)).Knows executionId events records := by
  induction records using List.reverseRecOn with
  | nil => exact ⟨fun _ => rfl, iff_of_true rfl ⟨by simp, List.nodup_nil⟩⟩
  | append_singleton records record ih =>
    rw [checkStates, List.foldl_concat]
    exact ih.record record

/-- A scan that found no error knows the task of each state. -/
theorem get?_of_accepted {records : List StateRecord}
    (clean : (checkStates records executionId (trajectoryOf? events)).errors = []) (id : StateId) (task : TaskId) :
    (checkStates records executionId (trajectoryOf? events)).tasks.get? id = some task ↔
      ∃ state ∈ records, state.systemState.stateId = id ∧ state.systemState.taskId = task := by
  have knows := knows_checkStates executionId events records
  obtain ⟨fits, distinct⟩ := knows.accepts.mp clean
  rw [knows.tasks, Option.map_eq_some_iff]
  constructor
  · rintro ⟨state, last, own⟩
    have named := holds_of_lastWhere last
    rw [Bool.and_eq_true, decide_eq_true_eq] at named
    exact ⟨state, mem_of_lastWhere last, named.2, own⟩
  · rintro ⟨state, member, named, own⟩
    have known := (knows.isSome_iff (fun record here => (fits record here).valid) id).mpr
      (named ▸ List.mem_map_of_mem member)
    rw [knows.tasks, Option.isSome_map] at known
    obtain ⟨other, last⟩ := Option.isSome_iff_exists.mp known
    have named' := holds_of_lastWhere last
    rw [Bool.and_eq_true, decide_eq_true_eq] at named'
    obtain rfl : other = state :=
      List.inj_on_of_nodup_map distinct (mem_of_lastWhere last) member (named'.2.trans named.symm)
    exact ⟨other, last, own⟩

end StateCheck

/-! ## The decisions -/

/-- A decision is valid, of the execution, and points to a state of its task. -/
structure DecisionRecord.Fits (executionId : String) (states : List StateRecord) (record : DecisionRecord) : Prop where
  valid : record.valid = true
  executionId : record.executionId = executionId
  state : ∃ state ∈ states, state.systemState.stateId = record.stateId ∧ state.systemState.taskId = record.taskId

namespace DecisionCheck

variable {executionId : String} {stateTasks : Dict StateId TaskId}

/-- What the scan knows of the decisions it has passed. -/
structure Knows (executionId : String) (stateTasks : Dict StateId TaskId) (check : DecisionCheck)
    (records : List DecisionRecord) : Prop where
  seen : ∀ id, id ∈ check.seen ↔ ∃ record ∈ records, record.valid = true ∧ record.decisionId = id
  accepts : check.errors = [] ↔ (∀ record ∈ records, record.valid = true ∧ record.executionId = executionId ∧
    stateTasks.get? record.stateId = some record.taskId) ∧ (records.map (·.decisionId)).Nodup

/-- The scan of one decision more. -/
theorem Knows.record {check : DecisionCheck} {records : List DecisionRecord}
    (knows : check.Knows executionId stateTasks records) (new : DecisionRecord) :
    (check.record executionId stateTasks new).Knows executionId stateTasks (records ++ [new]) := by
  by_cases valid : new.valid = true
  · have scan : check.record executionId stateTasks new =
        { seen := new.decisionId :: check.seen
          errors := check.errors ++
            (if new.decisionId ∈ check.seen then [.duplicatedDecision new.decisionId] else []) ++
            (if new.executionId ≠ executionId then [.foreignDecision new.decisionId] else []) ++
            (if stateTasks.get? new.stateId ≠ some new.taskId then
              [.danglingDecision new.decisionId new.taskId] else []) } := if_pos valid
    rw [scan]
    constructor
    · intro id
      rw [List.mem_cons, knows.seen]
      constructor
      · rintro (rfl | ⟨record, member, rest⟩)
        · exact ⟨new, List.mem_append_right _ (List.mem_singleton_self _), valid, rfl⟩
        · exact ⟨record, List.mem_append_left _ member, rest⟩
      · rintro ⟨record, member, rest⟩
        rcases List.mem_append.mp member with old | last
        · exact .inr ⟨record, old, rest⟩
        · exact .inl (List.mem_singleton.mp last ▸ rest.2.symm)
    · have known : check.errors = [] → (new.decisionId ∈ check.seen ↔ new.decisionId ∈ records.map (·.decisionId)) := by
        intro clean
        rw [knows.seen, List.mem_map]
        exact exists_congr fun record => and_congr_right fun member =>
          and_iff_right ((knows.accepts.mp clean).1 record member).1
      simp only [List.append_eq_nil_iff, ite_eq_right_iff, List.cons_ne_self, imp_false, ne_eq, not_not,
        List.forall_mem_append, List.forall_mem_singleton, List.map_append, List.map_singleton, List.nodup_append]
      constructor
      · rintro ⟨⟨⟨clean, unique⟩, execution⟩, points⟩
        obtain ⟨all, distinct⟩ := knows.accepts.mp clean
        refine ⟨⟨all, valid, execution, points⟩, distinct, List.nodup_singleton _, fun id member same => ?_⟩
        exact unique ((known clean).mpr (same ▸ member))
      · rintro ⟨⟨all, -, execution, points⟩, distinct, -, apart⟩
        have clean := knows.accepts.mpr ⟨all, distinct⟩
        refine ⟨⟨⟨clean, fun before => ?_⟩, execution⟩, points⟩
        exact apart _ ((known clean).mp before) rfl
  · have scan : check.record executionId stateTasks new =
        { check with errors := check.errors ++ [.invalidDecision] } := if_neg valid
    rw [scan]
    constructor
    · intro id
      rw [knows.seen]
      refine exists_congr fun record => ?_
      simp only [List.mem_append, List.mem_singleton]
      constructor
      · rintro ⟨member, rest⟩
        exact ⟨.inl member, rest⟩
      · rintro ⟨member | rfl, rest⟩
        · exact ⟨member, rest⟩
        · exact absurd rest.1 valid
    · refine iff_of_false (by simp) fun accepted => valid ?_
      exact (accepted.1 new (List.mem_append_right _ (List.mem_singleton_self _))).1

theorem knows_foldl (executionId : String) (stateTasks : Dict StateId TaskId) (records : List DecisionRecord) :
    (records.foldl (DecisionCheck.record executionId stateTasks) ⟨[], []⟩).Knows executionId stateTasks records := by
  induction records using List.reverseRecOn with
  | nil => exact ⟨by simp, iff_of_true rfl ⟨by simp, List.nodup_nil⟩⟩
  | append_singleton records record ih =>
    rw [List.foldl_concat]
    exact ih.record record

end DecisionCheck

/-- After states without error, the decisions have none exactly when they fit the states. -/
theorem checkDecisions_eq_nil_iff {executionId : String} {events : List TaskEventRecord} {states : List StateRecord}
    (clean : (checkStates states executionId (trajectoryOf? events)).errors = []) (decisions : List DecisionRecord) :
    checkDecisions decisions executionId (checkStates states executionId (trajectoryOf? events)).tasks = [] ↔
      (∀ record ∈ decisions, record.Fits executionId states) ∧ (decisions.map (·.decisionId)).Nodup := by
  rw [checkDecisions, (DecisionCheck.knows_foldl _ _ decisions).accepts]
  refine and_congr_left fun _ => forall₂_congr fun record _ => ?_
  rw [StateCheck.get?_of_accepted clean]
  exact ⟨fun ⟨valid, execution, state⟩ => ⟨valid, execution, state⟩,
    fun ⟨valid, execution, state⟩ => ⟨valid, execution, state⟩⟩

/-! ## Metadata, logs and fault events -/

/-- The metadata names the execution, its phase and whether it counts for the sample. -/
def ExecutionMetadata.Matches (metadata : ExecutionMetadata) (executionId : String) : Prop :=
  ∃ phase eligible, expectedPhase? executionId = some (phase, eligible) ∧
    metadata = ⟨some executionId, some phase, some eligible⟩

theorem checkMetadata_eq_nil_iff (metadata : Option ExecutionMetadata) (executionId : String) :
    checkMetadata metadata executionId = some [] ↔ ∃ found ∈ metadata, found.Matches executionId := by
  cases metadata with
  | none => simp [checkMetadata]
  | some metadata =>
    obtain ⟨named, phase, eligible⟩ := metadata
    cases expected : expectedPhase? executionId with
    | none => simp [checkMetadata, ExecutionMetadata.Matches, expected]
    | some pair =>
      obtain ⟨phase', eligible'⟩ := pair
      have same : checkMetadata (some ⟨named, phase, eligible⟩) executionId = some [] ↔
          named = some executionId ∧ phase = some phase' ∧ eligible = some eligible' := by
        simp [checkMetadata, expected]
      rw [same]
      constructor
      · rintro ⟨rfl, rfl, rfl⟩
        exact ⟨_, rfl, phase', eligible', expected, rfl⟩
      · rintro ⟨_, ⟨⟩, phase'', eligible'', expected', is⟩
        obtain ⟨rfl, rfl⟩ := Prod.mk.inj (Option.some.inj (expected.symm.trans expected'))
        exact ExecutionMetadata.mk.inj is

theorem checkLogs_eq_nil_iff (logs : List LogLine) (executionId : String) :
    checkLogs logs executionId = [] ↔ ∀ line ∈ logs, line.executionId = some executionId := by
  simp [checkLogs, List.countP_eq_zero]

/-- A fault whose window was neither opened nor closed has as many openings as closings. -/
theorem checkFaultEvents_eq_nil_iff (faults : List FaultEventRecord) (executionId : String) :
    checkFaultEvents faults executionId = [] ↔ (∀ event ∈ faults, event.executionId = some executionId) ∧
      ∀ faultId, windowCount faults (.started faultId) = windowCount faults (.ended faultId) := by
  have absent : ∀ {faultId}, faultId ∉ faultsWithWindow faults → ∀ {event : FaultEvent},
      event.window? = some faultId → windowCount faults event = 0 := by
    intro faultId none event window
    refine List.countP_eq_zero.mpr fun record member here => none ?_
    exact List.mem_dedup.mpr (List.mem_filterMap.mpr ⟨record, member, of_decide_eq_true here ▸ window⟩)
  have closed : (((faultsWithWindow faults).filter fun faultId =>
      windowCount faults (.started faultId) ≠ windowCount faults (.ended faultId)).map GateError.windowNotClosed) =
        [] ↔ ∀ faultId, windowCount faults (.started faultId) = windowCount faults (.ended faultId) := by
    rw [List.map_eq_nil_iff, List.filter_eq_nil_iff]
    constructor
    · intro balanced faultId
      by_cases here : faultId ∈ faultsWithWindow faults
      · simpa using balanced faultId here
      · rw [absent here rfl, absent here rfl]
    · intro balanced faultId _
      simpa using balanced faultId
  rw [checkFaultEvents, List.append_eq_nil_iff, closed]
  simp

/-! ## The gate -/

/-- The artifacts of an execution are consistent. -/
structure ExecutionFiles.Consistent (executionId : String) (requireMetadata : Bool) (files : ExecutionFiles) :
    Prop where
  metadata : requireMetadata = true → ∃ found ∈ files.metadata, found.Matches executionId
  execution : ∀ event ∈ files.events, event.executionId = executionId
  trajectories : ∀ task ∈ files.events.map (·.taskId),
    WellFormedTrajectory (files.events.filter (·.taskId = task))
  states : ∀ record ∈ files.states, record.Fits executionId files.events
  stateIds : (files.states.map (·.systemState.stateId)).Nodup
  decisions : ∀ record ∈ files.decisions, record.Fits executionId files.states
  decisionIds : (files.decisions.map (·.decisionId)).Nodup
  logs : ∀ line ∈ files.logs, line.executionId = some executionId
  faults : ∀ event ∈ files.faults, event.executionId = some executionId
  windows : ∀ faultId, windowCount files.faults (.started faultId) = windowCount files.faults (.ended faultId)

private theorem errors_eq_nil_iff (artifacts : Artifacts) (executionId : String) :
    artifacts.errors executionId = [] ↔
      (∀ event ∈ artifacts.events, event.executionId = executionId) ∧
      (∀ task ∈ artifacts.events.map (·.taskId), WellFormedTrajectory (artifacts.events.filter (·.taskId = task))) ∧
      ((∀ record ∈ artifacts.states, record.Fits executionId artifacts.events) ∧
        (artifacts.states.map (·.systemState.stateId)).Nodup) ∧
      (∀ record ∈ artifacts.decisions, record.Fits executionId artifacts.states) ∧
        (artifacts.decisions.map (·.decisionId)).Nodup := by
  have own : (artifacts.events.filter (·.executionId ≠ executionId)).map (TraceError.foreignEvent ·.executionId) = [] ↔
      ∀ event ∈ artifacts.events, event.executionId = executionId := by
    simp [List.filter_eq_nil_iff]
  have scanned : ((eventsByTask artifacts.events).rows.flatMap fun entry => trajectoryErrors entry.1 entry.2) = [] ↔
      ∀ task ∈ artifacts.events.map (·.taskId),
        WellFormedTrajectory (artifacts.events.filter (·.taskId = task)) := by
    simp only [List.flatMap_eq_nil_iff, trajectoryErrors_eq_nil_iff]
    constructor
    · exact fun formed task present => formed (task, _) (mem_eventsByTask_iff.mpr ⟨present, rfl⟩)
    · rintro formed ⟨task, rows⟩ grouped
      obtain ⟨present, rfl⟩ := mem_eventsByTask_iff.mp grouped
      exact formed task present
  have stated := StateCheck.knows_checkStates executionId artifacts.events artifacts.states
  rw [Artifacts.errors, checkTrajectories, List.append_eq_nil_iff, List.append_eq_nil_iff, List.append_eq_nil_iff, own,
    scanned, and_assoc, and_assoc, ← stated.accepts]
  exact and_congr_right fun _ => and_congr_right fun _ => and_congr_right fun clean =>
    checkDecisions_eq_nil_iff clean artifacts.decisions

/-- The gate accepts the artifacts of an execution, without raising, exactly when they are consistent. -/
theorem check_accepts_iff (executionId : String) (files : ExecutionFiles) (requireMetadata : Bool) :
    (check executionId files requireMetadata).any (·.ok) = true ↔ files.Consistent executionId requireMetadata := by
  have accepted : (check executionId files requireMetadata).any (·.ok) = true ↔
      (requireMetadata = true → checkMetadata files.metadata executionId = some []) ∧
        files.errors executionId = [] ∧ checkLogs files.logs executionId = [] ∧
        checkFaultEvents files.faults executionId = [] := by
    cases requireMetadata with
    | false => simp [check, CheckResult.ok]
    | true =>
      cases read : checkMetadata files.metadata executionId with
      | none => simp [check, read]
      | some errors => simp [check, CheckResult.ok, read]
  rw [accepted, checkMetadata_eq_nil_iff, errors_eq_nil_iff, checkLogs_eq_nil_iff, checkFaultEvents_eq_nil_iff]
  constructor
  · rintro ⟨metadata, ⟨execution, trajectories, ⟨states, stateIds⟩, decisions, decisionIds⟩, logs, faults, windows⟩
    exact ⟨metadata, execution, trajectories, states, stateIds, decisions, decisionIds, logs, faults, windows⟩
  · rintro ⟨metadata, execution, trajectories, states, stateIds, decisions, decisionIds, logs, faults, windows⟩
    exact ⟨metadata, ⟨execution, trajectories, ⟨states, stateIds⟩, decisions, decisionIds⟩, logs, faults, windows⟩

end OrchLab
