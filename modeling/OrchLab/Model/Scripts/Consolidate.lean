import OrchLab.Model.Orders.Recorders
import OrchLab.Model.Scripts.Collect
import OrchLab.Storage.Dict

/-! # Consolidating the tasks of an execution

`scripts/analysis/consolidate.py`, `task_outcomes`: one scan of the exported events finds when each task was
created and which event closed it first; the outcomes are listed by creation.
-/

namespace OrchLab

/-- `TERMINAL_EVENTS`. -/
def terminalEvent? : EventType → Option TaskStatus
  | .taskCompleted => some .completed
  | .taskAborted => some .aborted
  | .messageDeadLettered => some .deadLettered
  | _ => none

/-- The two dictionaries of the scan. -/
structure OutcomeScan where
  created : Dict TaskId Timestamp
  terminal : Dict TaskId (Timestamp × TaskStatus)

namespace OutcomeScan

/-- The body of the loop over the events. -/
def event (scan : OutcomeScan) (event : TaskEventRecord) : OutcomeScan :=
  if event.eventType = .taskCreated then
    { scan with created := scan.created.setDefault event.taskId event.timestamp }
  else match terminalEvent? event.eventType with
    | none => scan
    | some status => { scan with terminal := scan.terminal.setDefault event.taskId (event.timestamp, status) }

def of (events : List TaskEventRecord) : OutcomeScan := events.foldl event ⟨∅, ∅⟩

end OutcomeScan

/-- A row of `latency_metrics.csv`. -/
structure TaskOutcome where
  taskId : TaskId
  createdAt : Timestamp
  finishedAt : Option Timestamp
  status : Option TaskStatus
  e2eMs : Option ℤ
  decisions : ℕ
deriving DecidableEq, Repr

/-- The row of a task in the dictionary of creations. -/
def taskOutcome (scan : OutcomeScan) (decisions : List DecisionRecord) (created : TaskId × Timestamp) :
    TaskOutcome :=
  let closing := scan.terminal.get? created.1
  { taskId := created.1
    createdAt := created.2
    finishedAt := closing.map Prod.fst
    status := closing.map Prod.snd
    e2eMs := closing.map fun closing => closing.1 - created.2
    decisions := decisions.countP fun decision => decision.taskId = created.1 }

/-- `task_outcomes`. -/
def taskOutcomes (events : List TaskEventRecord) (decisions : List DecisionRecord) : List TaskOutcome :=
  let scan := OutcomeScan.of events
  (sortOn (fun created => toLex (created.2, sequentialId "TASK" created.1)) scan.created.rows).map
    (taskOutcome scan decisions)

/-! ## What the scan finds -/

/-- The outcomes are those of the tasks with a creation. -/
theorem taskId_taskOutcomes (events : List TaskEventRecord) (decisions : List DecisionRecord) :
    ((taskOutcomes events decisions).map (·.taskId)).Perm ((OutcomeScan.of events).created.rows.map Prod.fst) := by
  rw [taskOutcomes, List.map_map]
  exact (sortOn_perm _ _).map _

namespace OutcomeScan

/-- The entry an event offers the creations. -/
def created? (event : TaskEventRecord) : Option (TaskId × Timestamp) :=
  if event.eventType = .taskCreated then some (event.taskId, event.timestamp) else none

/-- The entry an event offers the closings. -/
def closing? (event : TaskEventRecord) : Option (TaskId × Timestamp × TaskStatus) :=
  (terminalEvent? event.eventType).map fun status => (event.taskId, event.timestamp, status)

theorem created_foldl (events : List TaskEventRecord) (scan : OutcomeScan) :
    (events.foldl event scan).created =
      events.foldl (fun d e => (created? e).elim d fun pair => d.setDefault pair.1 pair.2) scan.created := by
  induction events generalizing scan with
  | nil => rfl
  | cons e rest ih =>
    rw [List.foldl_cons, ih, List.foldl_cons]
    congr 1
    rw [event, created?]
    split_ifs
    · rfl
    · cases terminalEvent? e.eventType <;> rfl

theorem terminal_foldl (events : List TaskEventRecord) (scan : OutcomeScan) :
    (events.foldl event scan).terminal =
      events.foldl (fun d e => (closing? e).elim d fun pair => d.setDefault pair.1 pair.2) scan.terminal := by
  induction events generalizing scan with
  | nil => rfl
  | cons e rest ih =>
    rw [List.foldl_cons, ih, List.foldl_cons]
    congr 1
    rw [event, closing?]
    split_ifs with creation
    · rw [creation]
      rfl
    · cases terminalEvent? e.eventType <;> rfl

/-- The first creation of the task. -/
theorem created_get? (events : List TaskEventRecord) (task : TaskId) : (of events).created.get? task =
    (((events.filter (·.taskId = task)).filterMap created?).head?).map Prod.snd := by
  rw [of, created_foldl, Dict.get?_foldl_setDefault_of_key TaskEventRecord.taskId _ _ _ _ ?_,
    Dict.get?_empty, Option.none_or]
  intro e pair offers
  rw [created?] at offers
  split_ifs at offers
  rw [← Option.some_inj.mp offers]

/-- The first event that closes the task. -/
theorem terminal_get? (events : List TaskEventRecord) (task : TaskId) : (of events).terminal.get? task =
    (((events.filter (·.taskId = task)).filterMap closing?).head?).map Prod.snd := by
  rw [of, terminal_foldl, Dict.get?_foldl_setDefault_of_key TaskEventRecord.taskId _ _ _ _ ?_,
    Dict.get?_empty, Option.none_or]
  intro e pair offers
  obtain ⟨status, -, rfl⟩ := Option.map_eq_some_iff.mp offers
  rfl

end OutcomeScan

end OrchLab
