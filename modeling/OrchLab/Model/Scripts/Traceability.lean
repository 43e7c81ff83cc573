import OrchLab.Model.Orders.Recorders
import OrchLab.Model.Scripts.Collect
import OrchLab.Storage.Dict

/-! # Checking the traceability of an execution

`scripts/pilot/check_traceability.py`: the trajectories are scanned task by task, the states against the
trajectories, the decisions against the states. Each check returns its errors in the order it finds them.
-/

namespace OrchLab

/-- An error of the check. -/
inductive TraceError where
  | foreignEvent (executionId : String)
  | notCreated (task : TaskId)
  | repeatedWithNewSeq (task : TaskId) (message : MessageId)
  | unexpectedSeq (task : TaskId) (found expected : ℤ)
  | invalidState
  | duplicatedState (state : StateId)
  | envelopeDiffers (task : TaskId) (state : StateId)
  | foreignState (task : TaskId) (state : StateId)
  | taskNotFound (task : TaskId) (state : StateId)
  | windowNotFound (task : TaskId) (state : StateId)
  | windowDiffers (task : TaskId) (state : StateId)
  | invalidDecision
  | duplicatedDecision (decision : DecisionId)
  | foreignDecision (decision : DecisionId)
  | danglingDecision (decision : DecisionId) (task : TaskId)
deriving DecidableEq, Repr

/-- A value of `unique_id` after its prefix. -/
def uniqueId (tag : String) (value : ℕ) : String := tag ++ "_" ++ toString value

/-- `label` of `check_states`. -/
def stateLabel (task : TaskId) (state : StateId) : String :=
  sequentialId "TASK" task ++ "/" ++ uniqueId "STATE" state

/-- The line of `result.errors`. -/
def TraceError.text : TraceError → String
  | .foreignEvent executionId => "task_events: foreign execution_id " ++ executionId
  | .notCreated task => sequentialId "TASK" task ++ ": trajectory does not start with TASK_CREATED"
  | .repeatedWithNewSeq task message =>
    sequentialId "TASK" task ++ ": repeated " ++ uniqueId "MSG" message ++ " with a new event_seq"
  | .unexpectedSeq task found expected => sequentialId "TASK" task ++ ": event_seq " ++ toString found ++
      " where " ++ toString expected ++ " was expected"
  | .invalidState => "states: invalid SYSTEM_STATE (ValidationError)"
  | .duplicatedState state => "states: duplicated state_id " ++ uniqueId "STATE" state
  | .envelopeDiffers task state =>
    "states: " ++ stateLabel task state ++ " envelope fields differ from the snapshot"
  | .foreignState task state => "states: " ++ stateLabel task state ++ " has foreign execution_id"
  | .taskNotFound task state => "states: " ++ stateLabel task state ++ " task not found in task_events"
  | .windowNotFound task state =>
    "states: " ++ stateLabel task state ++ " recent_events not found in the trajectory"
  | .windowDiffers task state =>
    "states: " ++ stateLabel task state ++ " recent_events differ from the snapshot"
  | .invalidDecision => "decisions: invalid record"
  | .duplicatedDecision decision => "decisions: duplicated decision_id " ++ uniqueId "DEC" decision
  | .foreignDecision decision => "decisions: " ++ uniqueId "DEC" decision ++ " has foreign execution_id"
  | .danglingDecision decision task => "decisions: " ++ uniqueId "DEC" decision ++
      " does not point to a state of " ++ sequentialId "TASK" task

/-! ## The trajectories -/

/-- What the scan of one task knows: the position of each message and the next position. -/
structure SeqScan where
  firstSeq : Dict MessageId ℤ
  expected : ℤ
  errors : List TraceError

namespace SeqScan

def initial : SeqScan := ⟨∅, 1, []⟩

/-- The body of the loop over the events of a task. -/
def event (task : TaskId) (scan : SeqScan) (event : TaskEventRecord) : SeqScan :=
  match event.messageId.bind scan.firstSeq.get?, event.messageId with
  | some first, some message =>
    if event.eventSeq ≠ first then { scan with errors := scan.errors ++ [.repeatedWithNewSeq task message] }
    else scan
  | _, message =>
    { firstSeq := message.elim scan.firstSeq fun message => scan.firstSeq.set message event.eventSeq
      expected := event.eventSeq + 1
      errors := if event.eventSeq ≠ scan.expected then
          scan.errors ++ [.unexpectedSeq task event.eventSeq scan.expected]
        else scan.errors }

def of (task : TaskId) (events : List TaskEventRecord) : SeqScan := events.foldl (event task) initial

end SeqScan

/-- `by_task`. -/
def eventsByTask (events : List TaskEventRecord) : Dict TaskId (List TaskEventRecord) :=
  events.foldl (fun d event => d.set event.taskId ((d.get? event.taskId).getD [] ++ [event])) ∅

/-- The errors of one task. -/
def trajectoryErrors (task : TaskId) (events : List TaskEventRecord) : List TraceError :=
  (if events.head?.map (·.eventType) = some .taskCreated then [] else [.notCreated task]) ++
    (SeqScan.of task events).errors

/-- The errors of `check_trajectories`. -/
def checkTrajectories (events : List TaskEventRecord) (executionId : String) : List TraceError :=
  (events.filter (·.executionId ≠ executionId)).map (.foreignEvent ·.executionId) ++
    (eventsByTask events).rows.flatMap fun entry => trajectoryErrors entry.1 entry.2

/-- The positions and types `check_trajectories` returns for a task. -/
def trajectoryOf? (events : List TaskEventRecord) (task : TaskId) : Option (List (ℤ × EventType)) :=
  ((eventsByTask events).get? task).map fun rows => rows.map fun event => (event.eventSeq, event.eventType)

/-! ## The states -/

structure StateCheck where
  tasks : Dict StateId TaskId
  errors : List TraceError

namespace StateCheck

/-- The errors of a valid state: of its envelope, and of its window in the trajectory of its task. -/
def errorsOf (executionId : String) (trajectory? : TaskId → Option (List (ℤ × EventType))) (record : StateRecord) :
    List TraceError :=
  let state := record.systemState
  (if record.stateId ≠ state.stateId ∨ record.taskId ≠ state.taskId then
      [.envelopeDiffers state.taskId state.stateId] else []) ++
    (if state.executionId ≠ executionId then [.foreignState state.taskId state.stateId] else []) ++
    match trajectory? state.taskId with
    | none => [.taskNotFound state.taskId state.stateId]
    | some trajectory =>
      (if state.recentEvents.any fun event => ((event.eventSeq : ℤ), event.eventType) ∉ trajectory then
          [.windowNotFound state.taskId state.stateId] else []) ++
        if record.recentEvents ≠ state.recentEvents then [.windowDiffers state.taskId state.stateId] else []

/-- The body of the loop over the records. -/
def record (executionId : String) (trajectory? : TaskId → Option (List (ℤ × EventType))) (check : StateCheck)
    (record : StateRecord) : StateCheck :=
  let state := record.systemState
  if state.valid then
    { tasks := check.tasks.set state.stateId state.taskId
      errors := check.errors ++
        (if (check.tasks.get? state.stateId).isSome then [.duplicatedState state.stateId] else []) ++
        errorsOf executionId trajectory? record }
  else { check with errors := check.errors ++ [.invalidState] }

end StateCheck

/-- `check_states`. -/
def checkStates (states : List StateRecord) (executionId : String)
    (trajectory? : TaskId → Option (List (ℤ × EventType))) : StateCheck :=
  states.foldl (StateCheck.record executionId trajectory?) ⟨∅, []⟩

/-! ## The decisions -/

structure DecisionCheck where
  seen : List DecisionId
  errors : List TraceError

/-- The body of the loop over the decisions. -/
def DecisionCheck.record (executionId : String) (stateTasks : Dict StateId TaskId) (check : DecisionCheck)
    (decision : DecisionRecord) : DecisionCheck :=
  if decision.valid then
    { seen := decision.decisionId :: check.seen
      errors := check.errors ++
        (if decision.decisionId ∈ check.seen then [.duplicatedDecision decision.decisionId] else []) ++
        (if decision.executionId ≠ executionId then [.foreignDecision decision.decisionId] else []) ++
        (if stateTasks.get? decision.stateId ≠ some decision.taskId then
          [.danglingDecision decision.decisionId decision.taskId] else []) }
  else { check with errors := check.errors ++ [.invalidDecision] }

/-- `check_decisions`. -/
def checkDecisions (decisions : List DecisionRecord) (executionId : String) (stateTasks : Dict StateId TaskId) :
    List TraceError :=
  (decisions.foldl (DecisionCheck.record executionId stateTasks) ⟨[], []⟩).errors

/-! ## The artifacts of a recording service -/

/-- What `collect_artifacts` leaves of trajectories, states and decisions. -/
structure Artifacts where
  events : List TaskEventRecord
  states : List StateRecord
  decisions : List DecisionRecord

/-- `collect`. -/
def RecordingService.collect (s : RecordingService) (executionId : String) : Artifacts where
  events := exportTaskEvents executionId s.service.db
  states := mergeShards (·.timestamp) s.states.files
  decisions := mergeShards (·.timestamp) s.decisions.files

/-- The errors `check` finds in the trajectories, the states and the decisions. -/
def Artifacts.errors (artifacts : Artifacts) (executionId : String) : List TraceError :=
  let states := checkStates artifacts.states executionId (trajectoryOf? artifacts.events)
  checkTrajectories artifacts.events executionId ++ states.errors ++
    checkDecisions artifacts.decisions executionId states.tasks

end OrchLab
