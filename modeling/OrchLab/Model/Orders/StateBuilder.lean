import OrchLab.Model.Orders.Repositories
import OrchLab.Model.Shared.Decision

/-! # Building the system state

`services/orders/app/orchestration/state_builder.py`. The task row, the latest rows of its trajectory and
two readings of the broker become one snapshot, or the contract of the snapshot refuses them. The two
readings are separate even when both are of the fallback queue.
-/

namespace OrchLab

structure QueueStats where
  messageCount : ℕ
  consumerCount : ℕ
deriving DecidableEq, Repr

/-- `DEGRADED_RESULTS`. -/
def degradedResult (result : Option TaskResult) : Bool :=
  result = some .timeout || result = some .transientError

/-- `_service_status`. -/
def serviceStatus (consumerCount : ℕ) (lastResult : Option TaskResult) : ServiceStatus :=
  if consumerCount = 0 then .unavailable
  else if degradedResult lastResult then .degraded
  else .available

/-- `_latency_ms`: from the latest request to its first row from the inventory, or to now. -/
def latencyMs (events : List TaskEvent) (now : Timestamp) : Except OrdersError (Option ℕ) :=
  match latestRequest events with
  | none => .ok none
  | some request =>
    match request.publishedAt with
    | none => .error .invalidState
    | some publishedAt =>
      let reply := events.find? fun event =>
        event.service = .inventory && !event.redelivered && request.eventId < event.eventId
      .ok (some ((reply.elim now (·.recordedAt) - publishedAt).toNat))

/-- `_last_event_redelivered`. -/
def lastEventRedelivered (events : List TaskEvent) : Bool :=
  (events.getLast?.map (·.redelivered)).getD false

/-- The clock and the broker as `StateBuilder` reads them. -/
structure Observation where
  now : Timestamp
  stateId : StateId
  targetStats : QueueStats
  fallbackStats : QueueStats
deriving DecidableEq, Repr

/-- The snapshot `StateBuilder.build` assembles from what it selected and observed. -/
def snapshot (config : ExperimentConfig) (row : TaskRow) (latencyMs : Option ℕ) (redelivered : Bool)
    (window : List TrajectoryEvent) (seen : Observation) : SystemState :=
  let fallbackAvailable : Bool := 0 < seen.fallbackStats.consumerCount
  { executionId := row.executionId
    taskId := row.taskId
    stateId := seen.stateId
    timestamp := seen.now
    currentEventSeq := row.currentEventSeq
    task :=
      { phase := row.status
        currentService := row.currentTarget.map fun _ => "inventory-service"
        currentTarget := row.currentTarget
        attemptNumber := row.attemptNumber
        maxAttempts := config.messaging.maxAttempts
        waitCount := row.waitCount
        maxWaits := config.messaging.maxWaits
        elapsedMs := (seen.now - row.createdAt).toNat }
    service :=
      { status := serviceStatus seen.targetStats.consumerCount row.lastResult
        latencyMs := latencyMs
        lastResult := row.lastResult }
    messaging :=
      { queueSize := seen.targetStats.messageCount
        redelivered := redelivered }
    alternatives :=
      { fallbackAvailable := fallbackAvailable
        fallbackUsed := row.fallbackUsed
        alternativeTargets :=
          if fallbackAvailable && !row.fallbackUsed then [.inventoryFallback] else [] }
    recentEvents := window.map fun event => ⟨event.eventType, event.attemptNumber, event.eventSeq⟩ }

/-- `StateBuilder.build`: the snapshot, unless a constraint of its contract refuses it. -/
def OrdersDb.build (db : OrdersDb) (config : ExperimentConfig) (task : TaskId) (seen : Observation) :
    Except OrdersError SystemState :=
  match db.task? task with
  | none => .error (.unknownTask task)
  | some row =>
    let events := db.trajectory task
    match latencyMs events seen.now with
    | .error error => .error error
    | .ok latencyMs =>
      let state := snapshot config row latencyMs (lastEventRedelivered events)
        (db.recentEvents task config.context.recentEventsLimit) seen
      if 0 ≤ seen.now - row.createdAt ∧ state.valid = true then .ok state else .error .invalidState

/-- The part of a snapshot that decisions are checked against says what the row says. -/
structure SystemState.Describes (config : ExperimentConfig) (state : SystemState) (row : TaskRow) :
    Prop where
  task : state.taskId = row.taskId
  executionId : state.executionId = row.executionId
  phase : state.task.phase = row.status
  target : state.task.currentTarget = row.currentTarget
  attempt : state.task.attemptNumber = row.attemptNumber
  maxAttempts : state.task.maxAttempts = config.messaging.maxAttempts
  waits : state.task.waitCount = row.waitCount
  maxWaits : state.task.maxWaits = config.messaging.maxWaits
  lastResult : state.service.lastResult = row.lastResult
  fallbackUsed : state.alternatives.fallbackUsed = row.fallbackUsed

/-- What is built is the snapshot of the row and the window of the task, and valid. -/
theorem OrdersDb.exists_snapshot_of_build {db : OrdersDb} {config : ExperimentConfig} {task : TaskId}
    {seen : Observation} {state : SystemState} (built : db.build config task seen = .ok state) :
    ∃ row latency, db.task? task = some row ∧ latencyMs (db.trajectory task) seen.now = .ok latency ∧
      state.valid = true ∧ state = snapshot config row latency (lastEventRedelivered (db.trajectory task))
        (db.recentEvents task config.context.recentEventsLimit) seen := by
  rw [OrdersDb.build] at built
  cases found : db.task? task with
  | none => simp [found] at built
  | some row =>
    simp only [found] at built
    cases latency : latencyMs (db.trajectory task) seen.now with
    | error error => simp [latency] at built
    | ok latencyMs =>
      simp only [latency] at built
      split_ifs at built with checks
      cases built
      exact ⟨row, latencyMs, rfl, rfl, checks.2, rfl⟩

/-- A built snapshot is valid and describes the row it was built from. -/
theorem OrdersDb.build_eq_ok {db : OrdersDb} {config : ExperimentConfig} {task : TaskId}
    {seen : Observation} {state : SystemState} (built : db.build config task seen = .ok state) :
    ∃ row, db.task? task = some row ∧ state.Describes config row ∧ state.valid = true := by
  obtain ⟨row, latency, found, -, valid, rfl⟩ := exists_snapshot_of_build built
  exact ⟨row, found, ⟨rfl, rfl, rfl, rfl, rfl, rfl, rfl, rfl, rfl, rfl⟩, valid⟩

/-- The window of a snapshot shows rows of its task. -/
theorem OrdersDb.exists_row_of_recentEvents {db : OrdersDb} {config : ExperimentConfig} {task : TaskId}
    {seen : Observation} {state : SystemState} (built : db.build config task seen = .ok state)
    {event : RecentEvent} (member : event ∈ state.recentEvents) :
    ∃ row ∈ db.trajectory task, row.eventSeq = event.eventSeq ∧ row.eventType = event.eventType := by
  obtain ⟨row, latency, -, -, -, rfl⟩ := exists_snapshot_of_build built
  obtain ⟨shown, here, rfl⟩ := List.mem_map.mp member
  obtain ⟨row, last, rfl⟩ := List.mem_map.mp (List.mem_reverse.mp here)
  have occurs := List.mem_reverse.mp (List.mem_of_mem_take last)
  exact ⟨row, (List.mem_filter.mp occurs).1, rfl, rfl⟩

end OrchLab
