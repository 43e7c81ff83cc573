import OrchLab.Soundness.Orders.Occurrences

/-! # The task row is the fold of its trajectory

Every column of a task row but its clocks can be recomputed from the distinct occurrences of the task: the
counters by counting, the route from the last request, the status and the last result by replaying the
rows. A failure counts when it carries the attempt and the route of the latest request, which name it
because no two requests of a task share both.
-/

namespace OrchLab

/-! ## Replaying a trajectory -/

/-- The status after a row; a terminal status absorbs the rest. -/
def statusAfter (status : TaskStatus) (event : EventColumns) : TaskStatus :=
  if status.terminal then status
  else match event.eventType, event.target with
    | .taskCreated, _ => .pending
    | .stockReservationRequested, some .inventoryPrimary => .dispatched
    | .stockReservationRequested, some .inventoryFallback => .fallbackProcessing
    | .fallbackScheduled, _ => .fallbackProcessing
    | .retryScheduled, _ => .retrying
    | .waitScheduled, _ => .waiting
    | .taskCompleted, _ => .completed
    | .taskAborted, _ => .aborted
    | .messageDeadLettered, _ => .deadLettered
    | _, _ => status

/-- What a replay has read so far. -/
structure Replay where
  status : TaskStatus
  requested : Option (ℕ × Option Target)
  lastResult : Option TaskResult
deriving DecidableEq, Repr

namespace Replay

/-- The result after a row: of a timeout, of a failure of the latest request, of the completion. -/
def resultAfter (replay : Replay) (event : EventColumns) : Option TaskResult :=
  if replay.status.terminal then replay.lastResult
  else match event.eventType, event.payload with
    | .inventoryTimeout, some (.inventoryTimeout _ result) => some result
    | .stockReservationFailed, some (.message (.failed payload)) =>
      if replay.requested = some (event.attemptNumber, event.target) then
        some (failureResult payload.failureReason event.target)
      else replay.lastResult
    | .taskCompleted, _ => some .ok
    | _, _ => replay.lastResult

def step (replay : Replay) (event : EventColumns) : Replay where
  status := statusAfter replay.status event
  requested := if event.eventType = .stockReservationRequested then some (event.attemptNumber, event.target)
    else replay.requested
  lastResult := replay.resultAfter event

/-- Replay rows from the start of a task. -/
def of (events : List EventColumns) : Replay := events.foldl step ⟨.pending, none, none⟩

theorem of_append (events added : List EventColumns) : of (events ++ added) = added.foldl step (of events) :=
  List.foldl_append

/-- The latest request of a replay is the last row of one. -/
theorem requested_of (events : List EventColumns) : (of events).requested =
    (lastWhere (fun event => event.eventType = .stockReservationRequested) events).map
      fun event => (event.attemptNumber, event.target) := by
  induction events using List.reverseRecOn with
  | nil => rfl
  | append_singleton events event ih =>
    rw [of_append, lastWhere_concat, List.foldl_cons, List.foldl_nil, step]
    by_cases asks : event.eventType = .stockReservationRequested
    · simp [asks]
    · simp [asks, ih]

end Replay

/-- The columns of a row, recomputed from the occurrences of its task. -/
structure Recomputed (row : TaskRow) (occurrences : List EventColumns) : Prop where
  eventSeq : row.currentEventSeq = occurrences.length
  attempt : row.attemptNumber = 1 + occurrences.countP (·.eventType = .retryScheduled)
  waits : row.waitCount = occurrences.countP (·.eventType = .waitScheduled)
  fallback : row.fallbackUsed.toNat = occurrences.countP (·.eventType = .fallbackScheduled)
  target : row.currentTarget =
    (lastWhere (fun event => event.eventType = .stockReservationRequested) occurrences).bind (·.target)
  status : row.status = (Replay.of occurrences).status
  lastResult : row.lastResult = (Replay.of occurrences).lastResult

/-! ## What a move adds -/

namespace Move

variable {config : ExperimentConfig} {db : OrdersDb} {draw : Draw} {row row' : TaskRow} {cause : Cause}
  {columns : List EventColumns} {effects : List Effect} {opens : Bool}

/-- The counters grow by the rows that stand for them. -/
theorem counts (move : Move config db draw row cause row' columns effects opens) :
    row'.attemptNumber = row.attemptNumber + columns.countP (·.eventType = .retryScheduled) ∧
      row'.waitCount = row.waitCount + columns.countP (·.eventType = .waitScheduled) ∧
      row'.fallbackUsed.toNat =
        row.fallbackUsed.toNat + columns.countP (·.eventType = .fallbackScheduled) := by
  cases move with
  | repeated event | inert event | failed event | completed event =>
    rcases eventType_of_message event with type | type | type <;>
      simp [messageColumns, internalColumns, type, TaskRow.bumpSeq,
        TaskRow.setLastResult, TaskRow.complete]
  | fellBack decision decisionId items route action target alive unused =>
    simp [internalColumns, requestColumns, messageColumns, requestOf, MessageEnvelope.eventType,
      MessagePayload.eventType, TaskRow.bumpSeq, TaskRow.fallBack, unused]
  | timedOut | waitOver | retryDispatched | continued | retried | waited | aborted | deadLettered
  | deadLetterLogged =>
    simp [internalColumns, requestColumns, messageColumns, requestOf, MessageEnvelope.eventType,
      MessagePayload.eventType, TaskRow.bumpSeq, TaskRow.setLastResult,
      TaskRow.setStatus, TaskRow.dispatchTo, TaskRow.retry, TaskRow.wait]

end Move

/-- The attempt and the route of the latest request. -/
def TaskFile.latest (file : TaskFile) : Option (ℕ × Option Target) :=
  file.requests.getLast?.map fun request => (request.attemptNumber, request.target)

/-- What a replay of the trajectory of a file should arrive at. -/
def TaskFile.replay (file : TaskFile) : Replay := ⟨file.row.status, file.latest, file.row.lastResult⟩

namespace Requested

variable {file : TaskFile}

/-- No two requests of a task share the attempt and the route. -/
theorem latest_ne (holds : Requested file) {request last : MessageEnvelope}
    (ends : file.requests.getLast? = some last) (asked : request ∈ file.requests) (other : request ≠ last) :
    file.latest ≠ some (request.attemptNumber, request.target) := by
  obtain ⟨init, split⟩ := List.getLast?_eq_some_iff.mp ends
  have spread := holds.spread
  rw [split, List.pairwise_append] at spread
  rw [split] at asked
  have early : request ∈ init :=
    (List.mem_append.mp asked).resolve_right fun late => other (List.mem_singleton.mp late)
  obtain ⟨primary, increasing⟩ := spread.2.2 request early last (List.mem_singleton_self _)
  rw [TaskFile.latest, ends, Option.map_some]
  intro same
  obtain ⟨attempt, target⟩ := Prod.mk.inj (Option.some_inj.mp same)
  exact (increasing (target.trans primary)).ne attempt.symm

/-- So they tell the latest request. -/
theorem latest_eq_iff (holds : Requested file) {request : MessageEnvelope} (asked : request ∈ file.requests) :
    file.latest = some (request.attemptNumber, request.target) ↔ file.requests.getLast? = some request := by
  constructor
  · intro latest
    cases ends : file.requests.getLast? with
    | none =>
      rw [TaskFile.latest, ends] at latest
      cases latest
    | some last =>
      by_contra other
      exact holds.latest_ne ends asked (fun same => other (congrArg some same.symm)) latest
  · intro ends
    rw [TaskFile.latest, ends, Option.map_some]

end Requested

/-- A reply carries the attempt and the route of the latest request exactly when it is current. -/
theorem latest_iff_current {deployment : Deployment} {s : OrdersService}
    (reachable : (ordersMachine deployment).Reachable s) {task : TaskId} {file : TaskFile}
    (found : s.file? task = some file) {event : MessageEnvelope}
    (promised : s.deliverable (.inventoryEvent event)) (own : event.taskId = task) :
    file.latest = some (event.attemptNumber, event.target) ↔ s.db.isCurrent event = true := by
  obtain ⟨request, asked, answers⟩ := OrdersService.exists_request_of_deliverable found promised own
  rw [isCurrent_iff_latest reachable found asked answers own, answers.2.2.2.1, answers.2.2.2.2.2.1]
  exact (reachable_requested reachable found).latest_eq_iff asked

section After

variable {config : ExperimentConfig} {draw : Draw} {file : TaskFile} {row' : TaskRow}
  {columns : List EventColumns} {effects : List Effect} {n : ℕ} {point : DecisionPoint}
  {received : List MessageEnvelope} {executed : List Execution}

private theorem replay_of_quiet (quiet : effects.filterMap Effect.request? = []) :
    (file.after n row' columns point received effects executed).replay =
      ⟨row'.status, file.latest, row'.lastResult⟩ := by
  rw [TaskFile.replay, TaskFile.latest, TaskFile.requests_after_of_quiet quiet]
  rfl

private theorem replay_of_request (decisionId : DecisionId) (items : List OrderItem) (route : Target) :
    (file.after n row' columns point received (requestEffects config row' decisionId draw items route)
      executed).replay = ⟨row'.status, some (row'.attemptNumber, row'.currentTarget), row'.lastResult⟩ := by
  rw [TaskFile.replay, TaskFile.latest, TaskFile.requests_after_of_request, List.getLast?_concat]
  rfl

end After

/-- Replaying the rows of a move arrives at the row it leaves. -/
private theorem replay_move {deployment : Deployment} {s : OrdersService}
    (reachable : (ordersMachine deployment).Reachable s) {task : TaskId} {file : TaskFile}
    (found : s.file? task = some file) {opens : Bool} {label : OrdersLabel}
    {draw : Draw} {cause : Cause} {row' : TaskRow} {columns : List EventColumns} {effects : List Effect}
    {point : DecisionPoint} {executed : List Execution}
    (move : Move deployment.config s.db draw file.row cause row' columns effects opens)
    (happens : Happens deployment s file.row opens label draw cause file.point point executed)
    (occurs : row'.currentEventSeq = file.row.currentEventSeq + columns.length) {n : ℕ} :
    columns.foldl Replay.step file.replay =
      (file.after n row' columns point cause.received effects executed).replay := by
  have controlled := reachable_controlled reachable found
  have latest_iff : ∀ {event : MessageEnvelope}, cause = .message (.inventoryEvent event) →
      event.taskId = file.row.taskId →
      (file.latest = some (event.attemptNumber, event.target) ↔ s.db.isCurrent event = true) := by
    rintro event rfl about
    generalize file.point = openPoint at happens
    cases happens with
    | message _ _ _ promised =>
      exact latest_iff_current reachable found promised (about.trans (OrdersService.taskId_of_file found))
  cases move with
  | repeated => simp at occurs
  | inert event redelivered about fresh type late =>
    rw [replay_of_quiet rfl]
    rcases late with settled | ⟨failed, stale⟩
    · simp [TaskFile.replay, Replay.step, Replay.resultAfter, statusAfter, messageColumns, settled, type,
        TaskRow.bumpSeq]
    · have other : file.latest ≠ some (event.attemptNumber, event.target) := by
        rw [ne_eq, latest_iff rfl about, stale]
        exact Bool.false_ne_true
      cases content : event.payload <;>
        simp [TaskFile.replay, Replay.step, Replay.resultAfter, statusAfter, messageColumns, other, content,
          MessageEnvelope.eventType, MessagePayload.eventType, TaskRow.bumpSeq] at failed ⊢
  | failed event payload redelivered about fresh type alive current =>
    have latest := (latest_iff rfl about).mpr current
    rw [replay_of_quiet rfl]
    simp [TaskFile.replay, Replay.step, Replay.resultAfter, statusAfter, messageColumns, alive, latest,
      MessageEnvelope.eventType, type, MessagePayload.eventType, TaskRow.bumpSeq, TaskRow.setLastResult]
  | completed event payload redelivered about fresh type alive =>
    rw [replay_of_quiet rfl]
    simp [TaskFile.replay, Replay.step, Replay.resultAfter, statusAfter, messageColumns, internalColumns, alive,
      MessageEnvelope.eventType, type, MessagePayload.eventType, TaskRow.bumpSeq, TaskRow.complete]
  | timedOut request alive =>
    rw [replay_of_quiet rfl]
    simp [TaskFile.replay, Replay.step, Replay.resultAfter, statusAfter, internalColumns, alive,
      TaskRow.bumpSeq, TaskRow.setLastResult]
  | waitOver waiting =>
    rw [replay_of_quiet rfl]
    simp [TaskFile.replay, Replay.step, Replay.resultAfter, statusAfter, internalColumns, waiting,
      TaskRow.bumpSeq]
  | retryDispatched decisionId items route retrying =>
    rw [replay_of_request]
    simp [TaskFile.replay, Replay.step, Replay.resultAfter, statusAfter, requestColumns, messageColumns,
      requestOf, MessageEnvelope.eventType, MessagePayload.eventType, retrying, TaskStatus.terminal,
      controlled.route_of_retrying retrying, TaskRow.bumpSeq, TaskRow.setStatus]
  | continued decision decisionId items action status =>
    rw [replay_of_request]
    rcases status with status | status <;>
      simp [TaskFile.replay, Replay.step, Replay.resultAfter, statusAfter, requestColumns, messageColumns,
        requestOf, MessageEnvelope.eventType, MessagePayload.eventType, status, TaskStatus.terminal,
        TaskRow.bumpSeq, TaskRow.dispatchTo]
  | retried decision decisionId action alive =>
    rw [replay_of_quiet rfl]
    simp [TaskFile.replay, Replay.step, Replay.resultAfter, statusAfter, internalColumns, alive,
      TaskRow.bumpSeq, TaskRow.retry]
  | waited decision decisionId action alive =>
    rw [replay_of_quiet rfl]
    simp [TaskFile.replay, Replay.step, Replay.resultAfter, statusAfter, internalColumns, alive,
      TaskRow.bumpSeq, TaskRow.wait]
  | fellBack decision decisionId items route action target alive =>
    obtain ⟨-, toFallback⟩ : file.row.fallbackUsed = false ∧ decision.target = some .inventoryFallback := by
      simpa only [Permits, action] using happens.permitted decision decisionId rfl
    obtain rfl : route = .inventoryFallback := by simpa [target] using toFallback
    have processing : TaskStatus.fallbackProcessing.terminal = false := rfl
    rw [replay_of_request]
    simp [TaskFile.replay, Replay.step, Replay.resultAfter, statusAfter, internalColumns, requestColumns,
      messageColumns, requestOf, MessageEnvelope.eventType, MessagePayload.eventType, alive, processing,
      TaskRow.bumpSeq, TaskRow.fallBack]
  | aborted decision decisionId action alive | deadLettered letter about alive =>
    rw [replay_of_quiet rfl]
    simp [TaskFile.replay, Replay.step, Replay.resultAfter, statusAfter, internalColumns, alive,
      TaskRow.bumpSeq, TaskRow.setStatus]
  | deadLetterLogged letter about settled =>
    rw [replay_of_quiet rfl]
    simp [TaskFile.replay, Replay.step, Replay.resultAfter, statusAfter, internalColumns, settled,
      TaskRow.bumpSeq]

/-- The row of a file agrees with the occurrences of its trajectory. -/
structure Folded (file : TaskFile) (columns : List EventColumns) : Prop where
  eventSeq : file.row.currentEventSeq = columns.length
  attempt : file.row.attemptNumber = 1 + columns.countP (·.eventType = .retryScheduled)
  waits : file.row.waitCount = columns.countP (·.eventType = .waitScheduled)
  fallback : file.row.fallbackUsed.toNat = columns.countP (·.eventType = .fallbackScheduled)
  replay : Replay.of columns = file.replay

/-- The rows that occurred, as they were written. -/
def TaskFile.occurred (file : TaskFile) : List EventColumns :=
  (occurrences file.events).map (·.toEventColumns)

theorem reachable_folded {deployment : Deployment} {s : OrdersService}
    (reachable : (ordersMachine deployment).Reachable s) {task : TaskId} {file : TaskFile}
    (found : s.file? task = some file) : Folded file file.occurred := by
  refine reachable_file (P := fun file => Folded file file.occurred) ?_ ?_ reachable task file found
  · intro task _ now n _
    exact ⟨rfl, rfl, rfl, rfl, rfl⟩
  · intro s label task file file' reachable found holds step
    cases step with
    | same => exact holds
    | closed | built | noted | declined =>
      exact ⟨holds.eventSeq, holds.attempt, holds.waits, holds.fallback, holds.replay⟩
    | moved draw cause row' columns effects opens point executed move happens =>
      rcases occurrences_of_move (reachable_ledger reachable) found move happens with
        ⟨rfl, rfl, same⟩ | ⟨occurs, added⟩
      · have occurred : (file.after s.db.taskEvents.rows.length file.row columns point cause.received []
            executed).occurred = file.occurred := congrArg (List.map _) same
        rw [occurred]
        exact ⟨holds.eventSeq, holds.attempt, holds.waits, holds.fallback,
          holds.replay.trans (replay_of_quiet rfl).symm⟩
      · have occurred : (file.after s.db.taskEvents.rows.length row' columns point cause.received effects
            executed).occurred = file.occurred ++ columns := by
          rw [TaskFile.occurred, TaskFile.after, added, List.map_append, map_numbered]
          rfl
        obtain ⟨attempt, waits, fallback⟩ := move.counts
        rw [occurred]
        refine ⟨?_, ?_, ?_, ?_, ?_⟩
        · rw [List.length_append, ← holds.eventSeq]
          exact occurs
        · rw [List.countP_append, ← Nat.add_assoc, ← holds.attempt]
          exact attempt
        · rw [List.countP_append, ← holds.waits]
          exact waits
        · rw [List.countP_append, ← holds.fallback]
          exact fallback
        · rw [Replay.of_append, holds.replay]
          exact replay_move reachable found move happens occurs

/-- Every row of every reachable state is recomputed from the distinct occurrences of its task. -/
theorem row_recomputed {deployment : Deployment} {s : OrdersService}
    (reachable : (ordersMachine deployment).Reachable s) {task : TaskId} {row : TaskRow}
    (found : s.db.task? task = some row) :
    Recomputed row ((s.db.distinctOccurrences task).map (·.toEventColumns)) := by
  obtain ⟨file, here, rfl, -, -⟩ := file?_of_task? found
  have folded := reachable_folded reachable here
  have requested := reachable_requested reachable here
  rw [distinctOccurrences_eq (reachable_ledger reachable) here]
  change Recomputed file.row file.occurred
  refine ⟨folded.eventSeq, folded.attempt, folded.waits, folded.fallback, ?_, ?_, ?_⟩
  · have targets := congrArg (Option.map Prod.snd) (Replay.requested_of file.occurred)
    rw [folded.replay, TaskFile.replay, TaskFile.latest, Option.map_map, Option.map_map] at targets
    have last := targets.symm.trans requested.latest
    cases asked : lastWhere (fun event => event.eventType = .stockReservationRequested) file.occurred with
    | none =>
      rw [asked, Option.map_none, eq_comm, Option.map_eq_none_iff] at last
      exact last
    | some request =>
      rw [asked, Option.map_some, eq_comm, Option.map_eq_some_iff] at last
      obtain ⟨target, route, same⟩ := last
      exact route.trans same
  · rw [folded.replay]
    rfl
  · rw [folded.replay]
    rfl

/-- The row after a failure and a retry. -/
theorem row_recomputed_pilot : ∃ s row, (ordersMachine .pilot).Reachable s ∧ s.db.task? 1 = some row ∧
    row.lastResult = some .timeout ∧ row.status = .dispatched ∧
    Recomputed row ((s.db.distinctOccurrences 1).map (·.toEventColumns)) := by
  obtain ⟨s, reachable, passes⟩ : ∃ s, (ordersMachine .pilot).Reachable s ∧
      ((s.db.task? 1).any fun row => row.lastResult = some .timeout ∧ row.status = .dispatched) = true :=
    Machine.exists_reachable_of_replay? (firstDispatch ++
      [.consume (.timeoutCheck 1 10) false ⟨11, 2002⟩, .build .worker (.calm 2003 2),
        .decide .worker (.proposing .retry (some .inventoryPrimary) .transientRetry) 2 ⟨12, 2004⟩,
        .consume (.dispatchAttempt 1 2) false ⟨15, 2504⟩]) (by decide +kernel)
  obtain ⟨row, found, holds⟩ := (Option.any_eq_true _ _).mp passes
  rw [decide_eq_true_eq] at holds
  exact ⟨s, row, reachable, found, holds.1, holds.2, row_recomputed reachable found⟩

end OrchLab
