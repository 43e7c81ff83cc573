import OrchLab.Soundness.Orders.Bounds
import OrchLab.Soundness.Orders.Fold
import OrchLab.Soundness.System.Triggers

/-! # What is pending for a task

A task that has not ended is acted on by its decision point, by the message its status waits for, or by a
dead letter. The guards accept what is pending, and a message that moves the task on leaves the next thing
pending.
-/

namespace OrchLab

/-- What will act on a task that has not ended. -/
inductive Pending (s : System) (file : TaskFile) : Prop
  | deadLetter (letter : DeadLetter) (queued : letter ∈ s.deadLetters)
      (own : letter.taskId = some file.row.taskId)
  | decisionPoint (opened : file.point ≠ .closed)
  | reevaluation (waiting : file.row.status = .waiting)
      (queued : .reevaluate file.row.taskId file.row.waitCount ∈ s.events)
      (unfinished : waitFinished file.events file.row.waitCount = false)
  | dispatch (decisionId : DecisionId) (retrying : file.row.status = .retrying)
      (latest : latestRetry file.events = some decisionId)
      (queued : .dispatchAttempt file.row.taskId decisionId ∈ s.events)
  | reply (request : MessageEnvelope)
      (status : file.row.status = .dispatched ∨ file.row.status = .fallbackProcessing)
      (latest : file.requests.getLast? = some request)
      (unanswered : ∀ event ∈ file.received, event.eventSeq ≠ request.eventSeq)
      (inFlight : (∃ route, ⟨request, route⟩ ∈ s.requests) ∨
        ∃ reply, .inventoryEvent reply ∈ s.events ∧ reply.Answers request)

/-! ## The log of waits and retries -/

@[simp] theorem MessageEnvelope.eventType_ne_waitFinished (event : MessageEnvelope) :
    event.eventType ≠ .waitFinished := by
  rcases eventType_of_message event with is | is | is <;> simp [is]

namespace Move

variable {config : ExperimentConfig} {db : OrdersDb} {draw : Draw} {row row' : TaskRow} {cause : Cause}
  {columns : List EventColumns} {effects : List Effect} {opens : Bool}

/-- Only the end of the current wait is recorded as one. -/
theorem columns_waitFinished (move : Move config db draw row cause row' columns effects opens) :
    ∀ event ∈ columns, event.eventType = .waitFinished →
      opens = true ∧ event.payload = some (.waitFinished row.waitCount) := by
  cases move <;> simp [messageColumns, internalColumns, requestColumns]

theorem waitCount_le (move : Move config db draw row cause row' columns effects opens) :
    row.waitCount ≤ row'.waitCount := by
  cases move <;> simp [TaskRow.bumpSeq, TaskRow.setLastResult, TaskRow.complete, TaskRow.setStatus,
    TaskRow.dispatchTo, TaskRow.retry, TaskRow.wait, TaskRow.fallBack]

end Move

/-- A wait that has been finished was counted. -/
theorem waitFinished_le {deployment : Deployment} {s : OrdersService}
    (reachable : (ordersMachine deployment).Reachable s) {task : TaskId} {file : TaskFile}
    (found : s.file? task = some file) {waitCount : ℕ} (finished : waitFinished file.events waitCount = true) :
    waitCount ≤ file.row.waitCount := by
  refine reachable_file (P := fun file => ∀ waitCount, waitFinished file.events waitCount = true →
    waitCount ≤ file.row.waitCount) ?_ ?_ reachable task file found waitCount finished
  · intro task itemsJson now n _ waitCount finished
    simp [waitFinished, TaskFile.created, numbered, OrdersDb.taskCreatedColumns] at finished
  · intro s label task file file' _ _ holds step
    cases step with
    | same | closed | built | noted | declined => exact holds
    | moved draw cause row' columns effects opens point executed move happens =>
      intro waitCount finished
      rw [waitFinished, TaskFile.after, List.any_append, Bool.or_eq_true] at finished
      rcases finished with old | new
      · exact (holds waitCount old).trans move.waitCount_le
      · obtain ⟨event, member, type⟩ := List.any_eq_true.mp new
        rw [Bool.and_eq_true, decide_eq_true_eq, decide_eq_true_eq] at type
        obtain ⟨-, payload⟩ := move.columns_waitFinished _ (mem_of_mem_numbered member) type.1
        obtain ⟨-, counted⟩ := type
        rw [payload] at counted
        cases counted
        exact move.waitCount_le

/-! ## What is pending is accepted -/

section Accepts

variable {deployment : Deployment} {s : System} {task : TaskId} {file : TaskFile}

theorem accepts_reevaluation (found : s.service.file? task = some file) (waiting : file.row.status = .waiting)
    (unfinished : waitFinished file.events file.row.waitCount = false) :
    s.service.db.accepts (.reevaluate file.row.taskId file.row.waitCount) = true := by
  obtain ⟨row, -, events, -⟩ := file?_eq_some_iff.mp found
  rw [← OrdersService.taskId_of_file found] at row events
  simp [OrdersDb.accepts, row, waiting, ← events, unfinished]

theorem accepts_dispatch (found : s.service.file? task = some file) (retrying : file.row.status = .retrying)
    (decisionId : DecisionId) : s.service.db.accepts (.dispatchAttempt file.row.taskId decisionId) = true := by
  have row := (file?_eq_some_iff.mp found).1
  rw [← OrdersService.taskId_of_file found] at row
  simp [OrdersDb.accepts, row, retrying]

theorem accepts_reply (network : Network s) (alone : (ordersMachine deployment).Reachable s.service)
    (found : s.service.file? task = some file) (alive : file.row.status.terminal = false)
    {request reply : MessageEnvelope} (latest : file.requests.getLast? = some request)
    (unanswered : ∀ event ∈ file.received, event.eventSeq ≠ request.eventSeq) (answers : reply.Answers request)
    (queued : .inventoryEvent reply ∈ s.events) : s.service.db.accepts (.inventoryEvent reply) = true := by
  obtain ⟨row, -, -, -, received, -, -⟩ := file?_eq_some_iff.mp found
  have own : reply.taskId = task := by
    have asked := List.mem_of_getLast? latest
    rw [OrdersService.requests_of_file found] at asked
    rw [answers.2.1, of_decide_eq_true (List.mem_filter.mp asked).2]
  have fresh : s.service.db.isEventProcessed reply.messageId = false := by
    rw [Bool.eq_false_iff]
    intro processed
    obtain ⟨event, here, same⟩ := ((reachable_ledger alone).processed reply.messageId).mp processed
    obtain rfl := (network.deliverable queued).2.2 event here same
    refine unanswered event ?_ answers.2.2.1
    rw [received, List.mem_filter]
    exact ⟨here, by simpa using own⟩
  have type : reply.eventType = .stockReservationSucceeded ∨ reply.eventType = .stockReservationFailed :=
    (eventType_of_message reply).resolve_left answers.2.2.2.2.2.2
  simp [OrdersDb.accepts, OrdersDb.alive, own, row, alive, fresh, type,
    (isCurrent_iff alone found latest own).mpr answers.2.2.1]

end Accepts

/-! ## What stays pending -/

/-- A change of a file that leaves what the task waits for. -/
structure TaskFile.Keeps (file file' : TaskFile) : Prop where
  taskId : file'.row.taskId = file.row.taskId
  status : file'.row.status = file.row.status
  waitCount : file'.row.waitCount = file.row.waitCount
  point : file'.point = file.point
  finished : ∀ waitCount, waitFinished file'.events waitCount = waitFinished file.events waitCount
  retry : latestRetry file'.events = latestRetry file.events
  requests : file'.requests = file.requests
  received : ∀ event ∈ file'.received, event ∈ file.received ∨
    ∀ request, file.requests.getLast? = some request → event.eventSeq ≠ request.eventSeq

theorem TaskFile.Keeps.refl (file : TaskFile) : file.Keeps file :=
  ⟨rfl, rfl, rfl, rfl, fun _ => rfl, rfl, rfl, fun _ => .inl⟩

namespace Pending

variable {deployment : Deployment} {s t : System} {task : TaskId} {file file' : TaskFile}

/-- What is pending stays pending while accepted messages and requests stay, or requests get replies. -/
theorem keep (pending : Pending s file) (network : Network s)
    (alone : (ordersMachine deployment).Reachable s.service) (found : s.service.file? task = some file)
    (alive : file.row.status.terminal = false) (keeps : file.Keeps file')
    (letters : ∀ letter ∈ s.deadLetters, letter.taskId = some file.row.taskId → letter ∈ t.deadLetters)
    (events : ∀ message ∈ s.events, message.taskId = file.row.taskId →
      s.service.db.accepts message = true → message ∈ t.events)
    (requests : ∀ request ∈ s.requests, request.envelope.taskId = file.row.taskId → request ∈ t.requests ∨
      ∃ reply, .inventoryEvent reply ∈ t.events ∧ reply.Answers request.envelope) : Pending t file' := by
  cases pending with
  | deadLetter letter queued own => exact .deadLetter letter (letters letter queued own) (keeps.taskId ▸ own)
  | decisionPoint opened => exact .decisionPoint (keeps.point ▸ opened)
  | reevaluation waiting queued unfinished =>
    have kept := events _ queued rfl (accepts_reevaluation found waiting unfinished)
    refine .reevaluation (keeps.status.trans waiting) ?_ ?_
    · rwa [keeps.taskId, keeps.waitCount]
    · rwa [keeps.finished, keeps.waitCount]
  | dispatch decisionId retrying latest queued =>
    have kept := events _ queued rfl (accepts_dispatch found retrying decisionId)
    refine .dispatch decisionId (keeps.status.trans retrying) (keeps.retry.trans latest) ?_
    rwa [keeps.taskId]
  | reply request status latest unanswered inFlight =>
    have own : request.taskId = file.row.taskId := by
      have asked := List.mem_of_getLast? latest
      rw [OrdersService.requests_of_file found] at asked
      rw [of_decide_eq_true (List.mem_filter.mp asked).2, OrdersService.taskId_of_file found]
    refine .reply request (by rwa [keeps.status]) (by rwa [keeps.requests]) (fun event member => ?_) ?_
    · exact (keeps.received event member).elim (unanswered event) fun apart => apart request latest
    · rcases inFlight with ⟨route, queued⟩ | ⟨reply, queued, answers⟩
      · exact (requests _ queued own).imp_left fun kept => ⟨route, kept⟩
      · refine .inr ⟨reply, events _ queued (answers.2.1.trans own) ?_, answers⟩
        exact accepts_reply network alone found alive latest unanswered answers queued

/-! ### What a move leaves pending -/

/-- A published request waits for its reply. -/
theorem of_asks {config : ExperimentConfig} {draw : Draw} {row' : TaskRow} {columns : List EventColumns}
    {effects : List Effect} {n : ℕ} {point : DecisionPoint} {executed : List Execution}
    (asks : Asks config draw file.row row' columns effects)
    (status : row'.status = .dispatched ∨ row'.status = .fallbackProcessing)
    (earlier : ∀ event ∈ file.received, event.eventSeq ≤ file.row.currentEventSeq)
    (published : ∀ request ∈ effects.filterMap Effect.routed?, request ∈ t.requests) :
    Pending t (file.after n row' columns point [] effects executed) := by
  obtain ⟨decisionId, items, route, first, -, rfl, -, -⟩ := asks.request
  refine .reply (requestOf row' decisionId draw items) status ?_ (fun event member => ?_)
    (.inl ⟨route, published _ ?_⟩)
  · rw [TaskFile.requests_after_of_request]
    exact List.getLast?_concat
  · rw [TaskFile.after, List.append_nil] at member
    exact ((earlier event member).trans_lt asks.eventSeq).ne
  · exact List.mem_cons_self ..

variable {row' : TaskRow} {columns : List EventColumns} {effects : List Effect} {draw : Draw}

/-- A decision that leaves the task alive schedules what comes next. -/
theorem of_decision (alone : (ordersMachine deployment).Reachable s.service)
    (found : s.service.file? task = some file) {decision : Decision} {decisionId : DecisionId}
    (move : Move deployment.config s.service.db draw file.row (.decision decision decisionId) row' columns
      effects false)
    (permits : Permits deployment.config file.row decision) (alive : row'.status.terminal = false)
    (scheduled : ∀ message ∈ effects.filterMap Effect.message?, message ∈ t.events)
    (published : ∀ request ∈ effects.filterMap Effect.routed?, request ∈ t.requests) (n : ℕ)
    (executed : List Execution) : Pending t (file.after n row' columns .closed [] effects executed) := by
  have earlier := OrdersService.eventSeq_le_of_received alone found
  have asks_or : effects.filterMap Effect.request? ≠ [] → Asks deployment.config draw file.row row' columns
      effects := fun sent => (move.quiet_or_asks (by rintro _ _ ⟨⟩; exact permits) (by rintro _ ⟨⟩)).resolve_left
        fun quiet => sent quiet.effects
  cases move with
  | continued => exact of_asks (asks_or (by simp [requestEffects, Effect.request?])) (.inl rfl) earlier published
  | fellBack => exact of_asks (asks_or (by simp [requestEffects, Effect.request?])) (.inr rfl) earlier published
  | retried =>
    refine .dispatch decisionId rfl ?_ (scheduled _ (List.mem_singleton_self _))
    simp [latestRetry, TaskFile.after, numbered, internalColumns, EventPayload.retry?]
  | waited =>
    refine .reevaluation rfl (scheduled _ (List.mem_singleton_self _)) ?_
    rw [Bool.eq_false_iff]
    intro finished
    have counted : file.row.waitCount + 1 ≤ file.row.waitCount := by
      refine waitFinished_le alone found ?_
      simpa [TaskFile.after, numbered, internalColumns, TaskRow.wait, TaskRow.bumpSeq] using finished
    exact absurd counted (Nat.not_succ_le_self _)
  | aborted => cases alive

/-- A row for an event changes nothing the task waits for. -/
private theorem keeps_of_event {n eventSeq : ℕ} {event : MessageEnvelope} {redelivered : Bool} {now : Timestamp}
    (closed : file.point = .closed) (taskId : row'.taskId = file.row.taskId)
    (status : row'.status = file.row.status) (waitCount : row'.waitCount = file.row.waitCount)
    (received : event ∈ file.received ∨ ∀ request, file.requests.getLast? = some request →
      event.eventSeq ≠ request.eventSeq) :
    file.Keeps
      (file.after n row' [messageColumns event eventSeq .inventory redelivered now] .closed [event] [] []) where
  taskId := taskId
  status := status
  waitCount := waitCount
  point := closed.symm
  finished waitCount := by simp [TaskFile.after, numbered, messageColumns]
  retry := by simp [latestRetry, TaskFile.after, numbered, messageColumns, EventPayload.retry?]
  requests := TaskFile.requests_after_of_quiet rfl
  received other member := by
    rcases List.mem_append.mp member with old | new
    · exact .inl old
    · obtain rfl := List.mem_singleton.mp new
      exact received

/-- A message that moves the task leaves it at a decision point, dispatched, ended, or as it was. -/
theorem of_message (pending : Pending s file) (network : Network s)
    (alone : (ordersMachine deployment).Reachable s.service) (found : s.service.file? task = some file)
    {message : OrdersMessage} {opens : Bool}
    (move : Move deployment.config s.service.db draw file.row (.message message) row' columns effects opens)
    (closed : file.point = .closed) (promised : s.service.deliverable message)
    (alive : row'.status.terminal = false)
    (letters : ∀ letter ∈ s.deadLetters, letter.taskId = some file.row.taskId → letter ∈ t.deadLetters)
    (events : ∀ other ∈ s.events, other ≠ message → other ∈ t.events)
    (requests : ∀ request ∈ s.requests, request ∈ t.requests)
    (published : ∀ request ∈ effects.filterMap Effect.routed?, request ∈ t.requests) (n : ℕ) :
    Pending t (file.after n row' columns (if opens then .opened file.row.taskId else .closed)
      (Cause.message message).received effects []) := by
  have kept : ∀ {file'}, file.row.status.terminal = false → file.Keeps file' →
      s.service.db.accepts message = false → Pending t file' := by
    intro file' live keeps refused
    refine pending.keep network alone found live keeps letters (fun other queued _ accepted => ?_)
      fun request queued _ => .inl (requests request queued)
    refine events other queued ?_
    rintro rfl
    rw [refused] at accepted
    cases accepted
  have asks_or : effects.filterMap Effect.request? ≠ [] → Asks deployment.config draw file.row row' columns
      effects := by
    refine fun sent => (move.quiet_or_asks (by rintro _ _ ⟨⟩) ?_).resolve_left fun quiet => sent quiet.effects
    rintro event ⟨⟩
    obtain ⟨⟨request, -, answers⟩, -⟩ := promised
    exact answers.2.2.2.2.2.2
  have own := OrdersService.taskId_of_file found
  cases move with
  | failed | timedOut | waitOver => exact .decisionPoint (by simp [TaskFile.after])
  | completed => cases alive
  | repeated event eventSeq task processed =>
    refine kept alive (keeps_of_event closed rfl rfl rfl (.inl ?_)) (by simp [OrdersDb.accepts, processed])
    obtain ⟨earlier, here, same⟩ := ((reachable_ledger alone).processed event.messageId).mp processed
    obtain rfl := promised.2.2 earlier here same
    rw [(file?_eq_some_iff.mp found).2.2.2.2.1, List.mem_filter]
    exact ⟨here, by simpa using task.trans own⟩
  | inert event redelivered task fresh type late =>
    obtain ⟨failed, superseded⟩ := late.resolve_left (by simpa [TaskRow.bumpSeq] using alive)
    refine kept alive (keeps_of_event closed rfl rfl rfl (.inr fun request latest same => ?_))
      (by simp [OrdersDb.accepts, failed, superseded])
    rw [(isCurrent_iff alone found latest (task.trans own)).mpr same] at superseded
    cases superseded
  | retryDispatched =>
    exact of_asks (asks_or (by simp [requestEffects, Effect.request?])) (.inl rfl)
      (OrdersService.eventSeq_le_of_received alone found)
      published

/-! ### What a step leaves pending -/

/-- A message that is consumed leaves its task pending when its effects are performed or it becomes a dead
letter, and every other task as it was. -/
theorem of_consume (pending : file.row.status.terminal = false → Pending s file) (network : Network s)
    (alone : (ordersMachine deployment).Reachable s.service) (found : s.service.file? task = some file)
    {message : OrdersMessage} {redelivered : Bool} {handled : Handled}
    (success : s.service.db.handle deployment.config message redelivered draw = .ok handled)
    (moves : FileStep deployment s.service (.consume message redelivered draw) file file')
    (alive : file'.row.status.terminal = false)
    (letters : s.deadLetters ⊆ t.deadLetters)
    (events : ∀ other ∈ s.events, other ≠ message → other ∈ t.events) (requests : s.requests ⊆ t.requests)
    (performed : message.deadLetter ∈ t.deadLetters ∨
      ∀ request ∈ handled.effects.filterMap Effect.routed?, request ∈ t.requests) : Pending t file' := by
  have keep : ∀ {file'}, file.row.status.terminal = false → file.Keeps file' →
      (message.taskId = file.row.taskId → s.service.db.accepts message = false) → Pending t file' := by
    intro file' live keeps refused
    refine (pending live).keep network alone found live keeps (fun letter queued _ => letters queued)
      (fun other queued own accepted => events other queued ?_) fun request queued _ => .inl (requests queued)
    rintro rfl
    rw [refused own] at accepted
    cases accepted
  rcases moves.of_consume with ⟨rfl, spares⟩ | ⟨event, rfl, own, promised, processed, rfl⟩ |
    ⟨row', columns, effects, opens, move, promised, closed, ⟨db, yields⟩, rfl⟩
  · refine keep alive (.refl file') fun own => OrdersDb.not_accepts_of_ignores ?_
    refine (spares own).resolve_right ?_
    rintro ⟨error, raises⟩
    rw [success] at raises
    cases raises
  · refine keep alive ⟨rfl, rfl, rfl, rfl, fun _ => rfl, rfl, rfl, fun other member => ?_⟩ fun _ => by
      simp [OrdersDb.accepts, processed]
    rcases List.mem_append.mp member with old | new
    · exact .inl old
    · obtain rfl := List.mem_singleton.mp new
      obtain ⟨earlier, here, same⟩ := ((reachable_ledger alone).processed other.messageId).mp processed
      obtain rfl := promised.2.2 earlier here same
      refine .inl ?_
      rw [(file?_eq_some_iff.mp found).2.2.2.2.1, List.mem_filter]
      exact ⟨here, by simpa using own.trans (OrdersService.taskId_of_file found)⟩
  · rw [success] at yields
    cases yields
    rcases performed with letter | published
    · refine .deadLetter _ letter ?_
      rw [OrdersMessage.deadLetter_taskId, move.message_taskId]
      exact congrArg some move.keeps.taskId.symm
    · cases settled : file.row.status.terminal with
      | true => exact absurd (move.status_of_terminal settled ▸ alive) (by simp [settled])
      | false =>
        exact of_message (pending settled) network alone found move closed promised alive
          (fun letter queued _ => letters queued) events (fun request queued => requests queued) published _

/-- The worker's decision point that is interrupted leaves a dead letter of its task. -/
theorem of_interrupted (network : Network s) (own : (s.service.points .worker).task? = some file.row.taskId)
    {next : System} (holding : next.holding = s.holding) (count : ℕ)
    (same : file'.row.taskId = file.row.taskId) : Pending (next.leave .worker (.raised count)) file' := by
  obtain ⟨message, held⟩ := network.busy fun closed => by rw [closed] at own; cases own
  have about := (network.held message held).symm.trans own
  refine .deadLetter _ (next.deadLetter_mem_leave message (holding.trans held)) ?_
  rw [OrdersMessage.deadLetter_taskId, about, same]

/-- What is pending for a task that a step does not touch stays pending. -/
theorem same (pending : Pending s file) (network : Network s)
    (alone : (ordersMachine deployment).Reachable s.service) (found : s.service.file? task = some file)
    (alive : file.row.status.terminal = false) (letters : s.deadLetters ⊆ t.deadLetters)
    (events : s.events ⊆ t.events) (requests : s.requests ⊆ t.requests) : Pending t file :=
  pending.keep network alone found alive (.refl file) (fun _ queued _ => letters queued)
    (fun _ queued _ _ => events queued) fun _ queued _ => .inl (requests queued)

/-- The end of a decision point takes nothing that is pending from another task. -/
theorem leave (pending : Pending s file) (network : Network s)
    (alone : (ordersMachine deployment).Reachable s.service) (found : s.service.file? task = some file)
    (alive : file.row.status.terminal = false) {next : System} (owner : DecisionOwner) (ending : Ending)
    (letters : next.deadLetters = s.deadLetters) (events : next.events = s.events)
    (requests : next.requests = s.requests) : Pending (next.leave owner ending) file := by
  refine pending.same network alone found alive ?_ ?_ ?_
  · exact letters ▸ System.deadLetters_subset_leave next owner ending
  · exact events ▸ System.events_subset_leave next owner ending
  · rw [System.leave_requests, requests]
    exact List.Subset.refl _

/-- A decision leaves its task pending when its effects are performed or the worker's message becomes a
dead letter. -/
theorem of_decide (pending : file.row.status.terminal = false → Pending s file) (network : Network s)
    (alone : (ordersMachine deployment).Reachable s.service) (found : s.service.file? task = some file)
    {owner : DecisionOwner} {output : EngineOutput} {decisionId : DecisionId} {state : SystemState}
    {decision : Decision} {db : OrdersDb} {result : ExecutionResult}
    (built : s.service.points owner = .built state)
    (resolved : deployment.validator.decision? state output = some decision)
    (success : s.service.db.execute deployment.config state.taskId decisionId draw decision =
      .ok (db, result, effects))
    (moves : FileStep deployment s.service (.decide owner output decisionId draw) file file')
    (alive : file'.row.status.terminal = false) (letters : s.deadLetters ⊆ t.deadLetters)
    (events : s.events ⊆ t.events) (requests : s.requests ⊆ t.requests)
    (performed : (state.taskId = file.row.taskId → Pending t file') ∨
      ((∀ message ∈ effects.filterMap Effect.message?, message ∈ t.events) ∧
        ∀ request ∈ effects.filterMap Effect.routed?, request ∈ t.requests)) : Pending t file' := by
  rcases moves.of_decide with ⟨rfl, -⟩ | ⟨⟨state', built', raises⟩, -⟩ |
    ⟨state', decision', built', valid, resolved', seen, approved, refused, rfl⟩ |
    ⟨state', decision', row', columns, effects', built', own, move, permits, yields, rfl⟩
  · exact (pending alive).same network alone found alive letters events requests
  · obtain rfl := DecisionPoint.built.inj (built.symm.trans built')
    cases resolved.symm.trans raises
  · obtain rfl := DecisionPoint.built.inj (built.symm.trans built')
    obtain rfl := Option.some.inj (resolved.symm.trans resolved')
    have describes := seen.resolve_left (by simpa using alive)
    obtain ⟨error, raises⟩ := refused.resolve_right (by simpa using alive)
    rw [describes.task, raises] at success
    cases success
  · obtain ⟨state'', decision'', db', result', built'', resolved'', success'⟩ := yields
    obtain rfl := DecisionPoint.built.inj (built.symm.trans built'')
    obtain rfl := DecisionPoint.built.inj (built.symm.trans built')
    obtain rfl := Option.some.inj (resolved.symm.trans resolved'')
    rw [success] at success'
    cases success'
    rcases performed with interrupted | ⟨scheduled, published⟩
    · exact interrupted own
    · exact of_decision alone found move permits alive scheduled published _ _

end Pending

end OrchLab
