import OrchLab.Soundness.Orders.Containment

/-! # Transactions that do not read the reason

The reason of an abort is written to the log and read by no query. So two databases that differ in such
reasons alone are read alike, and every transaction of the orders-service returns the same on both and leaves
them alike.
-/

namespace OrchLab

/-- The row without the reason, when it is the row of an abort. -/
def TaskEvent.erased (event : TaskEvent) : TaskEvent :=
  if event.eventType = .taskAborted then event.withoutReason else event

namespace TaskEvent

variable (event : TaskEvent)

@[simp] theorem erased_eventId : event.erased.eventId = event.eventId := by
  rw [erased]; split_ifs <;> rfl

@[simp] theorem erased_taskId : event.erased.taskId = event.taskId := by
  rw [erased]; split_ifs <;> rfl

@[simp] theorem erased_messageId : event.erased.messageId = event.messageId := by
  rw [erased]; split_ifs <;> rfl

@[simp] theorem erased_eventSeq : event.erased.eventSeq = event.eventSeq := by
  rw [erased]; split_ifs <;> rfl

@[simp] theorem erased_eventType : event.erased.eventType = event.eventType := by
  rw [erased]; split_ifs <;> rfl

@[simp] theorem erased_attemptNumber : event.erased.attemptNumber = event.attemptNumber := by
  rw [erased]; split_ifs <;> rfl

@[simp] theorem erased_service : event.erased.service = event.service := by
  rw [erased]; split_ifs <;> rfl

@[simp] theorem erased_redelivered : event.erased.redelivered = event.redelivered := by
  rw [erased]; split_ifs <;> rfl

@[simp] theorem erased_recordedAt : event.erased.recordedAt = event.recordedAt := by
  rw [erased]; split_ifs <;> rfl

variable {event}

theorem erased_of_ne (other : event.eventType ≠ .taskAborted) : event.erased = event := if_neg other

theorem withoutReason_erased : event.erased.withoutReason = event.withoutReason := by
  rw [erased]
  split_ifs
  · cases payload : event.payload with
    | none => simp [withoutReason, EventColumns.withoutReason, payload]
    | some payload' =>
      cases payload' <;>
        simp [withoutReason, EventColumns.withoutReason, payload, EventPayload.withoutReason]
  · rfl

end TaskEvent

/-! ## Reading a trajectory -/

section Readers

variable (events : List TaskEvent)

theorem latestRequest_map_erased : latestRequest (events.map TaskEvent.erased) = latestRequest events := by
  have same : (TaskEvent.isRequest ∘ TaskEvent.erased) = TaskEvent.isRequest := by
    funext event
    simp [TaskEvent.isRequest]
  have kept : (events.filter TaskEvent.isRequest).map TaskEvent.erased = events.filter TaskEvent.isRequest := by
    refine List.map_congr_left (g := id) (fun event member => ?_) |>.trans (List.map_id _)
    have request := List.of_mem_filter member
    simp only [TaskEvent.isRequest, Bool.and_eq_true, decide_eq_true_eq] at request
    exact TaskEvent.erased_of_ne (by simp [request.1])
  rw [latestRequest, latestRequest, lastWhere, lastWhere, List.filter_map, same, kept]

theorem isAwaitingReply_map_erased (request : MessageId) :
    isAwaitingReply (events.map TaskEvent.erased) request = isAwaitingReply events request := by
  simp only [isAwaitingReply, latestRequest_map_erased, List.any_map]
  cases latestRequest events with
  | none => rfl
  | some latest => simp [Function.comp_def]

theorem timeoutRegistered_map_erased (request : MessageId) :
    timeoutRegistered (events.map TaskEvent.erased) request = timeoutRegistered events request := by
  simp only [timeoutRegistered, List.any_map]
  refine List.any_congr rfl fun event => ?_
  by_cases type : event.eventType = .inventoryTimeout
  · simp [TaskEvent.erased_of_ne, type]
  · simp [type]

theorem waitFinished_map_erased (waitCount : ℕ) :
    waitFinished (events.map TaskEvent.erased) waitCount = waitFinished events waitCount := by
  simp only [waitFinished, List.any_map]
  refine List.any_congr rfl fun event => ?_
  by_cases type : event.eventType = .waitFinished
  · simp [TaskEvent.erased_of_ne, type]
  · simp [type]

theorem latencyMs_map_erased (now : Timestamp) :
    latencyMs (events.map TaskEvent.erased) now = latencyMs events now := by
  simp only [latencyMs, latestRequest_map_erased, List.find?_map, Function.comp_def, TaskEvent.erased_service,
    TaskEvent.erased_redelivered, TaskEvent.erased_eventId]
  cases latestRequest events with
  | none => rfl
  | some latest =>
    simp only
    cases latest.publishedAt with
    | none => rfl
    | some publishedAt =>
      simp only
      cases events.find? _ <;> simp

theorem lastEventRedelivered_map_erased :
    lastEventRedelivered (events.map TaskEvent.erased) = lastEventRedelivered events := by
  rw [lastEventRedelivered, lastEventRedelivered, List.getLast?_map, Option.map_map]
  congr 2
  funext event
  simp

end Readers

/-! ## Databases that differ in reasons -/

namespace OrdersDb

/-- The tables are the same, but for the reasons in the rows of aborts. -/
structure SameButAborts (one two : OrdersDb) : Prop where
  orders : two.orders = one.orders
  tasks : two.tasks = one.tasks
  processedEvents : two.processedEvents = one.processedEvents
  rows : two.taskEvents.rows.map TaskEvent.erased = one.taskEvents.rows.map TaskEvent.erased

namespace SameButAborts

variable {one two : OrdersDb}

theorem refl (db : OrdersDb) : db.SameButAborts db := ⟨rfl, rfl, rfl, rfl⟩

theorem sameButReasons (same : one.SameButAborts two) : one.SameButReasons two where
  orders := same.orders.symm
  tasks := same.tasks.symm
  processedEvents := same.processedEvents.symm
  taskEvents := by
    have erased := congrArg (List.map TaskEvent.withoutReason) same.rows
    simp only [List.map_map, Function.comp_def, TaskEvent.withoutReason_erased] at erased
    exact erased.symm

theorem task? (same : one.SameButAborts two) (task : TaskId) : two.task? task = one.task? task := by
  rw [OrdersDb.task?, same.tasks]
  rfl

theorem order? (same : one.SameButAborts two) (order : OrderId) : two.order? order = one.order? order := by
  rw [OrdersDb.order?, same.orders]
  rfl

theorem isEventProcessed (same : one.SameButAborts two) (message : MessageId) :
    two.isEventProcessed message = one.isEventProcessed message := by
  rw [OrdersDb.isEventProcessed, same.processedEvents]
  rfl

theorem length_rows (same : one.SameButAborts two) : two.taskEvents.rows.length = one.taskEvents.rows.length := by
  simpa using congrArg List.length same.rows

theorem trajectory (same : one.SameButAborts two) (task : TaskId) :
    (two.trajectory task).map TaskEvent.erased = (one.trajectory task).map TaskEvent.erased := by
  have filtered : ∀ db : OrdersDb, (db.trajectory task).map TaskEvent.erased =
      (db.taskEvents.rows.map TaskEvent.erased).filter (·.taskId = task) := by
    intro db
    rw [OrdersDb.trajectory, List.filter_map]
    simp [Function.comp_def]
  rw [filtered, filtered, same.rows]

/-- A reader that erasing reasons does not mislead reads the same on both sides. -/
theorem read {α : Type} (same : one.SameButAborts two) (reader : List TaskEvent → α)
    (blind : ∀ events : List TaskEvent, reader (events.map TaskEvent.erased) = reader events) (task : TaskId) :
    reader (two.trajectory task) = reader (one.trajectory task) := by
  rw [← blind (two.trajectory task), same.trajectory, blind]

theorem eventSeqOfMessage (same : one.SameButAborts two) (message : MessageId) :
    two.eventSeqOfMessage message = one.eventSeqOfMessage message := by
  have erased : ∀ db : OrdersDb, db.eventSeqOfMessage message =
      ((db.taskEvents.rows.map TaskEvent.erased).find? fun event =>
        event.messageId = some message && !event.redelivered).map (·.eventSeq) := by
    intro db
    rw [OrdersDb.eventSeqOfMessage, List.find?_map, Option.map_map]
    simp [Function.comp_def]
  rw [erased, erased, same.rows]

theorem recentEvents (same : one.SameButAborts two) (task : TaskId) (limit : ℕ) :
    two.recentEvents task limit = one.recentEvents task limit := by
  have erased : ∀ db : OrdersDb, db.recentEvents task limit =
      (((((db.trajectory task).map TaskEvent.erased).filter fun event =>
        !(db.taskEvents.rows.map TaskEvent.erased).any fun earlier =>
          event.messageId.isSome && earlier.messageId = event.messageId && earlier.eventId < event.eventId).reverse.take
            limit).map fun event => ⟨event.eventSeq, event.eventType, event.attemptNumber⟩).reverse := by
    intro db
    simp [OrdersDb.recentEvents, OrdersDb.distinctOccurrences, List.filter_map, List.any_map, Function.comp_def]
  rw [erased, erased, same.rows, same.trajectory]

theorem build (same : one.SameButAborts two) (config : ExperimentConfig) (task : TaskId) (seen : Observation) :
    two.build config task seen = one.build config task seen := by
  simp only [OrdersDb.build, same.task?, same.recentEvents,
    same.read (fun events => latencyMs events seen.now) (latencyMs_map_erased · seen.now),
    same.read _ lastEventRedelivered_map_erased]

/-! ### Writing on both sides -/

theorem appendEvent (same : one.SameButAborts two) {columns columns' : EventColumns}
    (alike : ∀ n, (⟨columns', n⟩ : TaskEvent).erased = (⟨columns, n⟩ : TaskEvent).erased) :
    (one.appendEvent columns).SameButAborts (two.appendEvent columns') where
  orders := same.orders
  tasks := same.tasks
  processedEvents := same.processedEvents
  rows := by
    simp only [OrdersDb.appendEvent, EventLog.append, List.map_append, List.map_singleton, same.rows,
      same.length_rows, alike]

theorem withCreated (same : one.SameButAborts two) (orders : Table OrderRow.orderId) (tasks : Table TaskRow.taskId) :
    SameButAborts { one with orders, tasks } { two with orders, tasks } :=
  { same with orders := rfl, tasks := rfl }

/-- What a transaction reads of its task and writes to it keeps the databases alike. -/
theorem congruence (task : TaskId) : Congruence SameButAborts task fun _ => True where
  task? same := same.task? task
  order? same _ := same.order? _
  isEventProcessed same _ := same.isEventProcessed _
  position same _ := same.eventSeqOfMessage _
  latest same := by rw [same.read _ latestRequest_map_erased]
  finished same waitCount :=
    same.read (fun events => waitFinished events waitCount) (waitFinished_map_erased · waitCount) task
  modifyTask same f keeps _ := { same with tasks := by rw [OrdersDb.modifyTask, same.tasks]; rfl }
  setOrderStatus same _ status now := { same with orders := by rw [OrdersDb.setOrderStatus, same.orders]; rfl }
  insertProcessedEvent {one two} same event now _ := by
    rw [OrdersDb.insertProcessedEvent, OrdersDb.insertProcessedEvent, same.processedEvents]
    cases one.processedEvents.insert? ⟨event.messageId, event.taskId, event.eventType, now⟩ with
    | none => exact .error _
    | some processedEvents => exact .ok { same with processedEvents := rfl }
  appendEvent same columns _ _ := same.appendEvent fun _ => rfl

/-! ### The transactions -/

variable {task : TaskId} {draw : Draw}

theorem createOrderWithTask (same : one.SameButAborts two) (executionId itemsJson : String) (now : Timestamp) :
    ExceptRel (Paired SameButAborts) (one.createOrderWithTask executionId itemsJson now)
      (two.createOrderWithTask executionId itemsJson now) := by
  have number : two.nextOrderNumber = one.nextOrderNumber := by
    rw [nextOrderNumber, same.orders]
    rfl
  simp only [OrdersDb.createOrderWithTask, number, same.orders, same.tasks]
  split
  · exact ((congruence one.nextOrderNumber).recordEvent (same.withCreated _ _) _ rfl fun _ _ => trivial).map
      fun _ _ related => ⟨related, rfl⟩
  · exact .error _

theorem handle (same : one.SameButAborts two) (config : ExperimentConfig) (message : OrdersMessage)
    (redelivered : Bool) (draw : Draw) :
    ExceptRel (fun first second : Handled => first.db.SameButAborts second.db ∧
        second.decisionRequired = first.decisionRequired ∧ second.effects = first.effects)
      (one.handle config message redelivered draw) (two.handle config message redelivered draw) := by
  cases message with
  | inventoryEvent event =>
    exact ((congruence event.taskId).handleInventoryEvent same draw.now rfl trivial redelivered).map
      fun (_, _) (_, _) related => ⟨related.1, congrArg EventOutcome.decisionRequired related.2, rfl⟩
  | timeoutCheck task request =>
    exact ((congruence task).registerTimeout same draw.now
      (same.read (isAwaitingReply · request) (isAwaitingReply_map_erased · request) task)
      (same.read (timeoutRegistered · request) (timeoutRegistered_map_erased · request) task)).map
        fun _ _ related => ⟨related.1, related.2, rfl⟩
  | dispatchAttempt task decisionId =>
    exact ((congruence task).dispatchScheduledAttempt same config decisionId draw trivial).map
      fun (_, _, _) (_, _, _) related => ⟨related.1, rfl, congrArg Prod.snd related.2⟩
  | reevaluate task waitCount =>
    exact ((congruence task).finishWait same draw.now waitCount).map
      fun _ _ related => ⟨related.1, related.2, rfl⟩

theorem handleDeadLetter (same : one.SameButAborts two) (now : Timestamp) (letter : DeadLetter) :
    ExceptRel (Paired SameButAborts) (one.handleDeadLetter now letter) (two.handleDeadLetter now letter) := by
  cases named : letter.taskId with
  | none =>
    simp only [OrdersDb.handleDeadLetter, named]
    exact .ok ⟨same, rfl⟩
  | some task => exact (congruence task).handleDeadLetter same now named

/-- An abort for another reason. -/
private theorem executeAbort (same : one.SameButAborts two) (decisionId : DecisionId) (reason reason' : String) :
    ExceptRel (Paired SameButAborts) (one.executeAbort task decisionId draw reason)
      (two.executeAbort task decisionId draw reason') := by
  simp only [OrdersDb.executeAbort, OrdersDb.abortTask]
  rcases OptionRel.cases ((congruence task).finishTask same .aborted draw.now) with
    ⟨refused, refused'⟩ | ⟨ended, ended', first, second, moves⟩
  · rw [refused, refused']
    exact .ok ⟨same, rfl⟩
  · rw [first, second]
    simp only
    cases found : ended.task? task with
    | none =>
      have absent : ended'.task? task = none := (moves.task? task).trans found
      simp only [recordInternalEvent, advanceEventSeq_of_absent found, advanceEventSeq_of_absent absent]
      exact .error _
    | some row =>
      have there : ended'.task? task = some row := (moves.task? task).trans found
      rw [recordInternalEvent_of_found found, recordInternalEvent_of_found there]
      have bumped := (congruence task).modifyTask moves (TaskRow.bumpSeq draw.now) (TaskRow.bumpSeq_taskId draw.now)
        fun _ => rfl
      refine .ok ⟨bumped.appendEvent fun _ => ?_, rfl⟩
      simp [TaskEvent.erased, internalColumns, TaskEvent.withoutReason, EventColumns.withoutReason,
        EventPayload.withoutReason]

theorem execute (same : one.SameButAborts two) (config : ExperimentConfig) (task : TaskId) (decisionId : DecisionId)
    (draw : Draw) {decision decision' : Decision} (chosen : decision.SameChoice decision') :
    ExceptRel (Paired SameButAborts) (one.execute config task decisionId draw decision)
      (two.execute config task decisionId draw decision') := by
  by_cases abort : decision.action = .abort
  · rw [OrdersDb.execute, OrdersDb.execute, ← chosen.1, abort]
    exact executeAbort same decisionId _ _
  · have alike : two.execute config task decisionId draw decision' = two.execute config task decisionId draw
        decision := by
      rw [OrdersDb.execute, OrdersDb.execute, ← chosen.1, ← chosen.2]
      cases action : decision.action with
      | continueFlow | retry | wait | fallback => rfl
      | abort => exact absurd action abort
    rw [alike]
    exact (congruence task).execute same config decisionId draw decision fun _ _ => trivial

end SameButAborts

end OrdersDb

/-! ## What an engine chooses -/

/-- Two engines chose the same in time, and both gave a reason; both or neither can be recorded. -/
structure EngineOutput.SameChoice (one two : EngineOutput) : Prop where
  proposals : ∃ action target reason reason', one.proposal = some ⟨action, target, some reason⟩ ∧
    two.proposal = some ⟨action, target, some reason'⟩ ∧ reason ≠ [] ∧ reason' ≠ []
  encodings : two.encodable = one.encodable
  inTime : one.failure ≠ some llmDecisionTimeout ∧ two.failure ≠ some llmDecisionTimeout

/-- Outputs that choose the same lead to the same choice. -/
theorem EngineOutput.SameChoice.decision? {one two : EngineOutput} (same : one.SameChoice two)
    (validator : DecisionValidator) (state : SystemState) :
    Option.Rel Decision.SameChoice (validator.decision? state one) (validator.decision? state two) := by
  have reports : (⟨one, none, none, none, none⟩ : EngineReport).SameChoice ⟨two, none, none, none, none⟩ :=
    ⟨same.proposals, same.inTime⟩
  rw [DecisionValidator.decision?, DecisionValidator.decision?, same.encodings]
  split_ifs with encodable
  · exact validator.resolve?_of_sameChoice state reports encodable (same.encodings.trans encodable)
  · exact .none

end OrchLab
