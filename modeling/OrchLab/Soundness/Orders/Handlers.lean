import OrchLab.Soundness.Orders.Move

/-! # Handlers as moves

What each transaction of the orders-service computes, one specification per function, and from these
that a message, a decision or a dead letter either leaves the database alone or is one move of its task.
-/

namespace OrchLab

namespace OrdersDb

variable {config : ExperimentConfig} {db : OrdersDb} {task : TaskId} {row : TaskRow}

/-! ## Publishing a request -/

theorem dispatchContext_of_found (found : db.task? task = some row) :
    db.dispatchContext task = (db.order? row.orderId).map fun order =>
      ⟨row.taskId, row.orderId, row.executionId, row.currentTarget, row.attemptNumber, order.itemsJson⟩ := by
  rw [dispatchContext, found, Option.bind_some]

/-- The database after the current request of a task has been recorded. -/
def withRequest (db : OrdersDb) (row : TaskRow) (decisionId : DecisionId) (draw : Draw)
    (items : List OrderItem) : OrdersDb :=
  (db.modifyTask row.taskId (TaskRow.bumpSeq draw.now) (TaskRow.bumpSeq_taskId draw.now)).appendEvent
    (requestColumns (row.bumpSeq draw.now) decisionId draw items)

theorem publishRequest_of_found {decisionId : DecisionId} {draw : Draw} {items : List OrderItem}
    {route : Target} (found : db.task? task = some row) (target : row.currentTarget = some route)
    (loads : db.itemsOf? row = some items)
    (valid : (requestOf (row.bumpSeq draw.now) decisionId draw items).valid = true) :
    db.publishRequest config task decisionId draw = .ok (db.withRequest row decisionId draw items,
      requestEffects config (row.bumpSeq draw.now) decisionId draw items route) := by
  obtain rfl := taskId_of_task? found
  obtain ⟨order, here, read⟩ := Option.bind_eq_some_iff.mp loads
  have bumped : (db.modifyTask row.taskId (TaskRow.bumpSeq draw.now) (TaskRow.bumpSeq_taskId draw.now)).task?
      row.taskId = some (row.bumpSeq draw.now) := by
    rw [task?_modifyTask, if_pos rfl, found, Option.map_some]
  simp only [publishRequest, dispatchContext_of_found found, here, Option.map_some,
    advanceEventSeq_of_found found, read]
  have same : requestEnvelope row.taskId decisionId draw
      ⟨row.taskId, row.orderId, row.executionId, row.currentTarget, row.attemptNumber, order.itemsJson⟩
      (row.currentEventSeq + 1) items = requestOf (row.bumpSeq draw.now) decisionId draw items := rfl
  rw [same, if_pos valid, recordMessage_of_found bumped, target]
  rfl

theorem publishRequest_eq_ok {decisionId : DecisionId} {draw : Draw} {db' : OrdersDb}
    {effects : List Effect} (found : db.task? task = some row)
    (success : db.publishRequest config task decisionId draw = .ok (db', effects)) :
    ∃ items route, row.currentTarget = some route ∧ db.itemsOf? row = some items ∧
      db' = db.withRequest row decisionId draw items ∧
      effects = requestEffects config (row.bumpSeq draw.now) decisionId draw items route := by
  have published := success
  simp only [publishRequest, dispatchContext_of_found found, advanceEventSeq_of_found found] at published
  cases here : db.order? row.orderId with
  | none => simp [here] at published
  | some order =>
    cases read : loadsItems order.itemsJson with
    | none => simp [here, read] at published
    | some items =>
      simp only [here, Option.map_some, read] at published
      split_ifs at published with valid
      cases target : row.currentTarget with
      | none => simp [target] at published
      | some route =>
        have loads : db.itemsOf? row = some items := by rw [itemsOf?, here, Option.bind_some, read]
        obtain rfl := taskId_of_task? found
        rw [publishRequest_of_found found target loads valid] at success
        cases success
        exact ⟨items, route, rfl, loads, rfl, rfl⟩

theorem insertProcessedEvent_of_fresh {event : MessageEnvelope}
    (fresh : db.isEventProcessed event.messageId = false) (now : Timestamp) :
    ∃ processedEvents, db.insertProcessedEvent event now = .ok { db with processedEvents } ∧
      ∀ message, ({ db with processedEvents } : OrdersDb).isEventProcessed message =
        (db.isEventProcessed message || decide (event.messageId = message)) := by
  let row : ProcessedEvent := ⟨event.messageId, event.taskId, event.eventType, now⟩
  have absent : db.processedEvents.find? row.messageId = none := by
    simpa [isEventProcessed] using fresh
  obtain ⟨processedEvents, inserted⟩ := Table.insert?_isSome absent
  refine ⟨processedEvents, by rw [insertProcessedEvent, inserted], fun message => ?_⟩
  simp only [isEventProcessed, Table.find?_of_insert? inserted, row]
  split_ifs with same <;> simp [same]

theorem updateOrderOf_of_found (found : db.task? task = some row) (status : OrderStatus)
    (now : Timestamp) : db.updateOrderOf task status now = db.setOrderStatus row.orderId status now := by
  rw [updateOrderOf, found]

/-- A task that ends takes its order with it. -/
theorem completeTask_of_found (found : db.task? task = some row) (now : Timestamp) :
    db.completeTask task now = if row.status.terminal then none else
      some ((db.modifyTask task (TaskRow.complete now) (TaskRow.complete_taskId now)).setOrderStatus
        row.orderId (orderStatusFor .completed) now) := by
  rw [completeTask, updateTask?_of_found found]
  cases row.status.terminal with
  | true => rfl
  | false =>
    have moved : (db.modifyTask task (TaskRow.complete now) (TaskRow.complete_taskId now)).task? task =
        some (row.complete now) := by rw [task?_modifyTask, if_pos rfl, found, Option.map_some]
    simp only [Bool.not_false, ↓reduceIte, Option.map_some, updateOrderOf_of_found moved]
    rfl

theorem finishTask_of_found (found : db.task? task = some row) (status : TaskStatus) (now : Timestamp) :
    db.finishTask task status now = if row.status.terminal then none else
      some ((db.modifyTask task (TaskRow.setStatus status now)
        (TaskRow.setStatus_taskId status now)).setOrderStatus row.orderId (orderStatusFor status) now) := by
  rw [finishTask, updateTask?_of_found found]
  cases row.status.terminal with
  | true => rfl
  | false =>
    have moved : (db.modifyTask task (TaskRow.setStatus status now)
        (TaskRow.setStatus_taskId status now)).task? task = some (row.setStatus status now) := by
      rw [task?_modifyTask, if_pos rfl, found, Option.map_some]
    simp only [Bool.not_false, ↓reduceIte, Option.map_some, updateOrderOf_of_found moved]
    rfl

end OrdersDb

open OrdersDb

/-! ## Edits -/

namespace Edits

variable {db db' db'' : OrdersDb} {row row' row'' : TaskRow} {columns columns' : List EventColumns}
  {task : TaskId}

/-- Update a row without ending the task. -/
theorem of_modify (found : db.task? task = some row) (f : TaskRow → TaskRow)
    (keeps : ∀ row, (f row).taskId = row.taskId) (alike : (f row).status.terminal = row.status.terminal) :
    Edits db (db.modifyTask task f keeps) row (f row) [] := by
  obtain rfl := taskId_of_task? found
  refine ⟨found, List.forall_mem_nil _, fun task => ?_, (List.append_nil _).symm, fun order => ?_⟩
  · rw [task?_modifyTask, found, Option.map_some]
  · simp [alike]

/-- End a task together with its order. -/
theorem of_finish {status : TaskStatus} {now : Timestamp} (found : db.task? task = some row)
    (f : TaskRow → TaskRow) (keeps : ∀ row, (f row).taskId = row.taskId)
    (alive : row.status.terminal = false) (ends : (f row).status.terminal = true)
    (state : (f row).status = status) (time : (f row).updatedAt = now) :
    Edits db ((db.modifyTask task f keeps).setOrderStatus row.orderId (orderStatusFor status) now)
      row (f row) [] := by
  obtain rfl := taskId_of_task? found
  refine ⟨found, List.forall_mem_nil _, fun task => ?_, (List.append_nil _).symm, fun order => ?_⟩
  · rw [task?_setOrderStatus, task?_modifyTask, found, Option.map_some]
  · rw [order?_setOrderStatus, ends, alive, state, time]
    by_cases same : order = row.orderId <;> simp [same]

/-- What has been processed is no part of an edit. -/
theorem with_processed (edits : Edits db db' row row' columns)
    (processedEvents : Table ProcessedEvent.messageId) :
    Edits db { db' with processedEvents } row row' columns :=
  ⟨edits.found, edits.own, edits.task?, edits.rows, edits.order?⟩

/-- Append one event of the task. -/
theorem of_append (found : db.task? task = some row) (event : EventColumns) (own : event.taskId = task) :
    Edits db (db.appendEvent event) row row [event] := by
  obtain rfl := taskId_of_task? found
  refine ⟨found, List.forall_mem_singleton.mpr own, fun task => ?_, rfl, fun order => by simp⟩
  rw [task?_appendEvent]
  split_ifs with same
  · rw [same, found]
  · rfl

/-- The order follows a composite edit when only one of its parts ends the task. -/
theorem trans (first : Edits db db' row row' columns) (second : Edits db' db'' row' row'' columns')
    (same : row'.taskId = row.taskId) (order : row'.orderId = row.orderId)
    (once : row'.status.terminal = row.status.terminal ∨
      row''.status = row'.status ∧ row''.updatedAt = row'.updatedAt) :
    Edits db db'' row row'' (columns ++ columns') where
  found := first.found
  own := List.forall_mem_append.mpr ⟨first.own, same ▸ second.own⟩
  task? task := by
    rw [second.task?, first.task?, same]
    split_ifs <;> rfl
  rows := by
    rw [second.rows, first.rows, List.append_assoc, numbered_append, List.length_append, length_numbered]
  order? o := by
    rw [second.order?, first.order?, order]
    rcases once with alike | ⟨status, time⟩
    · simp [alike]
    · simp [status, time]

/-- The row a task has after an edit. -/
theorem task?_self (edits : Edits db db' row row' columns) : db'.task? row.taskId = some row' := by
  rw [edits.task?, if_pos rfl]

/-- Number and record an internal event. -/
theorem of_internal (found : db.task? task = some row) (eventType : EventType)
    (payload : Option EventPayload) (now : Timestamp) :
    Edits db ((db.modifyTask task (TaskRow.bumpSeq now) (TaskRow.bumpSeq_taskId now)).appendEvent
      (internalColumns (row.bumpSeq now) eventType payload now)) row (row.bumpSeq now)
      [internalColumns (row.bumpSeq now) eventType payload now] := by
  have bump : Edits db _ row (row.bumpSeq now) [] :=
    of_modify found (TaskRow.bumpSeq now) (TaskRow.bumpSeq_taskId now) rfl
  exact bump.trans (of_append bump.task?_self _ rfl) rfl rfl (.inl rfl)

/-- Number and record a request. -/
theorem of_request (found : db.task? task = some row) (decisionId : DecisionId) (draw : Draw)
    (items : List OrderItem) :
    Edits db (db.withRequest row decisionId draw items) row (row.bumpSeq draw.now)
      [requestColumns (row.bumpSeq draw.now) decisionId draw items] := by
  obtain rfl := taskId_of_task? found
  have bump : Edits db _ row (row.bumpSeq draw.now) [] :=
    of_modify found (TaskRow.bumpSeq draw.now) (TaskRow.bumpSeq_taskId draw.now) rfl
  exact bump.trans (of_append bump.task?_self _ rfl) rfl rfl (.inl rfl)

end Edits

/-- A cause that processes no message leaves `processed_events` alone. -/
theorem Commits.of_edits {db db' : OrdersDb} {row row' : TaskRow} {cause : Cause}
    {columns : List EventColumns} (edits : Edits db db' row row' columns)
    (quiet : cause.processes? = none)
    (processed : ∀ message, db'.isEventProcessed message = db.isEventProcessed message) :
    Commits db db' row cause row' columns where
  toEdits := edits
  processed message := by
    rw [quiet, processed]
    simp

/-! ## The handlers -/

section Handlers

variable {config : ExperimentConfig} {db db' : OrdersDb} {task : TaskId} {row : TaskRow}
  {draw : Draw}

/-- What `_record_repeated` can do. -/
private theorem recordRepeated_moves {event : MessageEnvelope}
    (processed : db.isEventProcessed event.messageId = true)
    (success : db.recordRepeated draw.now event = .ok db') :
    db' = db ∨ ∃ row columns, row.taskId = event.taskId ∧
      Move config db draw row (.message (.inventoryEvent event)) row columns [] false ∧
      Commits db db' row (.message (.inventoryEvent event)) row columns := by
  cases known : db.eventSeqOfMessage event.messageId with
  | none =>
    simp only [recordRepeated, known] at success
    cases success
    exact .inl rfl
  | some eventSeq =>
    simp only [recordRepeated, known, recordMessage, recordEvent] at success
    split_ifs at success with present
    cases success
    obtain ⟨row, found⟩ := Option.isSome_iff_exists.mp present
    have here : row.taskId = event.taskId := taskId_of_task? found
    refine .inr ⟨row, _, here, .repeated event eventSeq here.symm processed known, ?_⟩
    refine ⟨.of_append found _ rfl, fun message => ?_⟩
    by_cases same : event.messageId = message
    · subst same
      simpa [Cause.processes?] using processed
    · simp [Cause.processes?, same]

/-- Every new event of an existing task is numbered, marked as processed and recorded; what follows
depends on its type. -/
theorem handleInventoryEvent_of_fresh {event : MessageEnvelope} (draw : Draw) (redelivered : Bool)
    (found : db.task? event.taskId = some row) (fresh : db.isEventProcessed event.messageId = false)
    (type : event.eventType ≠ .stockReservationRequested) :
    ∃ recorded, Commits db recorded row (.message (.inventoryEvent event)) (row.bumpSeq draw.now)
        [messageColumns event (row.currentEventSeq + 1) .inventory redelivered draw.now] ∧
      db.handleInventoryEvent draw.now event redelivered =
        recorded.applyEvent draw.now event (row.currentEventSeq + 1) := by
  have here := taskId_of_task? found
  let bumped := db.modifyTask event.taskId (TaskRow.bumpSeq draw.now) (TaskRow.bumpSeq_taskId draw.now)
  have moved : bumped.task? event.taskId = some (row.bumpSeq draw.now) := by
    rw [task?_modifyTask, if_pos rfl, found, Option.map_some]
  obtain ⟨processedEvents, inserted, processed⟩ :=
    insertProcessedEvent_of_fresh (show bumped.isEventProcessed event.messageId = false from fresh) draw.now
  have recordable : ({ bumped with processedEvents } : OrdersDb).task? event.taskId =
      some (row.bumpSeq draw.now) := moved
  refine ⟨({ bumped with processedEvents } : OrdersDb).appendEvent
    (messageColumns event (row.currentEventSeq + 1) .inventory redelivered draw.now), ?_, ?_⟩
  · have edits : Edits db bumped row (row.bumpSeq draw.now) [] :=
      .of_modify found (TaskRow.bumpSeq draw.now) (TaskRow.bumpSeq_taskId draw.now) rfl
    refine ⟨(edits.with_processed processedEvents).trans (.of_append recordable _ rfl) rfl rfl (.inl rfl),
      fun message => ?_⟩
    · rw [isEventProcessed_appendEvent, processed]
      simp [Cause.processes?, bumped]
  · rw [handleInventoryEvent, if_neg, if_neg (by simp [fresh]), advanceEventSeq_of_found found]
    · simp only [bumped, inserted, recordMessage_of_found recordable]
    · cases payload : event.payload <;> simp_all [MessageEnvelope.eventType, MessagePayload.eventType]

section Recorded

variable {event : MessageEnvelope} {redelivered : Bool} {recorded : OrdersDb}
  (found : db.task? event.taskId = some row) (fresh : db.isEventProcessed event.messageId = false)
  (commits : Commits db recorded row (.message (.inventoryEvent event)) (row.bumpSeq draw.now)
    [messageColumns event (row.currentEventSeq + 1) .inventory redelivered draw.now])
include found commits

private theorem task?_of_recorded : recorded.task? event.taskId = some (row.bumpSeq draw.now) := by
  rw [commits.task?, taskId_of_task? found, if_pos rfl]

/-- The row of an event is no request, so the current events stay current. -/
private theorem isCurrent_of_recorded (type : event.eventType ≠ .stockReservationRequested) :
    recorded.isCurrent event = db.isCurrent event := by
  have quiet : TaskEvent.isRequest { messageColumns event (row.currentEventSeq + 1) .inventory
      redelivered draw.now with eventId := db.taskEvents.rows.length + 1 } = false := by
    simp [TaskEvent.isRequest, messageColumns, type]
  rw [isCurrent, commits.trajectory, if_pos (taskId_of_task? found).symm, numbered, numbered,
    latestRequest_concat, quiet]
  rfl

include fresh

/-- `_register_failure` writes the result of a current failure of a live task and nothing else. -/
private theorem registerFailure_moves {payload : ReservationFailedPayload} {opens : Bool}
    (content : event.payload = .failed payload)
    (success : recorded.registerFailure draw.now event payload.failureReason = (db', opens)) :
    ∃ row' columns, Move config db draw row (.message (.inventoryEvent event)) row' columns [] opens ∧
      Commits db db' row (.message (.inventoryEvent event)) row' columns := by
  have here := taskId_of_task? found
  have failed : event.eventType = .stockReservationFailed := by
    rw [MessageEnvelope.eventType, content]
    rfl
  have type : event.eventType ≠ .stockReservationRequested := by
    rw [failed]
    exact EventType.noConfusion
  have moved := task?_of_recorded found commits
  rw [registerFailure, moved, isCurrent_of_recorded found commits type, Option.any_some] at success
  split_ifs at success with late
  · cases success
    refine ⟨_, _, .inert event redelivered here.symm fresh type ?_, commits⟩
    simpa [failed, TaskRow.bumpSeq] using late
  · cases success
    have guard : row.status.terminal = false ∧ db.isCurrent event = true := by
      simpa [TaskRow.bumpSeq] using late
    refine ⟨_, _, .failed event payload redelivered here.symm fresh content guard.1 guard.2, ?_⟩
    have last : Edits recorded
        (recorded.setLastResult event.taskId (failureResult payload.failureReason event.target) draw.now)
        (row.bumpSeq draw.now)
        ((row.bumpSeq draw.now).setLastResult (failureResult payload.failureReason event.target) draw.now) [] :=
      .of_modify moved (TaskRow.setLastResult (failureResult payload.failureReason event.target) draw.now)
        (fun _ => rfl) rfl
    exact ⟨commits.toEdits.trans last rfl rfl (.inl rfl), commits.processed⟩

/-- `_register_success` completes a live task and does nothing to a terminal one. -/
private theorem registerSuccess_moves {payload : ReservationResultPayload} {changed : Bool}
    (content : event.payload = .succeeded payload)
    (success : recorded.registerSuccess draw.now event = .ok (db', changed)) :
    ∃ row' columns, Move config db draw row (.message (.inventoryEvent event)) row' columns [] false ∧
      Commits db db' row (.message (.inventoryEvent event)) row' columns := by
  have here := taskId_of_task? found
  have type : event.eventType ≠ .stockReservationRequested := by
    rw [MessageEnvelope.eventType, content]
    exact EventType.noConfusion
  have moved := task?_of_recorded found commits
  simp only [registerSuccess, completeTask_of_found moved] at success
  cases settled : row.status.terminal with
  | true =>
    simp only [TaskRow.bumpSeq, settled, ↓reduceIte] at success
    cases success
    exact ⟨_, _, .inert event redelivered here.symm fresh type (.inl settled), commits⟩
  | false =>
    rw [if_neg (by simp [TaskRow.bumpSeq, settled])] at success
    have ends : Edits recorded ((recorded.modifyTask event.taskId (TaskRow.complete draw.now)
        (TaskRow.complete_taskId draw.now)).setOrderStatus (row.bumpSeq draw.now).orderId
          (orderStatusFor .completed) draw.now) (row.bumpSeq draw.now)
        ((row.bumpSeq draw.now).complete draw.now) [] :=
      .of_finish moved (TaskRow.complete draw.now) (TaskRow.complete_taskId draw.now) settled rfl rfl rfl
    have completed := ends.task?_self
    rw [TaskRow.bumpSeq_taskId, here] at completed
    simp only [recordInternalEvent_of_found completed, Except.map, Except.ok.injEq, Prod.mk.injEq] at success
    obtain ⟨rfl, rfl⟩ := success
    refine ⟨_, _, .completed event payload redelivered here.symm fresh content settled, ?_⟩
    have noted := Edits.of_internal completed .taskCompleted none draw.now
    exact ⟨commits.toEdits.trans (ends.trans noted rfl rfl (.inr ⟨rfl, rfl⟩)) rfl rfl (.inl rfl),
      commits.processed⟩

end Recorded

/-- `handle_inventory_event` is nothing, for a repeated message or an unknown task, or a move. -/
theorem handleInventoryEvent_moves {event : MessageEnvelope} {redelivered : Bool} {outcome : EventOutcome}
    (success : db.handleInventoryEvent draw.now event redelivered = .ok (db', outcome)) :
    (db' = db ∧ outcome.decisionRequired = false ∧
        (db.isEventProcessed event.messageId = true ∨ db.task? event.taskId = none)) ∨
      ∃ row row' columns, row.taskId = event.taskId ∧
        Move config db draw row (.message (.inventoryEvent event)) row' columns [] outcome.decisionRequired ∧
        Commits db db' row (.message (.inventoryEvent event)) row' columns := by
  have handled := success
  rw [handleInventoryEvent] at handled
  split_ifs at handled with unsupported processed
  · cases repeated : db.recordRepeated draw.now event with
    | error error => simp [repeated, Except.map] at handled
    | ok db'' =>
      simp only [repeated, Except.map, Except.ok.injEq, Prod.mk.injEq] at handled
      obtain ⟨rfl, rfl⟩ := handled
      rcases recordRepeated_moves processed repeated with rfl | ⟨row, columns, here, move, commits⟩
      · exact .inl ⟨rfl, rfl, .inl processed⟩
      · exact .inr ⟨row, row, columns, here, move, commits⟩
  · have fresh : db.isEventProcessed event.messageId = false := by simpa using processed
    have type : event.eventType ≠ .stockReservationRequested := by
      intro requested
      exact unsupported (by simp [requested])
    cases found : db.task? event.taskId with
    | none =>
      simp only [advanceEventSeq_of_absent found, Except.ok.injEq, Prod.mk.injEq] at handled
      obtain ⟨rfl, rfl⟩ := handled
      exact .inl ⟨rfl, rfl, .inr rfl⟩
    | some row =>
      obtain ⟨recorded, commits, equal⟩ := handleInventoryEvent_of_fresh draw redelivered found fresh type
      have here := taskId_of_task? found
      rw [equal] at success
      cases content : event.payload with
      | requested => exact absurd (by rw [MessageEnvelope.eventType, content]; rfl) type
      | failed payload =>
        simp only [applyEvent, content] at success
        cases success
        obtain ⟨row', columns, move, after⟩ := registerFailure_moves found fresh commits content rfl
        exact .inr ⟨row, row', columns, here, move, after⟩
      | succeeded payload =>
        simp only [applyEvent, content] at success
        cases registered : recorded.registerSuccess draw.now event with
        | error error =>
          rw [registered] at success
          cases success
        | ok result =>
          rw [registered] at success
          cases success
          obtain ⟨row', columns, move, after⟩ := registerSuccess_moves found fresh commits content registered
          exact .inr ⟨row, row', columns, here, move, after⟩

/-- `register_timeout` is nothing, when the timeout does not apply, or a move. -/
theorem registerTimeout_moves {request : MessageId} {registered : Bool}
    (success : db.registerTimeout draw.now task request = .ok (db', registered)) :
    (db' = db ∧ registered = false ∧ ∀ row, db.task? task = some row → row.status.terminal = false →
        isAwaitingReply (db.trajectory task) request = true →
          timeoutRegistered (db.trajectory task) request = true) ∨
      ∃ row row' columns, row.taskId = task ∧
        Move config db draw row (.message (.timeoutCheck task request)) row' columns [] registered ∧
        Commits db db' row (.message (.timeoutCheck task request)) row' columns := by
  rw [registerTimeout] at success
  cases found : db.task? task with
  | none =>
    simp only [found] at success
    cases success
    exact .inl ⟨rfl, rfl, by simp⟩
  | some row =>
    simp only [found] at success
    split_ifs at success with settled answered registeredBefore
    · cases success
      exact .inl ⟨rfl, rfl, by rintro _ ⟨⟩ alive; simp [settled] at alive⟩
    · cases success
      exact .inl ⟨rfl, rfl, by rintro _ ⟨⟩ _ awaiting; simp [awaiting] at answered⟩
    · cases success
      exact .inl ⟨rfl, rfl, by rintro _ ⟨⟩ _ _; exact registeredBefore⟩
    · have last : Edits db (db.setLastResult task (timeoutResult row.currentTarget) draw.now) row
          (row.setLastResult (timeoutResult row.currentTarget) draw.now) [] :=
        .of_modify found (TaskRow.setLastResult (timeoutResult row.currentTarget) draw.now) (fun _ => rfl) rfl
      have set := last.task?_self
      rw [taskId_of_task? found] at set
      simp only [recordInternalEvent_of_found set, Except.map, Except.ok.injEq, Prod.mk.injEq] at success
      obtain ⟨rfl, rfl⟩ := success
      obtain rfl := taskId_of_task? found
      exact .inr ⟨row, _, _, rfl,
        .timedOut request (by simpa using settled) (by simpa using answered) (by simpa using registeredBefore),
        .of_edits (last.trans (.of_internal set ..) rfl rfl (.inl rfl)) rfl fun _ => rfl⟩

/-- `finish_wait` is nothing, when the task is not in that wait or has finished it, or a move. -/
theorem finishWait_moves {waitCount : ℕ} {finished : Bool}
    (success : db.finishWait draw.now task waitCount = .ok (db', finished)) :
    (db' = db ∧ finished = false ∧ ∀ row, db.task? task = some row → row.status = .waiting →
        row.waitCount = waitCount → waitFinished (db.trajectory task) waitCount = true) ∨
      ∃ row row' columns, row.taskId = task ∧
        Move config db draw row (.message (.reevaluate task waitCount)) row' columns [] finished ∧
        Commits db db' row (.message (.reevaluate task waitCount)) row' columns := by
  rw [finishWait] at success
  cases found : db.task? task with
  | none =>
    simp only [found] at success
    cases success
    exact .inl ⟨rfl, rfl, by simp⟩
  | some row =>
    simp only [found] at success
    split_ifs at success with elsewhere finishedBefore
    · cases success
      exact .inl ⟨rfl, rfl, by rintro _ ⟨⟩ waiting same; simp [waiting, same] at elsewhere⟩
    · cases success
      exact .inl ⟨rfl, rfl, by rintro _ ⟨⟩ _ _; exact finishedBefore⟩
    · simp only [recordInternalEvent_of_found found, Except.map, Except.ok.injEq, Prod.mk.injEq] at success
      obtain ⟨rfl, rfl⟩ := success
      obtain ⟨waiting, rfl⟩ : row.status = .waiting ∧ row.waitCount = waitCount := by
        simpa only [not_or, ne_eq, not_not] using elsewhere
      obtain rfl := taskId_of_task? found
      exact .inr ⟨row, _, _, rfl, .waitOver waiting (by simpa using finishedBefore),
        .of_edits (.of_internal found ..) rfl fun _ => rfl⟩

/-- `dispatch_scheduled_attempt` is nothing, when the task is not retrying, or a move. -/
theorem dispatchScheduledAttempt_moves {decisionId : DecisionId} {dispatched : Bool}
    {effects : List Effect}
    (success : db.dispatchScheduledAttempt config task decisionId draw = .ok (db', dispatched, effects)) :
    (db' = db ∧ effects = [] ∧ ∀ row, db.task? task = some row → row.status ≠ .retrying) ∨
      ∃ row row' columns, row.taskId = task ∧
        Move config db draw row (.message (.dispatchAttempt task decisionId)) row' columns effects false ∧
        Commits db db' row (.message (.dispatchAttempt task decisionId)) row' columns := by
  cases found : db.task? task with
  | none =>
    simp only [dispatchScheduledAttempt, markRetryDispatched, updateTask?_of_absent found] at success
    cases success
    exact .inl ⟨rfl, rfl, by simp⟩
  | some row =>
    simp only [dispatchScheduledAttempt, markRetryDispatched, updateTask?_of_found found] at success
    by_cases retrying : row.status = .retrying
    · have mark : Edits db (db.modifyTask task (TaskRow.setStatus .dispatched draw.now)
          (TaskRow.setStatus_taskId .dispatched draw.now)) row (row.setStatus .dispatched draw.now) [] :=
        .of_modify found _ _ (by simp [TaskRow.setStatus, retrying, TaskStatus.terminal])
      have marked := mark.task?_self
      rw [taskId_of_task? found] at marked
      simp only [retrying, decide_true, ↓reduceIte] at success
      cases published : (db.modifyTask task (TaskRow.setStatus .dispatched draw.now)
          (TaskRow.setStatus_taskId .dispatched draw.now)).publishRequest config task decisionId draw with
      | error error => simp [published, Except.map] at success
      | ok result =>
        obtain ⟨db'', effects'⟩ := result
        simp only [published, Except.map, Except.ok.injEq, Prod.mk.injEq] at success
        obtain ⟨rfl, rfl, rfl⟩ := success
        obtain ⟨items, route, target, loads, rfl, rfl⟩ := publishRequest_eq_ok marked published
        obtain rfl := taskId_of_task? found
        exact .inr ⟨row, _, _, rfl, .retryDispatched decisionId items route retrying target loads,
          .of_edits (mark.trans (.of_request marked ..) rfl rfl
            (.inl (by simp [TaskRow.setStatus, retrying, TaskStatus.terminal]))) rfl fun _ => rfl⟩
    · simp only [retrying, decide_false, Bool.false_eq_true, ↓reduceIte] at success
      cases success
      exact .inl ⟨rfl, rfl, by rintro _ ⟨⟩; exact retrying⟩

/-- `handle_dead_letter` succeeds: it is nothing, for a letter that names no task of the database, or a move. -/
theorem handleDeadLetter_moves (config : ExperimentConfig) (db : OrdersDb) (draw : Draw) (letter : DeadLetter) :
    ∃ db' changed, db.handleDeadLetter draw.now letter = .ok (db', changed) ∧
      ((db' = db ∧ ∀ task, letter.taskId = some task → db.task? task = none) ∨
        ∃ row row' columns, letter.taskId = some row.taskId ∧
          Move config db draw row (.deadLetter letter) row' columns [] false ∧
          Commits db db' row (.deadLetter letter) row' columns) := by
  rw [handleDeadLetter]
  cases named : letter.taskId with
  | none => exact ⟨db, false, rfl, .inl ⟨rfl, by simp⟩⟩
  | some task =>
    simp only
    cases found : db.task? task with
    | none => exact ⟨db, false, rfl, .inl ⟨rfl, by rintro _ ⟨⟩; exact found⟩⟩
    | some row =>
      simp only [deadLetterTask, finishTask_of_found found]
      have here := taskId_of_task? found
      cases settled : row.status.terminal with
      | true =>
        simp only [↓reduceIte, recordInternalEvent_of_found found, Except.map]
        exact ⟨_, _, rfl, .inr ⟨row, _, _, by rw [here], .deadLetterLogged letter (by rw [here, named]) settled,
          .of_edits (.of_internal found ..) rfl fun _ => rfl⟩⟩
      | false =>
        have ends : Edits db ((db.modifyTask task (TaskRow.setStatus .deadLettered draw.now)
            (TaskRow.setStatus_taskId .deadLettered draw.now)).setOrderStatus row.orderId
              (orderStatusFor .deadLettered) draw.now) row (row.setStatus .deadLettered draw.now) [] :=
          .of_finish found _ _ settled rfl rfl rfl
        have ended := ends.task?_self
        rw [here] at ended
        simp only [Bool.false_eq_true, ↓reduceIte, recordInternalEvent_of_found ended, Except.map]
        exact ⟨_, _, rfl, .inr ⟨row, _, _, by rw [here], .deadLettered letter (by rw [here, named]) settled,
          .of_edits (ends.trans (.of_internal ended ..) rfl rfl (.inr ⟨rfl, rfl⟩)) rfl fun _ => rfl⟩⟩

end Handlers

/-! ## The actions -/

section Actions

variable {config : ExperimentConfig} {db db' : OrdersDb} {task : TaskId} {row : TaskRow}
  {decision : Decision} {decisionId : DecisionId} {draw : Draw} {result : ExecutionResult}
  {effects : List Effect}

/-- Being a move of the task of `row` with this decision. -/
private def Acts (config : ExperimentConfig) (db db' : OrdersDb) (draw : Draw) (row : TaskRow) (decision : Decision)
    (decisionId : DecisionId) (effects : List Effect) : Prop :=
  ∃ row' columns, Move config db draw row (.decision decision decisionId) row' columns effects false ∧
    Commits db db' row (.decision decision decisionId) row' columns

private theorem executeContinue_moves (found : db.task? task = some row)
    (action : decision.action = .continueFlow)
    (success : db.executeContinue config task decisionId draw = .ok (db', result, effects)) :
    Acts config db db' draw row decision decisionId effects := by
  simp only [executeContinue, startFirstDispatch, updateTask?_of_found found] at success
  split_ifs at success with guard
  · obtain ⟨status, null⟩ : (row.status = .pending ∨ row.status = .waiting) ∧ row.currentTarget = none := by
      simpa using guard
    have alive : row.status.terminal = false := by rcases status with status | status <;> rw [status] <;> rfl
    have dispatch : Edits db (db.modifyTask task (TaskRow.dispatchTo .inventoryPrimary draw.now)
        (TaskRow.dispatchTo_taskId .inventoryPrimary draw.now)) row
        (row.dispatchTo .inventoryPrimary draw.now) [] :=
      .of_modify found _ _ (by rw [alive]; rfl)
    have dispatched := dispatch.task?_self
    rw [taskId_of_task? found] at dispatched
    dsimp only at success
    cases published : (db.modifyTask task (TaskRow.dispatchTo .inventoryPrimary draw.now)
        (TaskRow.dispatchTo_taskId .inventoryPrimary draw.now)).publishRequest config task decisionId draw with
    | error error => simp [published, Except.map] at success
    | ok published' =>
      obtain ⟨db'', effects'⟩ := published'
      simp only [published, Except.map, Except.ok.injEq, Prod.mk.injEq] at success
      obtain ⟨rfl, rfl, rfl⟩ := success
      obtain ⟨items, route, target, loads, rfl, rfl⟩ := publishRequest_eq_ok dispatched published
      obtain rfl : .inventoryPrimary = route := by simpa [TaskRow.dispatchTo] using target
      exact ⟨_, _, .continued decision decisionId items action status null loads,
        .of_edits (dispatch.trans (.of_request dispatched ..) rfl rfl (.inl (by rw [alive]; rfl))) rfl
          fun _ => rfl⟩

private theorem executeRetry_moves (found : db.task? task = some row) (action : decision.action = .retry)
    (success : db.executeRetry config task decisionId draw = .ok (db', result, effects)) :
    Acts config db db' draw row decision decisionId effects := by
  simp only [executeRetry, startRetry, updateTask?_of_found found] at success
  split_ifs at success with guard
  · obtain ⟨dispatched, alive⟩ : row.currentTarget ≠ none ∧ row.status.terminal = false := by
      simpa [Option.isSome_iff_ne_none] using guard
    have retry : Edits db (db.modifyTask task (TaskRow.retry draw.now) (TaskRow.retry_taskId draw.now)) row
        (row.retry draw.now) [] :=
      .of_modify found _ _ (by rw [alive]; rfl)
    have retried := retry.task?_self
    rw [taskId_of_task? found] at retried
    simp only [Option.bind_some, retried, Option.map_some, recordInternalEvent_of_found retried,
      Except.map, Except.ok.injEq, Prod.mk.injEq] at success
    obtain ⟨rfl, rfl, rfl⟩ := success
    obtain rfl := taskId_of_task? found
    exact ⟨_, _, .retried decision decisionId action alive dispatched,
      .of_edits (retry.trans (.of_internal retried ..) rfl rfl (.inl (by rw [alive]; rfl))) rfl fun _ => rfl⟩
  · simp at success

private theorem executeWait_moves (found : db.task? task = some row) (action : decision.action = .wait)
    (success : db.executeWait config task decisionId draw = .ok (db', result, effects)) :
    Acts config db db' draw row decision decisionId effects := by
  simp only [executeWait, enterWait, updateTask?_of_found found] at success
  split_ifs at success with guard
  · have alive : row.status.terminal = false := by simpa using guard
    have wait : Edits db (db.modifyTask task (TaskRow.wait draw.now) (TaskRow.wait_taskId draw.now)) row
        (row.wait draw.now) [] :=
      .of_modify found _ _ (by rw [alive]; rfl)
    have waiting := wait.task?_self
    rw [taskId_of_task? found] at waiting
    simp only [Option.bind_some, waiting, Option.map_some, recordInternalEvent_of_found waiting,
      Except.map, Except.ok.injEq, Prod.mk.injEq] at success
    obtain ⟨rfl, rfl, rfl⟩ := success
    obtain rfl := taskId_of_task? found
    exact ⟨_, _, .waited decision decisionId action alive,
      .of_edits (wait.trans (.of_internal waiting ..) rfl rfl (.inl (by rw [alive]; rfl))) rfl fun _ => rfl⟩
  · simp at success

private theorem executeFallback_moves (found : db.task? task = some row)
    (action : decision.action = .fallback)
    (success : db.executeFallback config task decisionId draw decision.target = .ok (db', result, effects)) :
    Acts config db db' draw row decision decisionId effects := by
  simp only [executeFallback, startFallback, updateTask?_of_found found] at success
  split_ifs at success with guard
  · obtain ⟨unused, alive⟩ : row.fallbackUsed = false ∧ row.status.terminal = false := by
      simpa using guard
    have fall : Edits db (db.modifyTask task (TaskRow.fallBack decision.target draw.now)
        (TaskRow.fallBack_taskId decision.target draw.now)) row
        (row.fallBack decision.target draw.now) [] :=
      .of_modify found _ _ (by rw [alive]; rfl)
    have fallen := fall.task?_self
    rw [taskId_of_task? found] at fallen
    have note := Edits.of_internal fallen .fallbackScheduled (some (.fallbackScheduled decisionId)) draw.now
    have noted := note.task?_self
    rw [TaskRow.fallBack_taskId, taskId_of_task? found] at noted
    simp only [recordInternalEvent_of_found fallen] at success
    cases published : (((db.modifyTask task (TaskRow.fallBack decision.target draw.now)
        (TaskRow.fallBack_taskId decision.target draw.now)).modifyTask task (TaskRow.bumpSeq draw.now)
        (TaskRow.bumpSeq_taskId draw.now)).appendEvent (internalColumns
          ((row.fallBack decision.target draw.now).bumpSeq draw.now) .fallbackScheduled
          (some (.fallbackScheduled decisionId)) draw.now)).publishRequest config task decisionId draw with
    | error error => simp [published, Except.map] at success
    | ok published' =>
      obtain ⟨db'', effects'⟩ := published'
      simp only [published, Except.map, Except.ok.injEq, Prod.mk.injEq] at success
      obtain ⟨rfl, rfl, rfl⟩ := success
      obtain ⟨items, route, target, loads, rfl, rfl⟩ := publishRequest_eq_ok noted published
      have toRoute : decision.target = some route := target
      rw [toRoute] at fall note noted ⊢
      exact ⟨_, _, .fellBack decision decisionId items route action toRoute alive unused loads,
        .of_edits (fall.trans (note.trans (.of_request noted ..) rfl rfl (.inl rfl)) rfl rfl
          (.inl (by rw [alive]; rfl))) rfl fun _ => rfl⟩

private theorem executeAbort_moves (found : db.task? task = some row) (action : decision.action = .abort)
    (success : db.executeAbort task decisionId draw decision.reasonCode = .ok (db', result, effects)) :
    (db' = db ∧ effects = [] ∧ row.status.terminal = true) ∨
      Acts config db db' draw row decision decisionId effects := by
  simp only [executeAbort, abortTask, finishTask_of_found found] at success
  cases settled : row.status.terminal with
  | true =>
    simp only [settled, ↓reduceIte] at success
    cases success
    exact .inl ⟨rfl, rfl, rfl⟩
  | false =>
    have ends : Edits db ((db.modifyTask task (TaskRow.setStatus .aborted draw.now)
        (TaskRow.setStatus_taskId .aborted draw.now)).setOrderStatus row.orderId
          (orderStatusFor .aborted) draw.now) row (row.setStatus .aborted draw.now) [] :=
      .of_finish found _ _ settled rfl rfl rfl
    have ended := ends.task?_self
    rw [taskId_of_task? found] at ended
    simp only [settled, Bool.false_eq_true, ↓reduceIte, recordInternalEvent_of_found ended, Except.map,
      Except.ok.injEq, Prod.mk.injEq] at success
    obtain ⟨rfl, rfl, rfl⟩ := success
    exact .inr ⟨_, _, .aborted decision decisionId action settled,
      .of_edits (ends.trans (.of_internal ended ..) rfl rfl (.inr ⟨rfl, rfl⟩)) rfl fun _ => rfl⟩

/-- The transaction of an action is the abort of a task that has ended, or a move. -/
theorem execute_moves (found : db.task? task = some row)
    (success : db.execute config task decisionId draw decision = .ok (db', result, effects)) :
    (db' = db ∧ effects = [] ∧ row.status.terminal = true) ∨
      ∃ row' columns, Move config db draw row (.decision decision decisionId) row' columns effects false ∧
        Commits db db' row (.decision decision decisionId) row' columns := by
  rw [execute] at success
  cases action : decision.action with
  | continueFlow => exact .inr (executeContinue_moves found action (by simpa only [action] using success))
  | retry => exact .inr (executeRetry_moves found action (by simpa only [action] using success))
  | wait => exact .inr (executeWait_moves found action (by simpa only [action] using success))
  | fallback => exact .inr (executeFallback_moves found action (by simpa only [action] using success))
  | abort => exact executeAbort_moves found action (by simpa only [action] using success)

/-- Nothing is done for a task that does not exist. -/
theorem execute_of_absent (absent : db.task? task = none)
    (success : db.execute config task decisionId draw decision = .ok (db', result, effects)) :
    db' = db ∧ effects = [] := by
  rw [execute] at success
  cases action : decision.action with
  | continueFlow =>
    simp [action, executeContinue, startFirstDispatch, updateTask?_of_absent absent] at success
  | retry => simp [action, executeRetry, startRetry, updateTask?_of_absent absent] at success
  | wait => simp [action, executeWait, enterWait, updateTask?_of_absent absent] at success
  | fallback => simp [action, executeFallback, startFallback, updateTask?_of_absent absent] at success
  | abort =>
    simp only [action, executeAbort, abortTask, finishTask, updateTask?_of_absent absent,
      Option.map_none, Except.ok.injEq, Prod.mk.injEq] at success
    exact ⟨success.1.symm, success.2.2.symm⟩

end Actions

/-- A new success of a task is handled. -/
theorem exists_handled_of_success {db : OrdersDb} {event : MessageEnvelope} {row : TaskRow}
    (found : db.task? event.taskId = some row) (fresh : db.isEventProcessed event.messageId = false)
    {payload : ReservationResultPayload} (success : event.payload = .succeeded payload) (draw : Draw)
    (redelivered : Bool) : ∃ result, db.handleInventoryEvent draw.now event redelivered = .ok result := by
  have type : event.eventType ≠ .stockReservationRequested := by
    rw [MessageEnvelope.eventType, success]
    rintro ⟨⟩
  obtain ⟨recorded, commits, handles⟩ := handleInventoryEvent_of_fresh draw redelivered found fresh type
  have moved := commits.task?_self
  rw [OrdersDb.taskId_of_task? found] at moved
  simp only [OrdersDb.applyEvent, success, OrdersDb.registerSuccess, OrdersDb.completeTask_of_found moved] at handles
  rw [handles]
  by_cases settled : (row.bumpSeq draw.now).status.terminal = true
  · rw [if_pos settled]
    exact ⟨_, rfl⟩
  · rw [if_neg settled]
    have completed : ((recorded.modifyTask event.taskId (TaskRow.complete draw.now)
        (TaskRow.complete_taskId draw.now)).setOrderStatus (row.bumpSeq draw.now).orderId
          (orderStatusFor .completed) draw.now).task? event.taskId =
            some ((row.bumpSeq draw.now).complete draw.now) := by
      rw [OrdersDb.task?_setOrderStatus, OrdersDb.task?_modifyTask, if_pos rfl, moved, Option.map_some]
    simp only [OrdersDb.recordInternalEvent_of_found completed]
    exact ⟨_, rfl⟩

end OrchLab
