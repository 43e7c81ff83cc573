import OrchLab.Model.Orders.Service

/-! # Moves of a task

Every transaction of the orders-service that changes anything replaces the row of one task and appends
one or two rows to the log. `Move` lists what it can be, with the guards that let it happen, and
`Commits` says that the database changes in no other way. Invariants of tasks are proved over moves.
-/

namespace OrchLab

/-- Rows as the log will hold them when `n` rows precede them. -/
def numbered (n : ℕ) : List EventColumns → List TaskEvent
  | [] => []
  | columns :: rest => { columns with eventId := n + 1 } :: numbered (n + 1) rest

theorem lt_of_mem_numbered {n : ℕ} {columns : List EventColumns} {event : TaskEvent}
    (member : event ∈ numbered n columns) : n < event.eventId := by
  induction columns generalizing n with
  | nil => cases member
  | cons first rest ih =>
    rcases List.mem_cons.mp member with rfl | later
    · exact Nat.lt_succ_self n
    · exact Nat.lt_of_succ_lt (ih later)

@[simp] theorem length_numbered (n : ℕ) (columns : List EventColumns) :
    (numbered n columns).length = columns.length := by
  induction columns generalizing n with
  | nil => rfl
  | cons _ _ ih => simp [numbered, ih]

theorem numbered_append (n : ℕ) (columns later : List EventColumns) :
    numbered n (columns ++ later) = numbered n columns ++ numbered (n + columns.length) later := by
  induction columns generalizing n with
  | nil => rfl
  | cons _ _ ih => simp [numbered, ih, Nat.add_right_comm, Nat.add_assoc]

theorem mem_of_mem_numbered {n : ℕ} {columns : List EventColumns} {event : TaskEvent}
    (member : event ∈ numbered n columns) : event.toEventColumns ∈ columns := by
  induction columns generalizing n with
  | nil => cases member
  | cons first rest ih =>
    rcases List.mem_cons.mp member with rfl | later
    · exact List.mem_cons_self ..
    · exact List.mem_cons_of_mem _ (ih later)

/-- Why a task moves. -/
inductive Cause where
  | message (message : OrdersMessage)
  | decision (decision : Decision) (decisionId : DecisionId)
  | deadLetter (letter : DeadLetter)

/-- The request a row stands for once its position has been taken. -/
def requestOf (row : TaskRow) (decisionId : DecisionId) (draw : Draw) (items : List OrderItem) :
    MessageEnvelope where
  executionId := row.executionId
  messageId := draw.messageId
  taskId := row.taskId
  eventSeq := row.currentEventSeq
  attemptNumber := row.attemptNumber
  publishedAt := draw.now
  decisionId := some decisionId
  target := row.currentTarget
  payload := .requested ⟨row.orderId, items⟩

/-- The row of a published request. -/
def requestColumns (row : TaskRow) (decisionId : DecisionId) (draw : Draw) (items : List OrderItem) :
    EventColumns :=
  messageColumns (requestOf row decisionId draw items) row.currentEventSeq .orders false draw.now

/-- The effects of publishing a request. -/
def requestEffects (config : ExperimentConfig) (row : TaskRow) (decisionId : DecisionId) (draw : Draw)
    (items : List OrderItem) (route : Target) : List Effect :=
  [.publish (requestOf row decisionId draw items) route,
    .scheduleTimeoutCheck row.taskId draw.messageId config.messaging.inventoryTimeoutMs]

/-- The items of the order of a task. -/
def OrdersDb.itemsOf? (db : OrdersDb) (row : TaskRow) : Option (List OrderItem) :=
  (db.order? row.orderId).bind fun order => loadsItems order.itemsJson

/-- One transaction on the task of `row` with what it draws: why, the row it leaves, the rows it appends,
the effects it schedules, and whether it asks for a decision point. -/
inductive Move (config : ExperimentConfig) (db : OrdersDb) (draw : Draw) (row : TaskRow) :
    Cause → TaskRow → List EventColumns → List Effect → Bool → Prop
  | repeated (event : MessageEnvelope) (eventSeq : ℕ) (task : event.taskId = row.taskId)
      (processed : db.isEventProcessed event.messageId = true)
      (known : db.eventSeqOfMessage event.messageId = some eventSeq) :
      Move config db draw row (.message (.inventoryEvent event)) row
        [messageColumns event eventSeq .inventory true draw.now] [] false
  | inert (event : MessageEnvelope) (redelivered : Bool) (task : event.taskId = row.taskId)
      (fresh : db.isEventProcessed event.messageId = false)
      (type : event.eventType ≠ .stockReservationRequested)
      (late : row.status.terminal = true ∨
        event.eventType = .stockReservationFailed ∧ db.isCurrent event = false) :
      Move config db draw row (.message (.inventoryEvent event)) (row.bumpSeq draw.now)
        [messageColumns event (row.currentEventSeq + 1) .inventory redelivered draw.now] [] false
  | failed (event : MessageEnvelope) (payload : ReservationFailedPayload) (redelivered : Bool)
      (task : event.taskId = row.taskId) (fresh : db.isEventProcessed event.messageId = false)
      (type : event.payload = .failed payload)
      (alive : row.status.terminal = false) (current : db.isCurrent event = true) :
      Move config db draw row (.message (.inventoryEvent event))
        ((row.bumpSeq draw.now).setLastResult (failureResult payload.failureReason event.target) draw.now)
        [messageColumns event (row.currentEventSeq + 1) .inventory redelivered draw.now] [] true
  | completed (event : MessageEnvelope) (payload : ReservationResultPayload) (redelivered : Bool)
      (task : event.taskId = row.taskId) (fresh : db.isEventProcessed event.messageId = false)
      (type : event.payload = .succeeded payload)
      (alive : row.status.terminal = false) :
      Move config db draw row (.message (.inventoryEvent event))
        (((row.bumpSeq draw.now).complete draw.now).bumpSeq draw.now)
        [messageColumns event (row.currentEventSeq + 1) .inventory redelivered draw.now,
          internalColumns (((row.bumpSeq draw.now).complete draw.now).bumpSeq draw.now) .taskCompleted none
            draw.now] [] false
  | timedOut (request : MessageId) (alive : row.status.terminal = false)
      (awaiting : isAwaitingReply (db.trajectory row.taskId) request = true)
      (unregistered : timeoutRegistered (db.trajectory row.taskId) request = false) :
      Move config db draw row (.message (.timeoutCheck row.taskId request))
        ((row.setLastResult (timeoutResult row.currentTarget) draw.now).bumpSeq draw.now)
        [internalColumns ((row.setLastResult (timeoutResult row.currentTarget) draw.now).bumpSeq draw.now)
          .inventoryTimeout (some (.inventoryTimeout request (timeoutResult row.currentTarget))) draw.now]
        [] true
  | waitOver (waiting : row.status = .waiting)
      (unfinished : waitFinished (db.trajectory row.taskId) row.waitCount = false) :
      Move config db draw row (.message (.reevaluate row.taskId row.waitCount)) (row.bumpSeq draw.now)
        [internalColumns (row.bumpSeq draw.now) .waitFinished (some (.waitFinished row.waitCount)) draw.now]
        [] true
  | retryDispatched (decisionId : DecisionId) (items : List OrderItem) (route : Target)
      (retrying : row.status = .retrying) (target : row.currentTarget = some route)
      (loads : db.itemsOf? row = some items) :
      Move config db draw row (.message (.dispatchAttempt row.taskId decisionId))
        ((row.setStatus .dispatched draw.now).bumpSeq draw.now)
        [requestColumns ((row.setStatus .dispatched draw.now).bumpSeq draw.now) decisionId draw items]
        (requestEffects config ((row.setStatus .dispatched draw.now).bumpSeq draw.now) decisionId draw
          items route) false
  | continued (decision : Decision) (decisionId : DecisionId) (items : List OrderItem)
      (action : decision.action = .continueFlow)
      (status : row.status = .pending ∨ row.status = .waiting) (target : row.currentTarget = none)
      (loads : db.itemsOf? row = some items) :
      Move config db draw row (.decision decision decisionId)
        ((row.dispatchTo .inventoryPrimary draw.now).bumpSeq draw.now)
        [requestColumns ((row.dispatchTo .inventoryPrimary draw.now).bumpSeq draw.now) decisionId draw
          items]
        (requestEffects config ((row.dispatchTo .inventoryPrimary draw.now).bumpSeq draw.now) decisionId
          draw items .inventoryPrimary) false
  | retried (decision : Decision) (decisionId : DecisionId)
      (action : decision.action = .retry) (alive : row.status.terminal = false)
      (dispatched : row.currentTarget ≠ none) :
      Move config db draw row (.decision decision decisionId) ((row.retry draw.now).bumpSeq draw.now)
        [internalColumns ((row.retry draw.now).bumpSeq draw.now) .retryScheduled
          (some (.retryScheduled decisionId config.messaging.retryDelayMs)) draw.now]
        [.scheduleDispatch row.taskId decisionId config.messaging.retryDelayMs] false
  | waited (decision : Decision) (decisionId : DecisionId)
      (action : decision.action = .wait) (alive : row.status.terminal = false) :
      Move config db draw row (.decision decision decisionId) ((row.wait draw.now).bumpSeq draw.now)
        [internalColumns ((row.wait draw.now).bumpSeq draw.now) .waitScheduled
          (some (.waitScheduled decisionId config.messaging.waitDelayMs (row.waitCount + 1))) draw.now]
        [.scheduleReevaluation row.taskId (row.waitCount + 1) config.messaging.waitDelayMs] false
  | fellBack (decision : Decision) (decisionId : DecisionId) (items : List OrderItem)
      (route : Target) (action : decision.action = .fallback) (target : decision.target = some route)
      (alive : row.status.terminal = false) (unused : row.fallbackUsed = false)
      (loads : db.itemsOf? row = some items) :
      Move config db draw row (.decision decision decisionId)
        (((row.fallBack (some route) draw.now).bumpSeq draw.now).bumpSeq draw.now)
        [internalColumns ((row.fallBack (some route) draw.now).bumpSeq draw.now) .fallbackScheduled
            (some (.fallbackScheduled decisionId)) draw.now,
          requestColumns (((row.fallBack (some route) draw.now).bumpSeq draw.now).bumpSeq draw.now)
            decisionId draw items]
        (requestEffects config (((row.fallBack (some route) draw.now).bumpSeq draw.now).bumpSeq draw.now)
          decisionId draw items route) false
  | aborted (decision : Decision) (decisionId : DecisionId)
      (action : decision.action = .abort) (alive : row.status.terminal = false) :
      Move config db draw row (.decision decision decisionId)
        ((row.setStatus .aborted draw.now).bumpSeq draw.now)
        [internalColumns ((row.setStatus .aborted draw.now).bumpSeq draw.now) .taskAborted
          (some (.taskAborted decisionId decision.reasonCode)) draw.now] [] false
  | deadLettered (letter : DeadLetter) (task : letter.taskId = some row.taskId)
      (alive : row.status.terminal = false) :
      Move config db draw row (.deadLetter letter)
        ((row.setStatus .deadLettered draw.now).bumpSeq draw.now)
        [internalColumns ((row.setStatus .deadLettered draw.now).bumpSeq draw.now) .messageDeadLettered
          (some (letter.payload true)) draw.now] [] false
  | deadLetterLogged (letter : DeadLetter) (task : letter.taskId = some row.taskId)
      (settled : row.status.terminal = true) :
      Move config db draw row (.deadLetter letter) (row.bumpSeq draw.now)
        [internalColumns (row.bumpSeq draw.now) .messageDeadLettered (some (letter.payload false)) draw.now]
        [] false

theorem orderStatusFor_of_alive {status : TaskStatus} (alive : status.terminal = false) :
    orderStatusFor status = .pending := by
  cases status <;> first | rfl | cases alive

theorem eventType_of_message (event : MessageEnvelope) : event.eventType = .stockReservationRequested ∨
    event.eventType = .stockReservationSucceeded ∨ event.eventType = .stockReservationFailed := by
  rw [MessageEnvelope.eventType]
  cases event.payload <;> simp [MessagePayload.eventType]

/-- What no move changes about a row. -/
structure TaskRow.Keeps (row row' : TaskRow) : Prop where
  taskId : row'.taskId = row.taskId
  orderId : row'.orderId = row.orderId
  executionId : row'.executionId = row.executionId
  createdAt : row'.createdAt = row.createdAt

namespace Move

variable {config : ExperimentConfig} {db : OrdersDb} {draw : Draw} {row row' : TaskRow} {cause : Cause}
  {columns : List EventColumns} {effects : List Effect} {opens : Bool}

theorem keeps (move : Move config db draw row cause row' columns effects opens) : row.Keeps row' := by
  cases move <;> exact ⟨rfl, rfl, rfl, rfl⟩

/-- A task that has ended only takes positions, for events of the inventory and for dead letters. -/
theorem of_terminal (move : Move config db draw row cause row' columns effects opens)
    (settled : row.status.terminal = true) : (row' = row ∨ row' = row.bumpSeq draw.now) ∧ effects = [] ∧
      ∀ event ∈ columns, event.service = .inventory ∨ event.eventType = .messageDeadLettered := by
  cases move with
  | repeated => exact ⟨.inl rfl, rfl, by simp [messageColumns]⟩
  | inert => exact ⟨.inr rfl, rfl, by simp [messageColumns]⟩
  | deadLetterLogged => exact ⟨.inr rfl, rfl, by simp [internalColumns]⟩
  | failed _ _ _ _ _ _ alive _ | completed _ _ _ _ _ _ alive | timedOut _ alive _ _
  | retried _ _ _ alive _ | waited _ _ _ alive | fellBack _ _ _ _ _ _ alive _ _
  | aborted _ _ _ alive | deadLettered _ _ alive => simp [settled] at alive
  | waitOver waiting _ => simp [waiting, TaskStatus.terminal] at settled
  | retryDispatched _ _ _ retrying _ _ => simp [retrying, TaskStatus.terminal] at settled
  | continued _ _ _ _ status _ _ =>
    rcases status with status | status <;> simp [status, TaskStatus.terminal] at settled

theorem status_of_terminal (move : Move config db draw row cause row' columns effects opens)
    (settled : row.status.terminal = true) : row'.status = row.status := by
  rcases (move.of_terminal settled).1 with rfl | rfl <;> rfl

/-- The order status of a task changes only when the task ends. -/
theorem orderStatusFor_eq (move : Move config db draw row cause row' columns effects opens)
    (same : row'.status.terminal = row.status.terminal) :
    orderStatusFor row'.status = orderStatusFor row.status := by
  cases settled : row.status.terminal with
  | true => rw [move.status_of_terminal settled]
  | false => rw [orderStatusFor_of_alive settled, orderStatusFor_of_alive (same.trans settled)]

/-- A decision that moves a task finds it alive. -/
theorem alive_of_decision {decision : Decision} {decisionId : DecisionId}
    (move : Move config db draw row (.decision decision decisionId) row' columns effects opens) :
    row.status.terminal = false := by
  cases move with
  | continued _ _ _ _ status _ _ => rcases status with status | status <;> simp [status, TaskStatus.terminal]
  | retried _ _ _ alive _ | waited _ _ _ alive | fellBack _ _ _ _ _ _ alive _ _
  | aborted _ _ _ alive => exact alive

/-- An abort that moves a task ends it. -/
theorem status_of_abort {decision : Decision} {decisionId : DecisionId}
    (move : Move config db draw row (.decision decision decisionId) row' columns effects opens)
    (abort : decision.action = .abort) : row'.status = .aborted := by
  cases move with
  | aborted => rfl
  | continued _ _ _ action | retried _ _ action | waited _ _ action | fellBack _ _ _ _ action =>
    simp [abort] at action

/-- A move schedules effects of its own task. -/
theorem effects_taskId (move : Move config db draw row cause row' columns effects opens) :
    ∀ effect ∈ effects, effect.taskId = row.taskId := by
  cases move <;> simp [requestEffects, requestOf, Effect.taskId, TaskRow.bumpSeq, TaskRow.setStatus,
    TaskRow.dispatchTo, TaskRow.fallBack]

theorem message_taskId {message : OrdersMessage}
    (move : Move config db draw row (.message message) row' columns effects opens) :
    message.taskId = row.taskId := by
  cases move with
  | repeated event eventSeq task | inert event redelivered task | failed event payload redelivered task
  | completed event payload redelivered task => exact task
  | timedOut | waitOver | retryDispatched => rfl

/-- A dead letter leaves its task ended. -/
theorem terminal_of_deadLetter {letter : DeadLetter}
    (move : Move config db draw row (.deadLetter letter) row' columns effects opens) :
    row'.status.terminal = true := by
  cases move with
  | deadLettered => rfl
  | deadLetterLogged _ _ settled => exact settled

/-- A move publishes nothing, or one request under the identifier it has drawn. -/
theorem requests (move : Move config db draw row cause row' columns effects opens) :
    effects.filterMap Effect.request? = [] ∨
      ∃ request, effects.filterMap Effect.request? = [request] ∧ request.messageId = draw.messageId ∧
        request.taskId = row.taskId := by
  cases move <;> simp [requestEffects, requestOf, Effect.request?, List.filterMap_cons, TaskRow.bumpSeq,
    TaskRow.setStatus, TaskRow.dispatchTo, TaskRow.fallBack]

/-- A row that names a message names the event the move handles or the request it publishes. -/
theorem columns_messageId (move : Move config db draw row cause row' columns effects opens) :
    ∀ event ∈ columns, ∀ message, event.messageId = some message →
      (∃ reply, cause = .message (.inventoryEvent reply) ∧ reply.messageId = message) ∨
        ∃ request ∈ effects.filterMap Effect.request?, request.messageId = message := by
  cases move <;> simp [messageColumns, internalColumns, requestColumns, requestEffects, requestOf,
    Effect.request?, List.filterMap_cons]

end Move

/-- The identifier of the message a move processes for the first time. -/
def Cause.processes? : Cause → Option MessageId
  | .message (.inventoryEvent event) => some event.messageId
  | _ => none

/-- One row is replaced, rows are appended, and the order follows a task that ends. -/
structure Edits (db db' : OrdersDb) (row row' : TaskRow) (columns : List EventColumns) : Prop where
  found : db.task? row.taskId = some row
  own : ∀ event ∈ columns, event.taskId = row.taskId
  task? : ∀ task, db'.task? task = if task = row.taskId then some row' else db.task? task
  rows : db'.taskEvents.rows = db.taskEvents.rows ++ numbered db.taskEvents.rows.length columns
  order? : ∀ order, db'.order? order =
    if order = row.orderId ∧ row'.status.terminal ≠ row.status.terminal then
      (db.order? order).map (·.setStatus (orderStatusFor row'.status) row'.updatedAt)
    else db.order? order

/-- The whole change of the database that a move is. -/
structure Commits (db db' : OrdersDb) (row : TaskRow) (cause : Cause) (row' : TaskRow)
    (columns : List EventColumns) : Prop extends Edits db db' row row' columns where
  processed : ∀ message, db'.isEventProcessed message =
    (db.isEventProcessed message || decide (cause.processes? = some message))

theorem mem_numbered_taskId {n : ℕ} {columns : List EventColumns} {task : TaskId}
    (own : ∀ event ∈ columns, event.taskId = task) : ∀ event ∈ numbered n columns, event.taskId = task := by
  induction columns generalizing n with
  | nil => simp [numbered]
  | cons first rest ih =>
    simp only [numbered, List.forall_mem_cons] at own ⊢
    exact ⟨own.1, ih own.2⟩

/-- Rows of one task behind the log extend its trajectory and no other. -/
theorem OrdersDb.trajectory_of_rows {db db' : OrdersDb} {owner : TaskId} {n : ℕ} {columns : List EventColumns}
    (rows : db'.taskEvents.rows = db.taskEvents.rows ++ numbered n columns)
    (own : ∀ event ∈ columns, event.taskId = owner) (task : TaskId) :
    db'.trajectory task =
      if task = owner then db.trajectory task ++ numbered n columns else db.trajectory task := by
  have own := mem_numbered_taskId (n := n) own
  rw [OrdersDb.trajectory, OrdersDb.trajectory, rows, List.filter_append]
  generalize numbered n columns = added at own ⊢
  split_ifs with same
  · have kept : added.filter (fun event => event.taskId = task) = added :=
      List.filter_eq_self.mpr fun event member => by simpa [same] using own event member
    rw [kept]
  · have dropped : added.filter (fun event => event.taskId = task) = [] :=
      List.filter_eq_nil_iff.mpr fun event member => by simpa [own event member] using Ne.symm same
    rw [dropped, List.append_nil]

theorem Edits.trajectory {db db' : OrdersDb} {row row' : TaskRow} {columns : List EventColumns}
    (edits : Edits db db' row row' columns) (task : TaskId) :
    db'.trajectory task = if task = row.taskId then
        db.trajectory task ++ numbered db.taskEvents.rows.length columns
      else db.trajectory task :=
  OrdersDb.trajectory_of_rows edits.rows edits.own task

end OrchLab
