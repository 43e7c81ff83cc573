import OrchLab.Model.Orders.Database
import OrchLab.ToMathlib.LastWhere

/-! # The trajectory of a task

`services/orders/app/db/trajectory.py`: numbering, recording and reading `task_events`. The readers of
one task take its rows in `event_id` order; the two readers that look across tasks take the database.
-/

namespace OrchLab

/-- `SET current_event_seq = current_event_seq + 1, updated_at = ?`. -/
def TaskRow.bumpSeq (now : Timestamp) (row : TaskRow) : TaskRow :=
  { row with currentEventSeq := row.currentEventSeq + 1, updatedAt := now }

@[simp] theorem TaskRow.bumpSeq_taskId (now : Timestamp) (row : TaskRow) :
    (row.bumpSeq now).taskId = row.taskId := rfl

namespace OrdersDb

/-- `advance_event_seq`: reserve the task's next position; `none` when the task does not exist. -/
def advanceEventSeq (db : OrdersDb) (task : TaskId) (now : Timestamp) : Option (OrdersDb × ℕ) :=
  (db.updateTask? task (fun _ => true) (TaskRow.bumpSeq now) (TaskRow.bumpSeq_taskId now)).bind
    fun db => (db.task? task).map fun row => (db, row.currentEventSeq)

/-- `record_event`; the foreign key to `tasks` is enforced. -/
def recordEvent (db : OrdersDb) (columns : EventColumns) : Except OrdersError OrdersDb :=
  if (db.task? columns.taskId).isSome then .ok (db.appendEvent columns) else .error .integrity

end OrdersDb

/-- The row `record_message` writes for a published or received message. -/
def messageColumns (message : MessageEnvelope) (eventSeq : ℕ) (service : EventSource)
    (redelivered : Bool) (now : Timestamp) : EventColumns where
  executionId := message.executionId
  taskId := message.taskId
  messageId := some message.messageId
  eventSeq := eventSeq
  eventType := message.eventType
  attemptNumber := message.attemptNumber
  service := service
  target := message.target
  redelivered := redelivered
  publishedAt := some message.publishedAt
  recordedAt := now
  payload := some (.message message.payload)

/-- The row `record_internal_event` writes, from the task row it has just renumbered. -/
def internalColumns (row : TaskRow) (eventType : EventType) (payload : Option EventPayload)
    (now : Timestamp) : EventColumns where
  executionId := row.executionId
  taskId := row.taskId
  messageId := none
  eventSeq := row.currentEventSeq
  eventType := eventType
  attemptNumber := row.attemptNumber
  service := .orders
  target := row.currentTarget
  redelivered := false
  publishedAt := none
  recordedAt := now
  payload := payload

namespace OrdersDb

/-- `record_message`. -/
def recordMessage (db : OrdersDb) (message : MessageEnvelope) (eventSeq : ℕ) (service : EventSource)
    (redelivered : Bool) (now : Timestamp) : Except OrdersError OrdersDb :=
  db.recordEvent (messageColumns message eventSeq service redelivered now)

/-- `record_internal_event`: number and record an event of the orders-service itself. -/
def recordInternalEvent (db : OrdersDb) (task : TaskId) (eventType : EventType)
    (payload : Option EventPayload) (now : Timestamp) : Except OrdersError OrdersDb :=
  match db.advanceEventSeq task now with
  | none => .error (.unknownTask task)
  | some (db, _) =>
    match db.task? task with
    | none => .error (.unknownTask task)
    | some row => db.recordEvent (internalColumns row eventType payload now)

/-- `event_seq_of_message`: the position of the first occurrence of a message. -/
def eventSeqOfMessage (db : OrdersDb) (message : MessageId) : Option ℕ :=
  (db.taskEvents.rows.find? fun event => event.messageId = some message && !event.redelivered).map
    (·.eventSeq)

end OrdersDb

/-! ## Readers of one task -/

/-- A first occurrence of `STOCK_RESERVATION_REQUESTED`. -/
def TaskEvent.isRequest (event : TaskEvent) : Bool :=
  event.eventType = .stockReservationRequested && !event.redelivered

/-- `latest_request`. -/
def latestRequest (events : List TaskEvent) : Option TaskEvent := lastWhere TaskEvent.isRequest events

/-- `is_awaiting_reply`: the request is the latest one and no inventory row follows it. -/
def isAwaitingReply (events : List TaskEvent) (requestMessageId : MessageId) : Bool :=
  match latestRequest events with
  | none => false
  | some request =>
    request.messageId = some requestMessageId &&
      !events.any fun event => event.service = .inventory && request.eventId < event.eventId

/-- `timeout_registered`. -/
def timeoutRegistered (events : List TaskEvent) (requestMessageId : MessageId) : Bool :=
  events.any fun event => event.eventType = .inventoryTimeout &&
    event.payload.bind EventPayload.requestMessageId? = some requestMessageId

/-- The second query of `finish_wait`: the wait has already been finished. -/
def waitFinished (events : List TaskEvent) (waitCount : ℕ) : Bool :=
  events.any fun event => event.eventType = .waitFinished &&
    event.payload.bind EventPayload.waitCount? = some waitCount

/-! ## The window of recent events -/

/-- `TrajectoryEvent`, also the `RecentEvent` of a state. -/
structure TrajectoryEvent where
  eventSeq : ℕ
  eventType : EventType
  attemptNumber : ℕ
deriving DecidableEq, Repr

/-- The rows of a task that do not repeat a message recorded before. -/
def OrdersDb.distinctOccurrences (db : OrdersDb) (task : TaskId) : List TaskEvent :=
  (db.trajectory task).filter fun event => !db.taskEvents.rows.any fun earlier =>
    event.messageId.isSome && earlier.messageId = event.messageId && earlier.eventId < event.eventId

/-- `recent_events`: the last `limit` distinct occurrences in increasing order. -/
def OrdersDb.recentEvents (db : OrdersDb) (task : TaskId) (limit : ℕ) : List TrajectoryEvent :=
  (((db.distinctOccurrences task).reverse.take limit).map
    fun event => ⟨event.eventSeq, event.eventType, event.attemptNumber⟩).reverse

/-! ## What one operation does -/

namespace OrdersDb

theorem advanceEventSeq_of_found {db : OrdersDb} {task : TaskId} {row : TaskRow}
    (found : db.task? task = some row) (now : Timestamp) :
    db.advanceEventSeq task now =
      some (db.modifyTask task (TaskRow.bumpSeq now) (TaskRow.bumpSeq_taskId now), row.currentEventSeq + 1) := by
  rw [advanceEventSeq, updateTask?_of_found found, if_pos rfl, Option.bind_some, task?_modifyTask,
    if_pos rfl, found]
  rfl

theorem advanceEventSeq_of_absent {db : OrdersDb} {task : TaskId} (absent : db.task? task = none)
    (now : Timestamp) : db.advanceEventSeq task now = none := by
  rw [advanceEventSeq, updateTask?_of_absent absent, Option.bind_none]

theorem recordEvent_of_found {db : OrdersDb} {row : TaskRow} (columns : EventColumns)
    (found : db.task? columns.taskId = some row) :
    db.recordEvent columns = .ok (db.appendEvent columns) := by
  rw [recordEvent, found, Option.isSome_some, if_pos rfl]

theorem recordMessage_of_found {db : OrdersDb} {message : MessageEnvelope} {row : TaskRow}
    (found : db.task? message.taskId = some row) (eventSeq : ℕ) (service : EventSource)
    (redelivered : Bool) (now : Timestamp) :
    db.recordMessage message eventSeq service redelivered now =
      .ok (db.appendEvent (messageColumns message eventSeq service redelivered now)) :=
  recordEvent_of_found (messageColumns message eventSeq service redelivered now) found

theorem recordInternalEvent_of_found {db : OrdersDb} {task : TaskId} {row : TaskRow}
    (found : db.task? task = some row) (eventType : EventType) (payload : Option EventPayload)
    (now : Timestamp) :
    db.recordInternalEvent task eventType payload now =
      .ok ((db.modifyTask task (TaskRow.bumpSeq now) (TaskRow.bumpSeq_taskId now)).appendEvent
        (internalColumns (row.bumpSeq now) eventType payload now)) := by
  have bumped : (db.modifyTask task (TaskRow.bumpSeq now) (TaskRow.bumpSeq_taskId now)).task? task =
      some (row.bumpSeq now) := by
    rw [task?_modifyTask, if_pos rfl, found, Option.map_some]
  rw [recordInternalEvent, advanceEventSeq_of_found found]
  simp only [bumped]
  have same : (internalColumns (row.bumpSeq now) eventType payload now).taskId = task :=
    taskId_of_task? bumped
  exact recordEvent_of_found _ (by rw [same]; exact bumped)

theorem trajectory_appendEvent (db : OrdersDb) (columns : EventColumns) (task : TaskId) :
    (db.appendEvent columns).trajectory task =
      if columns.taskId = task then
        db.trajectory task ++ [{ columns with eventId := db.taskEvents.rows.length + 1 }]
      else db.trajectory task := by
  simp only [trajectory, appendEvent, EventLog.append, List.filter_append]
  split_ifs with same
  · simp [same]
  · simp [same]

@[simp] theorem trajectory_modifyTask (db : OrdersDb) (task other : TaskId) (f : TaskRow → TaskRow)
    (keeps : ∀ row, (f row).taskId = row.taskId) :
    (db.modifyTask task f keeps).trajectory other = db.trajectory other := rfl

@[simp] theorem trajectory_setOrderStatus (db : OrdersDb) (order : OrderId) (status : OrderStatus)
    (now : Timestamp) (task : TaskId) :
    (db.setOrderStatus order status now).trajectory task = db.trajectory task := rfl

theorem mem_trajectory {db : OrdersDb} {task : TaskId} {event : TaskEvent} :
    event ∈ db.trajectory task ↔ event ∈ db.taskEvents.rows ∧ event.taskId = task := by
  simp [trajectory]

theorem eventId_lt_of_mem_trajectory {db : OrdersDb} {task : TaskId} {event : TaskEvent}
    (member : event ∈ db.trajectory task) : event.eventId < db.taskEvents.rows.length + 1 :=
  Nat.lt_succ_of_le (EventLog.eventId_le (mem_trajectory.mp member).1)

end OrdersDb

/-! ## What one appended row does to the readers -/

section Concat

variable (events : List TaskEvent) (event : TaskEvent) (message : MessageId)

@[simp] theorem latestRequest_concat : latestRequest (events ++ [event]) =
    if event.isRequest then some event else latestRequest events :=
  lastWhere_concat ..

theorem isAwaitingReply_concat (later : ∀ earlier ∈ events, earlier.eventId < event.eventId) :
    isAwaitingReply (events ++ [event]) message =
      if event.isRequest then decide (event.messageId = some message)
      else isAwaitingReply events message && decide (event.service ≠ .inventory) := by
  rw [isAwaitingReply, latestRequest_concat]
  split_ifs with request
  · have none_after : ((events ++ [event]).any fun other =>
        decide (other.service = .inventory) && decide (event.eventId < other.eventId)) = false := by
      simp only [List.any_append, List.any_cons, List.any_nil, lt_irrefl, decide_false, Bool.and_false,
        Bool.or_false, List.any_eq_false, Bool.and_eq_true, decide_eq_true_eq, not_and, not_lt]
      exact fun other member _ => (later other member).le
    simp only [none_after, Bool.not_false, Bool.and_true]
  · rw [isAwaitingReply]
    cases found : latestRequest events with
    | none => rfl
    | some request =>
      have after := later request (mem_of_lastWhere found)
      simp only [List.any_append, List.any_cons, List.any_nil, after, decide_true, Bool.and_true,
        Bool.or_false, Bool.not_or, Bool.and_assoc, ne_eq, decide_not]

@[simp] theorem timeoutRegistered_concat : timeoutRegistered (events ++ [event]) message =
    (timeoutRegistered events message || (decide (event.eventType = .inventoryTimeout) &&
      decide (event.payload.bind EventPayload.requestMessageId? = some message))) := by
  simp [timeoutRegistered]

@[simp] theorem waitFinished_concat (waitCount : ℕ) : waitFinished (events ++ [event]) waitCount =
    (waitFinished events waitCount || (decide (event.eventType = .waitFinished) &&
      decide (event.payload.bind EventPayload.waitCount? = some waitCount))) := by
  simp [waitFinished]

end Concat

end OrchLab
