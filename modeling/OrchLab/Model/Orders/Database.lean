import OrchLab.Model.Shared.Contract
import OrchLab.Storage.Table
import Mathlib.Data.List.Range

/-! # `orders.db`

The tables of `services/orders/app/db/models.py` as values. `tasks`, `orders` and `processed_events`
are keyed tables; `task_events` is a log whose AUTOINCREMENT key `event_id` numbers the rows in order,
because no row is ever deleted. A payload column holds one of the documents the code writes, with
`json_extract` as the projections the queries use.
-/

namespace OrchLab

/-- A message that reached `tasks.dlq`, as `DeadLetter.from_celery_message` reads it. -/
structure DeadLetter where
  taskName : Option String
  taskId : Option TaskId
  messageId : Option MessageId
  eventType : Option EventType
  originQueue : Option String
  reason : Option String
deriving DecidableEq, Repr

/-- `EventSource`: who the trajectory row comes from. -/
inductive EventSource where
  | orders | inventory
deriving DecidableEq, Repr

/-- The document in `payload_json`: a message's own payload or that of an internal event. -/
inductive EventPayload where
  | message (payload : MessagePayload)
  | retryScheduled (decisionId : DecisionId) (delayMs : ℕ)
  | waitScheduled (decisionId : DecisionId) (delayMs waitCount : ℕ)
  | waitFinished (waitCount : ℕ)
  | fallbackScheduled (decisionId : DecisionId)
  | taskAborted (decisionId : DecisionId) (reasonCode : String)
  | inventoryTimeout (requestMessageId : MessageId) (lastResult : TaskResult)
  | messageDeadLettered (taskName : Option String) (messageId : Option MessageId)
      (eventType : Option EventType) (originQueue reason : Option String) (taskStateChanged : Bool)
deriving DecidableEq, Repr

/-- `DeadLetter.payload`, with `task_state_changed`. -/
def DeadLetter.payload (letter : DeadLetter) (taskStateChanged : Bool) : EventPayload :=
  .messageDeadLettered letter.taskName letter.messageId letter.eventType letter.originQueue letter.reason
    taskStateChanged

/-- `json_extract(payload_json, '$.wait_count')`. -/
def EventPayload.waitCount? : EventPayload → Option ℕ
  | .waitScheduled _ _ waitCount | .waitFinished waitCount => some waitCount
  | _ => none

/-- `json_extract(payload_json, '$.request_message_id')`. -/
def EventPayload.requestMessageId? : EventPayload → Option MessageId
  | .inventoryTimeout requestMessageId _ => some requestMessageId
  | _ => none

/-- The decision in the payload of a `RETRY_SCHEDULED` row. -/
def EventPayload.retry? : EventPayload → Option DecisionId
  | .retryScheduled decisionId _ => some decisionId
  | _ => none

structure OrderRow where
  orderId : OrderId
  executionId : String
  status : OrderStatus
  itemsJson : String
  createdAt : Timestamp
  updatedAt : Timestamp
deriving DecidableEq, Repr

def OrderRow.setStatus (row : OrderRow) (status : OrderStatus) (now : Timestamp) : OrderRow :=
  { row with status, updatedAt := now }

structure TaskRow where
  taskId : TaskId
  orderId : OrderId
  executionId : String
  status : TaskStatus
  currentTarget : Option Target
  attemptNumber : ℕ
  waitCount : ℕ
  fallbackUsed : Bool
  currentEventSeq : ℕ
  lastResult : Option TaskResult
  createdAt : Timestamp
  updatedAt : Timestamp
deriving DecidableEq, Repr

structure ProcessedEvent where
  messageId : MessageId
  taskId : TaskId
  eventType : EventType
  processedAt : Timestamp
deriving DecidableEq, Repr

/-- The columns of a trajectory row that the writer supplies. -/
structure EventColumns where
  executionId : String
  taskId : TaskId
  messageId : Option MessageId
  eventSeq : ℕ
  eventType : EventType
  attemptNumber : ℕ
  service : EventSource
  target : Option Target
  redelivered : Bool
  publishedAt : Option Timestamp
  recordedAt : Timestamp
  payload : Option EventPayload
deriving DecidableEq, Repr

structure TaskEvent extends EventColumns where
  eventId : ℕ
deriving DecidableEq, Repr

/-- The rows of `task_events` with the numbers AUTOINCREMENT gave them. -/
structure EventLog where
  rows : List TaskEvent
  numbered : rows.map TaskEvent.eventId = List.range' 1 rows.length
deriving DecidableEq

namespace EventLog

def empty : EventLog := ⟨[], rfl⟩

/-- Insert a row under the next `event_id`. -/
def append (log : EventLog) (columns : EventColumns) : EventLog where
  rows := log.rows ++ [{ columns with eventId := log.rows.length + 1 }]
  numbered := by simp [log.numbered, List.range'_concat, Nat.add_comm]

theorem eventId_le {log : EventLog} {event : TaskEvent} (member : event ∈ log.rows) :
    event.eventId ≤ log.rows.length := by
  have numbered := List.mem_map_of_mem (f := TaskEvent.eventId) member
  rw [log.numbered, List.mem_range'_1] at numbered
  omega

/-- Rows come in the order of their numbers. -/
theorem pairwise_eventId (log : EventLog) : log.rows.Pairwise (·.eventId < ·.eventId) := by
  have increasing := List.pairwise_lt_range' (s := 1) (n := log.rows.length)
  rw [← log.numbered] at increasing
  exact List.pairwise_map.mp increasing

end EventLog

structure OrdersDb where
  orders : Table OrderRow.orderId
  tasks : Table TaskRow.taskId
  processedEvents : Table ProcessedEvent.messageId
  taskEvents : EventLog
deriving DecidableEq

namespace OrdersDb

def empty : OrdersDb := ⟨∅, ∅, ∅, .empty⟩

/-- `SELECT * FROM tasks WHERE task_id = ?`. -/
def task? (db : OrdersDb) (task : TaskId) : Option TaskRow := db.tasks.find? task

/-- `SELECT * FROM orders WHERE order_id = ?`. -/
def order? (db : OrdersDb) (order : OrderId) : Option OrderRow := db.orders.find? order

/-- The rows of one task in `event_id` order. -/
def trajectory (db : OrdersDb) (task : TaskId) : List TaskEvent :=
  db.taskEvents.rows.filter fun event => event.taskId = task

/-- `UPDATE tasks SET ... WHERE task_id = ?`. -/
def modifyTask (db : OrdersDb) (task : TaskId) (f : TaskRow → TaskRow)
    (keeps : ∀ row, (f row).taskId = row.taskId) : OrdersDb :=
  { db with tasks := db.tasks.modify task f keeps }

/-- `UPDATE tasks SET ... WHERE task_id = ? AND guard`; `none` when `rowcount` is not 1. -/
def updateTask? (db : OrdersDb) (task : TaskId) (guard : TaskRow → Bool) (f : TaskRow → TaskRow)
    (keeps : ∀ row, (f row).taskId = row.taskId) : Option OrdersDb :=
  if (db.task? task).any guard then some (db.modifyTask task f keeps) else none

/-- `UPDATE orders SET status = ?, updated_at = ? WHERE order_id = ?`. -/
def setOrderStatus (db : OrdersDb) (order : OrderId) (status : OrderStatus) (now : Timestamp) : OrdersDb :=
  { db with orders := db.orders.modify order (·.setStatus status now) fun _ => rfl }

/-- Insert into `task_events`. -/
def appendEvent (db : OrdersDb) (columns : EventColumns) : OrdersDb :=
  { db with taskEvents := db.taskEvents.append columns }

section Projections

variable (db : OrdersDb) (task other : TaskId) (f : TaskRow → TaskRow)
  (keeps : ∀ row, (f row).taskId = row.taskId) (order : OrderId) (status : OrderStatus)
  (now : Timestamp) (columns : EventColumns)

@[simp] theorem task?_modifyTask : (db.modifyTask task f keeps).task? other =
    if other = task then (db.task? task).map f else db.task? other :=
  Table.find?_modify _ _ _ _ keeps

@[simp] theorem order?_modifyTask : (db.modifyTask task f keeps).order? order = db.order? order := rfl
@[simp] theorem taskEvents_modifyTask : (db.modifyTask task f keeps).taskEvents = db.taskEvents := rfl
@[simp] theorem processedEvents_modifyTask :
    (db.modifyTask task f keeps).processedEvents = db.processedEvents := rfl
@[simp] theorem orders_modifyTask : (db.modifyTask task f keeps).orders = db.orders := rfl

@[simp] theorem task?_setOrderStatus : (db.setOrderStatus order status now).task? task = db.task? task := rfl
@[simp] theorem taskEvents_setOrderStatus :
    (db.setOrderStatus order status now).taskEvents = db.taskEvents := rfl
@[simp] theorem processedEvents_setOrderStatus :
    (db.setOrderStatus order status now).processedEvents = db.processedEvents := rfl
@[simp] theorem order?_setOrderStatus (o : OrderId) : (db.setOrderStatus order status now).order? o =
    if o = order then (db.order? order).map (·.setStatus status now) else db.order? o :=
  Table.find?_modify db.orders order o (OrderRow.setStatus · status now) fun _ => rfl

@[simp] theorem task?_appendEvent : (db.appendEvent columns).task? task = db.task? task := rfl
@[simp] theorem order?_appendEvent : (db.appendEvent columns).order? order = db.order? order := rfl
@[simp] theorem orders_appendEvent : (db.appendEvent columns).orders = db.orders := rfl
@[simp] theorem processedEvents_appendEvent :
    (db.appendEvent columns).processedEvents = db.processedEvents := rfl
@[simp] theorem taskEvents_appendEvent :
    (db.appendEvent columns).taskEvents = db.taskEvents.append columns := rfl

end Projections

theorem updateTask?_of_found {db : OrdersDb} {task : TaskId} {row : TaskRow}
    (found : db.task? task = some row) (guard : TaskRow → Bool) (f : TaskRow → TaskRow)
    (keeps : ∀ row, (f row).taskId = row.taskId) :
    db.updateTask? task guard f keeps = if guard row then some (db.modifyTask task f keeps) else none := by
  rw [updateTask?, found, Option.any_some]

theorem updateTask?_of_absent {db : OrdersDb} {task : TaskId} (absent : db.task? task = none)
    (guard : TaskRow → Bool) (f : TaskRow → TaskRow) (keeps : ∀ row, (f row).taskId = row.taskId) :
    db.updateTask? task guard f keeps = none := by
  rw [updateTask?, absent]
  rfl

theorem taskId_of_task? {db : OrdersDb} {task : TaskId} {row : TaskRow}
    (found : db.task? task = some row) : row.taskId = task :=
  Table.key_of_find? found

end OrdersDb

/-- What a step of the orders-service raises. -/
inductive OrdersError where
  | unknownTask (task : TaskId)
  | integrity
  | notApplicable (action : String) (task : TaskId)
  | unsupportedEvent (eventType : EventType)
  | invalidEnvelope
  | invalidState
  | invalidDecision
deriving DecidableEq, Repr

/-- The text of the exception, where the code writes one. -/
def OrdersError.text : OrdersError → Option String
  | .unknownTask task => some ("unknown task " ++ sequentialId "TASK" task)
  | .notApplicable action task => some (action ++ " is not applicable to task " ++ sequentialId "TASK" task)
  | _ => none

end OrchLab
