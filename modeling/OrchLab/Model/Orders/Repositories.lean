import OrchLab.Model.Orders.Trajectory
import OrchLab.Model.Shared.CanonicalJson

/-! # Orders and tasks in `orders.db`

`services/orders/app/db/repositories.py`. Each state change is one guarded `UPDATE` of the task row, and
the caller learns from the row count whether it applied. Retries and waits read the counter back.
-/

namespace OrchLab

/-- `TASK_CREATED_EVENT_SEQ`. -/
def taskCreatedEventSeq : ℕ := 1

/-- What is needed to build the reservation request of the current attempt. -/
structure DispatchContext where
  taskId : TaskId
  orderId : OrderId
  executionId : String
  target : Option Target
  attemptNumber : ℕ
  itemsJson : String
deriving DecidableEq, Repr

namespace TaskRow

/-- A new row, with the defaults of the schema. -/
def created (number : ℕ) (executionId : String) (now : Timestamp) : TaskRow where
  taskId := number
  orderId := number
  executionId := executionId
  status := .pending
  currentTarget := none
  attemptNumber := 1
  waitCount := 0
  fallbackUsed := false
  currentEventSeq := taskCreatedEventSeq
  lastResult := none
  createdAt := now
  updatedAt := now

def setStatus (status : TaskStatus) (now : Timestamp) (row : TaskRow) : TaskRow :=
  { row with status, updatedAt := now }

def dispatchTo (target : Target) (now : Timestamp) (row : TaskRow) : TaskRow :=
  { row with status := .dispatched, currentTarget := some target, updatedAt := now }

def retry (now : Timestamp) (row : TaskRow) : TaskRow :=
  { row with attemptNumber := row.attemptNumber + 1, status := .retrying, updatedAt := now }

def fallBack (target : Option Target) (now : Timestamp) (row : TaskRow) : TaskRow :=
  { row with
    status := .fallbackProcessing, currentTarget := target, fallbackUsed := true, updatedAt := now }

def wait (now : Timestamp) (row : TaskRow) : TaskRow :=
  { row with waitCount := row.waitCount + 1, status := .waiting, updatedAt := now }

def complete (now : Timestamp) (row : TaskRow) : TaskRow :=
  { row with status := .completed, lastResult := some .ok, updatedAt := now }

def setLastResult (result : TaskResult) (now : Timestamp) (row : TaskRow) : TaskRow :=
  { row with lastResult := some result, updatedAt := now }

section Key

variable (status : TaskStatus) (target : Target) (target? : Option Target) (result : TaskResult)
  (now : Timestamp) (row : TaskRow)

theorem setStatus_taskId : (row.setStatus status now).taskId = row.taskId := rfl
theorem dispatchTo_taskId : (row.dispatchTo target now).taskId = row.taskId := rfl
theorem retry_taskId : (row.retry now).taskId = row.taskId := rfl
theorem fallBack_taskId : (row.fallBack target? now).taskId = row.taskId := rfl
theorem wait_taskId : (row.wait now).taskId = row.taskId := rfl
theorem complete_taskId : (row.complete now).taskId = row.taskId := rfl
theorem setLastResult_taskId : (row.setLastResult result now).taskId = row.taskId := rfl

end Key

end TaskRow

namespace OrdersDb

/-- `_next_order_number`: rows are never deleted, so the largest `rowid` is their number. -/
def nextOrderNumber (db : OrdersDb) : ℕ := db.orders.rows.length + 1

/-- The row of `TASK_CREATED`. -/
def taskCreatedColumns (number : TaskId) (executionId : String) (now : Timestamp) : EventColumns where
  executionId := executionId
  taskId := number
  messageId := none
  eventSeq := taskCreatedEventSeq
  eventType := .taskCreated
  attemptNumber := 1
  service := .orders
  target := none
  redelivered := false
  publishedAt := none
  recordedAt := now
  payload := none

/-- `create_order_with_task`: order, task and `TASK_CREATED` in one transaction. Both carry the same
number, so the second unique column of `tasks`, the order, never refuses what its key accepts. -/
def createOrderWithTask (db : OrdersDb) (executionId itemsJson : String) (now : Timestamp) :
    Except OrdersError (OrdersDb × TaskId) :=
  let number := db.nextOrderNumber
  match db.orders.insert? ⟨number, executionId, .pending, itemsJson, now, now⟩,
      db.tasks.insert? (.created number executionId now) with
  | some orders, some tasks =>
    ({ db with orders, tasks }.recordEvent (taskCreatedColumns number executionId now)).map (·, number)
  | _, _ => .error .integrity

/-- `start_first_dispatch`, the guard and the update of `CONTINUE`. -/
def startFirstDispatch (db : OrdersDb) (task : TaskId) (target : Target) (now : Timestamp) :
    Option OrdersDb :=
  db.updateTask? task
    (fun row => (row.status = .pending || row.status = .waiting) && row.currentTarget.isNone)
    (.dispatchTo target now) (TaskRow.dispatchTo_taskId target now)

/-- `start_retry`, with the new `attempt_number`. -/
def startRetry (db : OrdersDb) (task : TaskId) (now : Timestamp) : Option (OrdersDb × ℕ) :=
  (db.updateTask? task (fun row => row.currentTarget.isSome && !row.status.terminal)
    (.retry now) (TaskRow.retry_taskId now)).bind
      fun db => (db.task? task).map fun row => (db, row.attemptNumber)

/-- `mark_retry_dispatched`. -/
def markRetryDispatched (db : OrdersDb) (task : TaskId) (now : Timestamp) : Option OrdersDb :=
  db.updateTask? task (fun row => row.status = .retrying)
    (.setStatus .dispatched now) (TaskRow.setStatus_taskId .dispatched now)

/-- `start_fallback`. -/
def startFallback (db : OrdersDb) (task : TaskId) (target : Option Target) (now : Timestamp) :
    Option OrdersDb :=
  db.updateTask? task (fun row => !row.fallbackUsed && !row.status.terminal)
    (.fallBack target now) (TaskRow.fallBack_taskId target now)

/-- `enter_wait`, with the new `wait_count`. -/
def enterWait (db : OrdersDb) (task : TaskId) (now : Timestamp) : Option (OrdersDb × ℕ) :=
  (db.updateTask? task (fun row => !row.status.terminal) (.wait now) (TaskRow.wait_taskId now)).bind
    fun db => (db.task? task).map fun row => (db, row.waitCount)

/-- `dispatch_context`; a missing row is the `None` the code then subscripts. -/
def dispatchContext (db : OrdersDb) (task : TaskId) : Option DispatchContext :=
  (db.task? task).bind fun row => (db.order? row.orderId).map fun order =>
    ⟨row.taskId, row.orderId, row.executionId, row.currentTarget, row.attemptNumber, order.itemsJson⟩

/-- `is_event_processed`. -/
def isEventProcessed (db : OrdersDb) (message : MessageId) : Bool :=
  (db.processedEvents.find? message).isSome

@[simp] theorem isEventProcessed_modifyTask (db : OrdersDb) (task : TaskId) (f : TaskRow → TaskRow)
    (keeps : ∀ row, (f row).taskId = row.taskId) (message : MessageId) :
    (db.modifyTask task f keeps).isEventProcessed message = db.isEventProcessed message := rfl

@[simp] theorem isEventProcessed_setOrderStatus (db : OrdersDb) (order : OrderId) (status : OrderStatus)
    (now : Timestamp) (message : MessageId) :
    (db.setOrderStatus order status now).isEventProcessed message = db.isEventProcessed message := rfl

@[simp] theorem isEventProcessed_appendEvent (db : OrdersDb) (columns : EventColumns)
    (message : MessageId) : (db.appendEvent columns).isEventProcessed message = db.isEventProcessed message :=
  rfl

/-- `insert_processed_event`. -/
def insertProcessedEvent (db : OrdersDb) (event : MessageEnvelope) (now : Timestamp) :
    Except OrdersError OrdersDb :=
  match db.processedEvents.insert? ⟨event.messageId, event.taskId, event.eventType, now⟩ with
  | none => .error .integrity
  | some processedEvents => .ok { db with processedEvents }

/-- `UPDATE orders SET ... WHERE order_id = (SELECT order_id FROM tasks WHERE task_id = ?)`. -/
def updateOrderOf (db : OrdersDb) (task : TaskId) (status : OrderStatus) (now : Timestamp) : OrdersDb :=
  match db.task? task with
  | none => db
  | some row => db.setOrderStatus row.orderId status now

/-- `complete_task`; `none` when the task was terminal already. -/
def completeTask (db : OrdersDb) (task : TaskId) (now : Timestamp) : Option OrdersDb :=
  (db.updateTask? task (fun row => !row.status.terminal)
    (.complete now) (TaskRow.complete_taskId now)).map
      (·.updateOrderOf task (orderStatusFor .completed) now)

/-- `set_last_result`. -/
def setLastResult (db : OrdersDb) (task : TaskId) (result : TaskResult) (now : Timestamp) : OrdersDb :=
  db.modifyTask task (.setLastResult result now) (TaskRow.setLastResult_taskId result now)

/-- `_finish_task`. -/
def finishTask (db : OrdersDb) (task : TaskId) (status : TaskStatus) (now : Timestamp) : Option OrdersDb :=
  (db.updateTask? task (fun row => !row.status.terminal)
    (.setStatus status now) (TaskRow.setStatus_taskId status now)).map
      (·.updateOrderOf task (orderStatusFor status) now)

/-- `abort_task`. -/
def abortTask (db : OrdersDb) (task : TaskId) (now : Timestamp) : Option OrdersDb :=
  db.finishTask task .aborted now

/-- `dead_letter_task`. -/
def deadLetterTask (db : OrdersDb) (task : TaskId) (now : Timestamp) : Option OrdersDb :=
  db.finishTask task .deadLettered now

end OrdersDb

end OrchLab
