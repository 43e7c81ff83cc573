import OrchLab.Model.Orders.Executor

/-! # Handling what arrives

`event_handler.py`, `timeouts.py`, `waits.py` and `dead_letters.py` of `services/orders/app/orchestration`:
the transaction each message of `orders.events` and each dead letter runs, and whether it asks for a
decision point.
-/

namespace OrchLab

inductive EventStatus where
  | recorded | duplicate | unknownTask
deriving DecidableEq, Repr

structure EventOutcome where
  status : EventStatus
  eventSeq : Option ℕ
  changedState : Bool
  decisionRequired : Bool
deriving DecidableEq, Repr

/-- The result a failure gives its task: the fallback route turns every reason but invalid data
into a failed fallback. -/
def failureResult (reason : FailureReason) (target : Option Target) : TaskResult :=
  if target = some .inventoryFallback ∧ reason.result ≠ .invalidData then .fallbackFailed
  else reason.result

/-- The result of a timeout, by the route the task is on. -/
def timeoutResult (currentTarget : Option Target) : TaskResult :=
  if currentTarget = some .inventoryFallback then .fallbackFailed else .timeout

namespace OrdersDb

variable (db : OrdersDb) (now : Timestamp)

/-- `_record_repeated`: one more row, at the position of the first occurrence. -/
def recordRepeated (event : MessageEnvelope) : Except OrdersError OrdersDb :=
  match db.eventSeqOfMessage event.messageId with
  | none => .ok db
  | some originalSeq => db.recordMessage event originalSeq .inventory true now

/-- The event answers the latest request of its task. -/
def isCurrent (event : MessageEnvelope) : Bool :=
  (latestRequest (db.trajectory event.taskId)).any fun request => request.eventSeq = event.eventSeq

/-- `_register_failure`. -/
def registerFailure (event : MessageEnvelope) (reason : FailureReason) : OrdersDb × Bool :=
  if (db.task? event.taskId).any (·.status.terminal) || !db.isCurrent event then (db, false)
  else (db.setLastResult event.taskId (failureResult reason event.target) now, true)

/-- The success branch: complete the task unless it is terminal. -/
def registerSuccess (event : MessageEnvelope) : Except OrdersError (OrdersDb × Bool) :=
  match db.completeTask event.taskId now with
  | none => .ok (db, false)
  | some db => (db.recordInternalEvent event.taskId .taskCompleted none now).map (·, true)

/-- What `handle_inventory_event` does with an event it has just recorded. -/
def applyEvent (event : MessageEnvelope) (eventSeq : ℕ) : Except OrdersError (OrdersDb × EventOutcome) :=
  match event.payload with
  | .failed payload =>
    let (db, decisionRequired) := db.registerFailure now event payload.failureReason
    .ok (db, ⟨.recorded, some eventSeq, false, decisionRequired⟩)
  | _ => (db.registerSuccess now event).map
      fun (db, changed) => (db, ⟨.recorded, some eventSeq, changed, false⟩)

/-- `handle_inventory_event`. -/
def handleInventoryEvent (event : MessageEnvelope) (redelivered : Bool) :
    Except OrdersError (OrdersDb × EventOutcome) :=
  if event.eventType ≠ .stockReservationSucceeded ∧ event.eventType ≠ .stockReservationFailed then
    .error (.unsupportedEvent event.eventType)
  else if db.isEventProcessed event.messageId then
    (db.recordRepeated now event).map (·, ⟨.duplicate, none, false, false⟩)
  else match db.advanceEventSeq event.taskId now with
    | none => .ok (db, ⟨.unknownTask, none, false, false⟩)
    | some (db, eventSeq) =>
      match db.insertProcessedEvent event now with
      | .error error => .error error
      | .ok db =>
        match db.recordMessage event eventSeq .inventory redelivered now with
        | .error error => .error error
        | .ok db => db.applyEvent now event eventSeq

/-- `register_timeout`. -/
def registerTimeout (task : TaskId) (requestMessageId : MessageId) :
    Except OrdersError (OrdersDb × Bool) :=
  match db.task? task with
  | none => .ok (db, false)
  | some row =>
    if row.status.terminal then .ok (db, false)
    else if !isAwaitingReply (db.trajectory task) requestMessageId then .ok (db, false)
    else if timeoutRegistered (db.trajectory task) requestMessageId then .ok (db, false)
    else
      let result := timeoutResult row.currentTarget
      ((db.setLastResult task result now).recordInternalEvent task .inventoryTimeout
        (some (.inventoryTimeout requestMessageId result)) now).map (·, true)

/-- `finish_wait`. -/
def finishWait (task : TaskId) (waitCount : ℕ) : Except OrdersError (OrdersDb × Bool) :=
  match db.task? task with
  | none => .ok (db, false)
  | some row =>
    if row.status ≠ .waiting ∨ row.waitCount ≠ waitCount then .ok (db, false)
    else if waitFinished (db.trajectory task) waitCount then .ok (db, false)
    else (db.recordInternalEvent task .waitFinished (some (.waitFinished waitCount)) now).map (·, true)

/-- `handle_dead_letter`. -/
def handleDeadLetter (letter : DeadLetter) : Except OrdersError (OrdersDb × Bool) :=
  match letter.taskId with
  | none => .ok (db, false)
  | some task =>
    match db.task? task with
    | none => .ok (db, false)
    | some _ =>
      let (db, changed) := match db.deadLetterTask task now with
        | none => (db, false)
        | some db => (db, true)
      (db.recordInternalEvent task .messageDeadLettered (some (letter.payload changed)) now).map
        (·, changed)

end OrdersDb

end OrchLab
