import OrchLab.Model.Orders.Validator

/-! # Executing decisions

`services/orders/app/orchestration/executor.py`. An action is one transaction on the task and its
trajectory; what it wants sent is returned as a list of effects, performed in order after the commit.
A raised error is a rolled back transaction, so no database comes with it.
-/

namespace OrchLab

/-- What is sent once the transaction has committed, through the publisher and the scheduler. -/
inductive Effect where
  | publish (envelope : MessageEnvelope) (route : Target)
  | scheduleTimeoutCheck (task : TaskId) (requestMessageId : MessageId) (delayMs : ℕ)
  | scheduleDispatch (task : TaskId) (decisionId : DecisionId) (delayMs : ℕ)
  | scheduleReevaluation (task : TaskId) (waitCount : ℕ) (delayMs : ℕ)
deriving DecidableEq, Repr

/-- `ExecutionResult`. -/
structure ExecutionResult where
  action : Action
  changedState : Bool
  publishedMessageIds : List MessageId
deriving DecidableEq, Repr

/-- The identifiers and the clock one transaction draws: `unique_id` and `utc_now_iso`. -/
structure Draw where
  messageId : MessageId
  now : Timestamp
deriving DecidableEq, Repr

namespace OrdersDb

variable (config : ExperimentConfig) (db : OrdersDb) (task : TaskId) (decisionId : DecisionId)
  (draw : Draw)

/-- The envelope of the request of the current attempt. -/
def requestEnvelope (context : DispatchContext) (eventSeq : ℕ) (items : List OrderItem) :
    MessageEnvelope where
  executionId := context.executionId
  messageId := draw.messageId
  taskId := task
  eventSeq := eventSeq
  attemptNumber := context.attemptNumber
  publishedAt := draw.now
  decisionId := some decisionId
  target := context.target
  payload := .requested ⟨context.orderId, items⟩

/-- `_publish_request`: record the request and schedule its publication and its timeout check. -/
def publishRequest : Except OrdersError (OrdersDb × List Effect) :=
  match db.dispatchContext task with
  | none => .error .integrity
  | some context =>
    match db.advanceEventSeq task draw.now, loadsItems context.itemsJson with
    | some (db, eventSeq), some items =>
      let envelope := requestEnvelope task decisionId draw context eventSeq items
      if envelope.valid then
        match db.recordMessage envelope eventSeq .orders false draw.now, context.target with
        | .ok db, some route =>
          .ok (db, [.publish envelope route,
            .scheduleTimeoutCheck task draw.messageId config.messaging.inventoryTimeoutMs])
        | _, _ => .error .integrity
      else .error .invalidEnvelope
    | _, _ => .error .invalidEnvelope

/-- `_continue`: the first dispatch, always to the primary route. -/
def executeContinue : Except OrdersError (OrdersDb × ExecutionResult × List Effect) :=
  match db.startFirstDispatch task .inventoryPrimary draw.now with
  | none => .error (.notApplicable "CONTINUE" task)
  | some db => (db.publishRequest config task decisionId draw).map
      fun (db, effects) => (db, ⟨.continueFlow, true, [draw.messageId]⟩, effects)

/-- `_retry`: the attempt is counted now and dispatched after `retry_delay_ms`. -/
def executeRetry : Except OrdersError (OrdersDb × ExecutionResult × List Effect) :=
  match db.startRetry task draw.now with
  | none => .error (.notApplicable "RETRY" task)
  | some (db, _) =>
    (db.recordInternalEvent task .retryScheduled
      (some (.retryScheduled decisionId config.messaging.retryDelayMs)) draw.now).map fun db =>
        (db, ⟨.retry, true, []⟩, [.scheduleDispatch task decisionId config.messaging.retryDelayMs])

/-- `_wait`: nothing is sent now; the state is evaluated again after `wait_delay_ms`. -/
def executeWait : Except OrdersError (OrdersDb × ExecutionResult × List Effect) :=
  match db.enterWait task draw.now with
  | none => .error (.notApplicable "WAIT" task)
  | some (db, waitCount) =>
    (db.recordInternalEvent task .waitScheduled
      (some (.waitScheduled decisionId config.messaging.waitDelayMs waitCount)) draw.now).map fun db =>
        (db, ⟨.wait, true, []⟩, [.scheduleReevaluation task waitCount config.messaging.waitDelayMs])

/-- `_fallback`: the other route, at once and with the same attempt number. -/
def executeFallback (target : Option Target) :
    Except OrdersError (OrdersDb × ExecutionResult × List Effect) :=
  match db.startFallback task target draw.now with
  | none => .error (.notApplicable "FALLBACK" task)
  | some db =>
    match db.recordInternalEvent task .fallbackScheduled (some (.fallbackScheduled decisionId)) draw.now with
    | .error error => .error error
    | .ok db => (db.publishRequest config task decisionId draw).map
        fun (db, effects) => (db, ⟨.fallback, true, [draw.messageId]⟩, effects)

/-- `_abort`: a terminal task stays as it is. -/
def executeAbort (reasonCode : String) : Except OrdersError (OrdersDb × ExecutionResult × List Effect) :=
  match db.abortTask task draw.now with
  | none => .ok (db, ⟨.abort, false, []⟩, [])
  | some db =>
    (db.recordInternalEvent task .taskAborted (some (.taskAborted decisionId reasonCode)) draw.now).map
      fun db => (db, ⟨.abort, true, []⟩, [])

/-- The transaction of `DecisionExecutor.execute`. -/
def execute (decision : Decision) : Except OrdersError (OrdersDb × ExecutionResult × List Effect) :=
  match decision.action with
  | .continueFlow => db.executeContinue config task decisionId draw
  | .retry => db.executeRetry config task decisionId draw
  | .wait => db.executeWait config task decisionId draw
  | .fallback => db.executeFallback config task decisionId draw decision.target
  | .abort => db.executeAbort task decisionId draw decision.reasonCode

/-- `dispatch_scheduled_attempt`: the continuation of a `RETRY`. -/
def dispatchScheduledAttempt : Except OrdersError (OrdersDb × Bool × List Effect) :=
  match db.markRetryDispatched task draw.now with
  | none => .ok (db, false, [])
  | some db => (db.publishRequest config task decisionId draw).map
      fun (db, effects) => (db, true, effects)

end OrdersDb

end OrchLab
