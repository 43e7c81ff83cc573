import OrchLab.Soundness.Orders.Transactions
import OrchLab.ToMathlib.ResultRel

/-! # Relations the transactions of a task respect

Two databases can be related in a way the transactions on one task cannot tell apart: what they read about
the task is the same, and what they write to it leads to related databases again. Then every transaction on
the task returns the same on both sides and leaves them related. Only a timeout check reads more than the
relation promises, so its two readings are asked for.
-/

namespace OrchLab

/-- The identifiers under which a transaction receives or may publish a message. -/
def Transaction.messageIds : Transaction → List MessageId
  | .inventoryEvent event _ _ => [event.messageId]
  | .dispatchAttempt _ _ draw => [draw.messageId]
  | .execute _ _ decision draw =>
    match decision.action with
    | .continueFlow | .fallback => [draw.messageId]
    | .retry | .wait | .abort => []
  | .createOrder _ _ _ | .timeoutCheck _ _ _ | .reevaluate _ _ _ | .deadLetter _ _ => []

/-- Related databases with the same value. -/
def Paired (R : OrdersDb → OrdersDb → Prop) {α : Type} (x y : OrdersDb × α) : Prop := R x.1 y.1 ∧ y.2 = x.2

/-- Related databases are read alike for the task and stay related when it is written to, as far as the
messages concerned satisfy `mine`. -/
structure Congruence (R : OrdersDb → OrdersDb → Prop) (task : TaskId) (mine : MessageId → Prop) : Prop where
  task? {db db' : OrdersDb} (related : R db db') : db'.task? task = db.task? task
  order? {db db' : OrdersDb} {row : TaskRow} (related : R db db') (found : db.task? task = some row) :
    db'.order? row.orderId = db.order? row.orderId
  isEventProcessed {db db' : OrdersDb} {message : MessageId} (related : R db db') (own : mine message) :
    db'.isEventProcessed message = db.isEventProcessed message
  position {db db' : OrdersDb} {message : MessageId} (related : R db db') (own : mine message) :
    db'.eventSeqOfMessage message = db.eventSeqOfMessage message
  latest {db db' : OrdersDb} (related : R db db') :
    (latestRequest (db'.trajectory task)).map TaskEvent.toEventColumns =
      (latestRequest (db.trajectory task)).map TaskEvent.toEventColumns
  finished {db db' : OrdersDb} (related : R db db') (waitCount : ℕ) :
    waitFinished (db'.trajectory task) waitCount = waitFinished (db.trajectory task) waitCount
  modifyTask {db db' : OrdersDb} (related : R db db') (f : TaskRow → TaskRow)
    (keeps : ∀ row, (f row).taskId = row.taskId) (order : ∀ row, (f row).orderId = row.orderId) :
    R (db.modifyTask task f keeps) (db'.modifyTask task f keeps)
  setOrderStatus {db db' : OrdersDb} {row : TaskRow} (related : R db db') (found : db.task? task = some row)
    (status : OrderStatus) (now : Timestamp) :
    R (db.setOrderStatus row.orderId status now) (db'.setOrderStatus row.orderId status now)
  insertProcessedEvent {db db' : OrdersDb} (related : R db db') (event : MessageEnvelope) (now : Timestamp)
    (own : mine event.messageId) :
    ExceptRel R (db.insertProcessedEvent event now) (db'.insertProcessedEvent event now)
  appendEvent {db db' : OrdersDb} (related : R db db') (columns : EventColumns) (about : columns.taskId = task)
    (own : ∀ message, columns.messageId = some message → mine message) :
    R (db.appendEvent columns) (db'.appendEvent columns)

namespace Congruence

variable {R : OrdersDb → OrdersDb → Prop} {task : TaskId} {mine : MessageId → Prop} {db db' : OrdersDb}

/-! ## The operations of the repositories -/

theorem updateTask? (congruence : Congruence R task mine) (related : R db db') (guard : TaskRow → Bool)
    (f : TaskRow → TaskRow) (keeps : ∀ row, (f row).taskId = row.taskId)
    (order : ∀ row, (f row).orderId = row.orderId) :
    Option.Rel R (db.updateTask? task guard f keeps) (db'.updateTask? task guard f keeps) := by
  rw [OrdersDb.updateTask?, OrdersDb.updateTask?, congruence.task? related]
  split_ifs
  · exact .some (congruence.modifyTask related f keeps order)
  · exact .none

/-- An update that reads a column back. -/
theorem updateTask?_read {α : Type} (congruence : Congruence R task mine) (related : R db db')
    (guard : TaskRow → Bool) (f : TaskRow → TaskRow) (keeps : ∀ row, (f row).taskId = row.taskId)
    (order : ∀ row, (f row).orderId = row.orderId) (column : TaskRow → α) :
    Option.Rel (Paired R)
      ((db.updateTask? task guard f keeps).bind fun db => (db.task? task).map fun row => (db, column row))
      ((db'.updateTask? task guard f keeps).bind fun db => (db.task? task).map fun row => (db, column row)) := by
  refine OptionRel.bind (congruence.updateTask? related guard f keeps order) fun moved moved' related => ?_
  rw [congruence.task? related]
  cases moved.task? task with
  | none => exact .none
  | some row => exact .some ⟨related, rfl⟩

theorem advanceEventSeq (congruence : Congruence R task mine) (related : R db db') (now : Timestamp) :
    Option.Rel (Paired R) (db.advanceEventSeq task now) (db'.advanceEventSeq task now) :=
  congruence.updateTask?_read related _ _ (TaskRow.bumpSeq_taskId now) (fun _ => rfl) TaskRow.currentEventSeq

theorem recordEvent (congruence : Congruence R task mine) (related : R db db') (columns : EventColumns)
    (about : columns.taskId = task) (own : ∀ message, columns.messageId = some message → mine message) :
    ExceptRel R (db.recordEvent columns) (db'.recordEvent columns) := by
  rw [OrdersDb.recordEvent, OrdersDb.recordEvent, about, congruence.task? related]
  split_ifs
  · exact .ok (congruence.appendEvent related columns about own)
  · exact .error _

/-- Record a message of the task. -/
theorem recordMessage (congruence : Congruence R task mine) (related : R db db') (message : MessageEnvelope)
    (about : message.taskId = task) (own : mine message.messageId) (eventSeq : ℕ) (service : EventSource)
    (redelivered : Bool) (now : Timestamp) :
    ExceptRel R (db.recordMessage message eventSeq service redelivered now)
      (db'.recordMessage message eventSeq service redelivered now) := by
  refine congruence.recordEvent related _ about ?_
  rintro _ ⟨⟩
  exact own

theorem recordInternalEvent (congruence : Congruence R task mine) (related : R db db') (eventType : EventType)
    (payload : Option EventPayload) (now : Timestamp) :
    ExceptRel R (db.recordInternalEvent task eventType payload now)
      (db'.recordInternalEvent task eventType payload now) := by
  rw [OrdersDb.recordInternalEvent, OrdersDb.recordInternalEvent]
  rcases OptionRel.cases (congruence.advanceEventSeq related now) with
    ⟨absent, absent'⟩ | ⟨⟨moved, _⟩, ⟨moved', _⟩, same, same', related, -⟩
  · rw [absent, absent']
    exact .error _
  · rw [same, same']
    simp only at related ⊢
    rw [congruence.task? related]
    cases found : moved.task? task with
    | none => exact .error _
    | some row =>
      refine congruence.recordEvent related _ (OrdersDb.taskId_of_task? found) ?_
      rintro _ ⟨⟩

theorem updateOrderOf (congruence : Congruence R task mine) (related : R db db') (status : OrderStatus)
    (now : Timestamp) : R (db.updateOrderOf task status now) (db'.updateOrderOf task status now) := by
  rw [OrdersDb.updateOrderOf, OrdersDb.updateOrderOf, congruence.task? related]
  cases found : db.task? task with
  | none => exact related
  | some row => exact congruence.setOrderStatus related found status now

theorem completeTask (congruence : Congruence R task mine) (related : R db db') (now : Timestamp) :
    Option.Rel R (db.completeTask task now) (db'.completeTask task now) :=
  OptionRel.map (congruence.updateTask? related _ _ _ fun _ => rfl) fun _ _ related =>
    congruence.updateOrderOf related _ now

theorem finishTask (congruence : Congruence R task mine) (related : R db db') (status : TaskStatus)
    (now : Timestamp) : Option.Rel R (db.finishTask task status now) (db'.finishTask task status now) :=
  OptionRel.map (congruence.updateTask? related _ _ _ fun _ => rfl) fun _ _ related =>
    congruence.updateOrderOf related _ now

theorem setLastResult (congruence : Congruence R task mine) (related : R db db') (result : TaskResult)
    (now : Timestamp) : R (db.setLastResult task result now) (db'.setLastResult task result now) :=
  congruence.modifyTask related _ _ fun _ => rfl

theorem dispatchContext (congruence : Congruence R task mine) (related : R db db') :
    db'.dispatchContext task = db.dispatchContext task := by
  rw [OrdersDb.dispatchContext, OrdersDb.dispatchContext, congruence.task? related]
  cases found : db.task? task with
  | none => rfl
  | some row => rw [Option.bind_some, Option.bind_some, congruence.order? related found]

/-! ## The transactions -/

theorem publishRequest (congruence : Congruence R task mine) (related : R db db') (config : ExperimentConfig)
    (decisionId : DecisionId) (draw : Draw) (own : mine draw.messageId) :
    ExceptRel (Paired R) (db.publishRequest config task decisionId draw)
      (db'.publishRequest config task decisionId draw) := by
  rw [OrdersDb.publishRequest, OrdersDb.publishRequest, congruence.dispatchContext related]
  cases db.dispatchContext task with
  | none => exact .error _
  | some context =>
    rcases OptionRel.cases (congruence.advanceEventSeq related draw.now) with
      ⟨absent, absent'⟩ | ⟨⟨moved, _⟩, ⟨moved', seq⟩, same, same', related, rfl⟩
    · simp only [absent, absent']
      exact .error _
    · simp only [same, same']
      cases loadsItems context.itemsJson with
      | none => exact .error _
      | some items =>
        simp only
        split_ifs
        · have recorded : ExceptRel R _ _ := congruence.recordMessage related
            (OrdersDb.requestEnvelope task decisionId draw context seq items) rfl own seq .orders false draw.now
          rcases recorded.cases with ⟨e, failed, failed'⟩ | ⟨a, b, ok, ok', related⟩
          · simp only [failed, failed']
            exact .error _
          · simp only [ok, ok']
            cases context.target with
            | none => exact .error _
            | some route => exact .ok ⟨related, rfl⟩
        · exact .error _

/-- What an action makes of the request it publishes. -/
theorem publishing {α : Type} (congruence : Congruence R task mine) (related : R db db')
    (config : ExperimentConfig) (decisionId : DecisionId) (draw : Draw) (own : mine draw.messageId)
    (value : List Effect → α) :
    ExceptRel (Paired R)
      ((db.publishRequest config task decisionId draw).map fun (db, effects) => (db, value effects))
      ((db'.publishRequest config task decisionId draw).map fun (db, effects) => (db, value effects)) :=
  (congruence.publishRequest related config decisionId draw own).map fun _ _ related =>
    ⟨related.1, congrArg value related.2⟩

theorem execute (congruence : Congruence R task mine) (related : R db db') (config : ExperimentConfig)
    (decisionId : DecisionId) (draw : Draw) (decision : Decision)
    (own : ∀ message ∈ (Transaction.execute task decisionId decision draw).messageIds, mine message) :
    ExceptRel (Paired R) (db.execute config task decisionId draw decision)
      (db'.execute config task decisionId draw decision) := by
  rw [Transaction.messageIds] at own
  rw [OrdersDb.execute, OrdersDb.execute]
  cases action : decision.action with
  | continueFlow =>
    have drawn : mine draw.messageId := own draw.messageId (by simp [action])
    simp only [OrdersDb.executeContinue, OrdersDb.startFirstDispatch]
    rcases OptionRel.cases (congruence.updateTask? related _ _
      (TaskRow.dispatchTo_taskId .inventoryPrimary draw.now) fun _ => rfl) with
      ⟨refused, refused'⟩ | ⟨moved, moved', same, same', related⟩
    · rw [refused, refused']
      exact .error _
    · rw [same, same']
      exact congruence.publishing related config decisionId draw drawn _
  | retry =>
    simp only [OrdersDb.executeRetry, OrdersDb.startRetry]
    rcases OptionRel.cases (congruence.updateTask?_read related _ _ (TaskRow.retry_taskId draw.now)
      (fun _ => rfl) TaskRow.attemptNumber) with
      ⟨refused, refused'⟩ | ⟨⟨moved, _⟩, ⟨moved', _⟩, same, same', related, rfl⟩
    · rw [refused, refused']
      exact .error _
    · rw [same, same']
      exact (congruence.recordInternalEvent related _ _ _).map fun _ _ related => ⟨related, rfl⟩
  | wait =>
    simp only [OrdersDb.executeWait, OrdersDb.enterWait]
    rcases OptionRel.cases (congruence.updateTask?_read related _ _ (TaskRow.wait_taskId draw.now)
      (fun _ => rfl) TaskRow.waitCount) with
      ⟨refused, refused'⟩ | ⟨⟨moved, _⟩, ⟨moved', waitCount⟩, same, same', related, rfl⟩
    · rw [refused, refused']
      exact .error _
    · rw [same, same']
      exact (congruence.recordInternalEvent related _ _ _).map fun _ _ related => ⟨related, rfl⟩
  | fallback =>
    have drawn : mine draw.messageId := own draw.messageId (by simp [action])
    simp only [OrdersDb.executeFallback, OrdersDb.startFallback]
    rcases OptionRel.cases (congruence.updateTask? related _ _
      (TaskRow.fallBack_taskId decision.target draw.now) fun _ => rfl) with
      ⟨refused, refused'⟩ | ⟨moved, moved', same, same', related⟩
    · rw [refused, refused']
      exact .error _
    · rw [same, same']
      rcases (congruence.recordInternalEvent related .fallbackScheduled (some (.fallbackScheduled decisionId))
        draw.now).cases with ⟨e, failed, failed'⟩ | ⟨a, b, ok, ok', related⟩
      · simp only [failed, failed']
        exact .error _
      · simp only [ok, ok']
        exact congruence.publishing related config decisionId draw drawn _
  | abort =>
    simp only [OrdersDb.executeAbort, OrdersDb.abortTask]
    rcases OptionRel.cases (congruence.finishTask related .aborted draw.now) with
      ⟨refused, refused'⟩ | ⟨moved, moved', same, same', moves⟩
    · rw [refused, refused']
      exact .ok ⟨related, rfl⟩
    · rw [same, same']
      exact (congruence.recordInternalEvent moves _ _ _).map fun _ _ related => ⟨related, rfl⟩

theorem dispatchScheduledAttempt (congruence : Congruence R task mine) (related : R db db')
    (config : ExperimentConfig) (decisionId : DecisionId) (draw : Draw) (own : mine draw.messageId) :
    ExceptRel (Paired R) (db.dispatchScheduledAttempt config task decisionId draw)
      (db'.dispatchScheduledAttempt config task decisionId draw) := by
  simp only [OrdersDb.dispatchScheduledAttempt, OrdersDb.markRetryDispatched]
  rcases OptionRel.cases (congruence.updateTask? related (fun row => row.status = .retrying)
    (.setStatus .dispatched draw.now) (TaskRow.setStatus_taskId .dispatched draw.now) fun _ => rfl) with
    ⟨refused, refused'⟩ | ⟨moved, moved', same, same', moves⟩
  · rw [refused, refused']
    exact .ok ⟨related, rfl⟩
  · rw [same, same']
    exact congruence.publishing moves config decisionId draw own _

theorem finishWait (congruence : Congruence R task mine) (related : R db db') (now : Timestamp)
    (waitCount : ℕ) :
    ExceptRel (Paired R) (db.finishWait now task waitCount) (db'.finishWait now task waitCount) := by
  simp only [OrdersDb.finishWait, congruence.task? related, congruence.finished related]
  cases db.task? task with
  | none => exact .ok ⟨related, rfl⟩
  | some row =>
    simp only
    split_ifs
    · exact .ok ⟨related, rfl⟩
    · exact .ok ⟨related, rfl⟩
    · exact (congruence.recordInternalEvent related _ _ _).map fun _ _ related => ⟨related, rfl⟩

/-- A timeout check that reads the same on both sides. -/
theorem registerTimeout (congruence : Congruence R task mine) (related : R db db') (now : Timestamp)
    {request : MessageId}
    (awaiting : isAwaitingReply (db'.trajectory task) request = isAwaitingReply (db.trajectory task) request)
    (registered : timeoutRegistered (db'.trajectory task) request =
      timeoutRegistered (db.trajectory task) request) :
    ExceptRel (Paired R) (db.registerTimeout now task request) (db'.registerTimeout now task request) := by
  simp only [OrdersDb.registerTimeout, congruence.task? related, awaiting, registered]
  cases db.task? task with
  | none => exact .ok ⟨related, rfl⟩
  | some row =>
    simp only
    split_ifs
    · exact .ok ⟨related, rfl⟩
    · exact .ok ⟨related, rfl⟩
    · exact .ok ⟨related, rfl⟩
    · have noted : R _ _ := congruence.setLastResult related (timeoutResult row.currentTarget) now
      exact (congruence.recordInternalEvent noted _ _ _).map fun _ _ related => ⟨related, rfl⟩

theorem handleDeadLetter (congruence : Congruence R task mine) (related : R db db') (now : Timestamp)
    {letter : DeadLetter} (about : letter.taskId = some task) :
    ExceptRel (Paired R) (db.handleDeadLetter now letter) (db'.handleDeadLetter now letter) := by
  simp only [OrdersDb.handleDeadLetter, OrdersDb.deadLetterTask, about, congruence.task? related]
  cases db.task? task with
  | none => exact .ok ⟨related, rfl⟩
  | some row =>
    rcases OptionRel.cases (congruence.finishTask related .deadLettered now) with
      ⟨refused, refused'⟩ | ⟨moved, moved', same, same', moves⟩
    · simp only [refused, refused']
      exact (congruence.recordInternalEvent related _ _ _).map fun _ _ related => ⟨related, rfl⟩
    · simp only [same, same']
      exact (congruence.recordInternalEvent moves _ _ _).map fun _ _ related => ⟨related, rfl⟩

theorem isCurrent (congruence : Congruence R task mine) (related : R db db') {event : MessageEnvelope}
    (about : event.taskId = task) : db'.isCurrent event = db.isCurrent event := by
  have latest := congruence.latest related
  rw [OrdersDb.isCurrent, OrdersDb.isCurrent, about]
  cases before : latestRequest (db.trajectory task) <;>
    cases after : latestRequest (db'.trajectory task) <;> simp_all

theorem recordRepeated (congruence : Congruence R task mine) (related : R db db') (now : Timestamp)
    {event : MessageEnvelope} (about : event.taskId = task) (own : mine event.messageId) :
    ExceptRel R (db.recordRepeated now event) (db'.recordRepeated now event) := by
  rw [OrdersDb.recordRepeated, OrdersDb.recordRepeated, congruence.position related own]
  cases db.eventSeqOfMessage event.messageId with
  | none => exact .ok related
  | some originalSeq => exact congruence.recordMessage related event about own originalSeq .inventory true now

theorem applyEvent (congruence : Congruence R task mine) (related : R db db') (now : Timestamp)
    {event : MessageEnvelope} (about : event.taskId = task) (eventSeq : ℕ) :
    ExceptRel (Paired R) (db.applyEvent now event eventSeq) (db'.applyEvent now event eventSeq) := by
  have success : ExceptRel (Paired R) (db.registerSuccess now event) (db'.registerSuccess now event) := by
    rw [OrdersDb.registerSuccess, OrdersDb.registerSuccess, about]
    rcases OptionRel.cases (congruence.completeTask related now) with
      ⟨refused, refused'⟩ | ⟨moved, moved', same, same', moves⟩
    · rw [refused, refused']
      exact .ok ⟨related, rfl⟩
    · rw [same, same']
      exact (congruence.recordInternalEvent moves _ _ _).map fun _ _ related => ⟨related, rfl⟩
  have finish : ∀ x y : OrdersDb × Bool, Paired R x y → Paired R
      (x.1, (⟨.recorded, some eventSeq, x.2, false⟩ : EventOutcome))
      (y.1, ⟨.recorded, some eventSeq, y.2, false⟩) := fun x y related => ⟨related.1, by rw [related.2]⟩
  simp only [OrdersDb.applyEvent]
  cases event.payload with
  | failed payload =>
    simp only [OrdersDb.registerFailure, congruence.isCurrent related about, about, congruence.task? related]
    split_ifs
    · exact .ok ⟨related, rfl⟩
    · exact .ok ⟨congruence.setLastResult related _ now, rfl⟩
  | requested payload => exact success.map finish
  | succeeded payload => exact success.map finish

theorem handleInventoryEvent (congruence : Congruence R task mine) (related : R db db') (now : Timestamp)
    {event : MessageEnvelope} (about : event.taskId = task) (own : mine event.messageId) (redelivered : Bool) :
    ExceptRel (Paired R) (db.handleInventoryEvent now event redelivered)
      (db'.handleInventoryEvent now event redelivered) := by
  simp only [OrdersDb.handleInventoryEvent, congruence.isEventProcessed related own, about]
  split_ifs
  · exact .error _
  · exact (congruence.recordRepeated related now about own).map fun _ _ related => ⟨related, rfl⟩
  · rcases OptionRel.cases (congruence.advanceEventSeq related now) with
      ⟨absent, absent'⟩ | ⟨⟨moved, _⟩, ⟨moved', seq⟩, same, same', related, rfl⟩
    · simp only [absent, absent']
      exact .ok ⟨related, rfl⟩
    · simp only [same, same']
      rcases (congruence.insertProcessedEvent related event now own).cases with
        ⟨e, failed, failed'⟩ | ⟨a, b, ok, ok', related⟩
      · simp only [failed, failed']
        exact .error _
      · simp only [ok, ok']
        rcases (congruence.recordMessage related event about own seq .inventory redelivered now).cases with
          ⟨e, failed, failed'⟩ | ⟨a, b, ok, ok', related⟩
        · simp only [failed, failed']
          exact .error _
        · simp only [ok, ok']
          exact congruence.applyEvent related now about seq

/-! ## One transaction -/

/-- Commit on both sides, or roll back on both. -/
theorem settle {α : Type} {x y : Except OrdersError (OrdersDb × α)} (related : R db db')
    (results : ExceptRel (Paired R) x y) (returns : α → Returned) :
    Paired R (db.settle returns x) (db'.settle returns y) := by
  cases results with
  | ok results => exact ⟨results.1, congrArg returns results.2⟩
  | error e => exact ⟨related, rfl⟩

/-- A transaction on the task leaves the databases related and returns the same, if the readings of a timeout
check are the same. -/
theorem perform (congruence : Congruence R task mine) (related : R db db') (config : ExperimentConfig)
    {transaction : Transaction} (about : transaction.task? = some task)
    (own : ∀ message ∈ transaction.messageIds, mine message)
    (timeouts : ∀ request now, transaction = .timeoutCheck task request now →
      isAwaitingReply (db'.trajectory task) request = isAwaitingReply (db.trajectory task) request ∧
        timeoutRegistered (db'.trajectory task) request = timeoutRegistered (db.trajectory task) request) :
    Paired R (db.perform config transaction) (db'.perform config transaction) := by
  cases transaction with
  | createOrder => cases about
  | inventoryEvent event redelivered now =>
    have mine := own event.messageId (List.mem_singleton_self _)
    exact settle related (congruence.handleInventoryEvent related now (Option.some_inj.mp about) mine _) _
  | timeoutCheck subject request now =>
    obtain rfl := Option.some_inj.mp about
    obtain ⟨awaiting, registered⟩ := timeouts request now rfl
    exact settle related (congruence.registerTimeout related now awaiting registered) _
  | dispatchAttempt subject decisionId draw =>
    obtain rfl := Option.some_inj.mp about
    have mine := own draw.messageId (List.mem_singleton_self _)
    exact settle related (congruence.dispatchScheduledAttempt related config decisionId draw mine) _
  | reevaluate subject waitCount now =>
    obtain rfl := Option.some_inj.mp about
    exact settle related (congruence.finishWait related now waitCount) _
  | execute subject decisionId decision draw =>
    obtain rfl := Option.some_inj.mp about
    exact settle related (congruence.execute related config decisionId draw decision own) _
  | deadLetter letter now => exact settle related (congruence.handleDeadLetter related now about) _

end Congruence

end OrchLab
