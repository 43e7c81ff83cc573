import OrchLab.Machine.Run
import OrchLab.Model.Orders.Handlers
import Mathlib.Logic.Function.Basic

/-! # The orders-service as a machine

The API, the worker of `orders.events` (`--concurrency=1`) and the consumer of `tasks.dlq` share one
database and interleave by transactions. A decision point is three moments: it is opened by the
transaction that asks for it, the snapshot is built, and the decision is executed; any of them may
raise. The worker takes the next message when its decision point is closed.

What the service has received, sent and decided is kept beside the database. The environment promises
that an inventory event answers a request that was sent and that one identifier names one message, that
an internal message was scheduled, and that `unique_id` is unique; it may repeat, delay, reorder and
drop.
-/

namespace OrchLab

/-- The part of the configuration one deployment fixes. -/
structure Deployment where
  config : ExperimentConfig
  validator : DecisionValidator
  accepted : DecisionValidator.ofConfig? config = some validator
  executionId : String

/-- The configuration file under the default execution of `docker-compose.yml`. -/
def Deployment.pilot : Deployment where
  config := .pilot
  validator := ⟨60000⟩
  accepted := rfl
  executionId := "PILOT_0000"

/-- The body of `POST /orders`. -/
structure CreateOrderRequest where
  items : List OrderItem
  nonempty : items ≠ []
  valid : ∀ item ∈ items, item.valid = true

/-- A message of `orders.events`. -/
inductive OrdersMessage where
  | inventoryEvent (event : MessageEnvelope)
  | timeoutCheck (task : TaskId) (requestMessageId : MessageId)
  | dispatchAttempt (task : TaskId) (decisionId : DecisionId)
  | reevaluate (task : TaskId) (waitCount : ℕ)
deriving DecidableEq, Repr

def OrdersMessage.taskId : OrdersMessage → TaskId
  | .inventoryEvent event => event.taskId
  | .timeoutCheck task _ | .dispatchAttempt task _ | .reevaluate task _ => task

/-- The internal message a scheduling effect puts into `orders.events`. -/
def Effect.message? : Effect → Option OrdersMessage
  | .publish _ _ => none
  | .scheduleTimeoutCheck task message _ => some (.timeoutCheck task message)
  | .scheduleDispatch task decisionId _ => some (.dispatchAttempt task decisionId)
  | .scheduleReevaluation task waitCount _ => some (.reevaluate task waitCount)

def Effect.taskId : Effect → TaskId
  | .publish envelope _ => envelope.taskId
  | .scheduleTimeoutCheck task _ _ | .scheduleDispatch task _ _ | .scheduleReevaluation task _ _ => task

/-- The request an effect publishes. -/
def Effect.request? : Effect → Option MessageEnvelope
  | .publish envelope _ => some envelope
  | _ => none

/-- What the transaction of a message leaves: the database, the decision point it asks for and the
effects to perform. -/
structure Handled where
  db : OrdersDb
  decisionRequired : Bool
  effects : List Effect

/-- The transaction of `handle_event`, `timeout_check`, `dispatch_attempt` or `reevaluate`. -/
def OrdersDb.handle (config : ExperimentConfig) (db : OrdersDb) (message : OrdersMessage)
    (redelivered : Bool) (draw : Draw) : Except OrdersError Handled :=
  match message with
  | .inventoryEvent event => (db.handleInventoryEvent draw.now event redelivered).map
      fun (db, outcome) => ⟨db, outcome.decisionRequired, []⟩
  | .timeoutCheck task request => (db.registerTimeout draw.now task request).map
      fun (db, registered) => ⟨db, registered, []⟩
  | .dispatchAttempt task decisionId => (db.dispatchScheduledAttempt config task decisionId draw).map
      fun (db, _, effects) => ⟨db, false, effects⟩
  | .reevaluate task waitCount => (db.finishWait draw.now task waitCount).map
      fun (db, finished) => ⟨db, finished, []⟩

/-- Who conducts a decision point. -/
inductive DecisionOwner where
  | worker
  | api (task : TaskId)
deriving DecidableEq, Repr

inductive DecisionPoint where
  | closed
  | opened (task : TaskId)
  | built (state : SystemState)
deriving DecidableEq, Repr

/-- The task a decision point is about. -/
def DecisionPoint.task? : DecisionPoint → Option TaskId
  | .closed => none
  | .opened task => some task
  | .built state => some state.taskId

/-- A decision the executor was given, with the phase of its snapshot. -/
structure Execution where
  taskId : TaskId
  phase : TaskStatus
  decision : Decision
  decisionId : DecisionId
deriving DecidableEq

def Execution.of (state : SystemState) (decision : Decision) (decisionId : DecisionId) : Execution :=
  ⟨state.taskId, state.task.phase, decision, decisionId⟩

structure OrdersService where
  db : OrdersDb
  points : DecisionOwner → DecisionPoint
  received : List MessageEnvelope
  sent : List Effect
  executed : List Execution

inductive OrdersLabel where
  | createOrder (request : CreateOrderRequest) (now : Timestamp)
  | consume (message : OrdersMessage) (redelivered : Bool) (draw : Draw)
  | build (owner : DecisionOwner) (seen : Observation)
  | decide (owner : DecisionOwner) (output : EngineOutput) (decisionId : DecisionId) (draw : Draw)
  | raise (owner : DecisionOwner)
  | deadLetter (letter : DeadLetter) (now : Timestamp)

namespace OrdersService

def initial : OrdersService := ⟨.empty, fun _ => .closed, [], [], []⟩

/-- The requests sent so far. -/
def requests (s : OrdersService) : List MessageEnvelope := s.sent.filterMap Effect.request?

/-- The internal messages scheduled so far. -/
def scheduled (s : OrdersService) : List OrdersMessage := s.sent.filterMap Effect.message?

def setPoint (s : OrdersService) (owner : DecisionOwner) (point : DecisionPoint) : OrdersService :=
  { s with points := Function.update s.points owner point }

@[simp] theorem setPoint_points (s : OrdersService) (owner other : DecisionOwner) (point : DecisionPoint) :
    (s.setPoint owner point).points other = if other = owner then point else s.points other := by
  simp [setPoint, Function.update_apply]

/-- `POST /orders`: the transaction, and the decision point it opens. -/
def createOrder (deployment : Deployment) (s : OrdersService) (request : CreateOrderRequest)
    (now : Timestamp) : OrdersService :=
  match s.db.createOrderWithTask deployment.executionId (canonicalJson request.items) now with
  | .error _ => s
  | .ok (db, task) => { s with db }.setPoint (.api task) (.opened task)

/-- The events received once a message has been handled. -/
def receive (s : OrdersService) : OrdersMessage → List MessageEnvelope
  | .inventoryEvent event => s.received ++ [event]
  | _ => s.received

/-- The worker processes a message up to the decision point it opens; an error is a rollback. -/
def consume (deployment : Deployment) (s : OrdersService) (message : OrdersMessage)
    (redelivered : Bool) (draw : Draw) : OrdersService :=
  match s.db.handle deployment.config message redelivered draw with
  | .error _ => s
  | .ok handled =>
    { s with db := handled.db, received := s.receive message, sent := s.sent ++ handled.effects }.setPoint .worker
      (if handled.decisionRequired then .opened message.taskId else .closed)

/-- `StateBuilder.build`; an error ends the decision point. -/
def build (deployment : Deployment) (s : OrdersService) (owner : DecisionOwner) (task : TaskId)
    (seen : Observation) : OrdersService :=
  match s.db.build deployment.config task seen with
  | .error _ => s.setPoint owner .closed
  | .ok state => s.setPoint owner (.built state)

/-- From the engine's output to the executed decision; an error ends the decision point. -/
def decide (deployment : Deployment) (s : OrdersService) (owner : DecisionOwner) (state : SystemState)
    (output : EngineOutput) (decisionId : DecisionId) (draw : Draw) : OrdersService :=
  match deployment.validator.decision? state output with
  | none => s.setPoint owner .closed
  | some decision =>
    let executed := s.executed ++ [.of state decision decisionId]
    match s.db.execute deployment.config state.taskId decisionId draw decision with
    | .error _ => { s with executed }.setPoint owner .closed
    | .ok (db, _, effects) =>
      { s with db, executed, sent := s.sent ++ effects }.setPoint owner .closed

def deadLetter (s : OrdersService) (letter : DeadLetter) (now : Timestamp) : OrdersService :=
  match s.db.handleDeadLetter now letter with
  | .error _ => s
  | .ok (db, _) => { s with db }

def step (deployment : Deployment) (s : OrdersService) : OrdersLabel → Option OrdersService
  | .createOrder request now => some (s.createOrder deployment request now)
  | .consume message redelivered draw =>
    if s.points .worker = .closed then some (s.consume deployment message redelivered draw) else none
  | .build owner seen =>
    match s.points owner with
    | .opened task => some (s.build deployment owner task seen)
    | _ => none
  | .decide owner output decisionId draw =>
    match s.points owner with
    | .built state => some (s.decide deployment owner state output decisionId draw)
    | _ => none
  | .raise owner => if s.points owner = .closed then none else some (s.setPoint owner .closed)
  | .deadLetter letter now => some (s.deadLetter letter now)

/-- A message identifier that no message of the run carries. -/
def freshMessage (s : OrdersService) (message : MessageId) : Prop :=
  (∀ request ∈ s.requests, request.messageId ≠ message) ∧
    ∀ event ∈ s.received, event.messageId ≠ message

end OrdersService

/-- A reply repeats the correlation of the request it answers. -/
def MessageEnvelope.Answers (reply request : MessageEnvelope) : Prop :=
  reply.executionId = request.executionId ∧ reply.taskId = request.taskId ∧
    reply.eventSeq = request.eventSeq ∧ reply.attemptNumber = request.attemptNumber ∧
    reply.decisionId = request.decisionId ∧ reply.target = request.target ∧
    reply.eventType ≠ .stockReservationRequested

instance (reply request : MessageEnvelope) : Decidable (reply.Answers request) := by
  unfold MessageEnvelope.Answers
  infer_instance

namespace OrdersService

/-- What the environment promises about a delivered message. -/
def deliverable (s : OrdersService) : OrdersMessage → Prop
  | .inventoryEvent event =>
    (∃ request ∈ s.requests, event.Answers request) ∧
      (∀ request ∈ s.requests, request.messageId ≠ event.messageId) ∧
      ∀ other ∈ s.received, other.messageId = event.messageId → other = event
  | message => message ∈ s.scheduled

def admissible (s : OrdersService) : OrdersLabel → Prop
  | .consume message _ draw => s.deliverable message ∧ s.freshMessage draw.messageId
  | .decide _ _ decisionId draw =>
    (∀ execution ∈ s.executed, execution.decisionId ≠ decisionId) ∧ s.freshMessage draw.messageId
  | _ => True

instance (s : OrdersService) (message : MessageId) : Decidable (s.freshMessage message) :=
  inferInstanceAs (Decidable (_ ∧ _))

instance (s : OrdersService) : ∀ message, Decidable (s.deliverable message)
  | .inventoryEvent _ => inferInstanceAs (Decidable (_ ∧ _ ∧ _))
  | .timeoutCheck .. => inferInstanceAs (Decidable (_ ∈ _))
  | .dispatchAttempt .. => inferInstanceAs (Decidable (_ ∈ _))
  | .reevaluate .. => inferInstanceAs (Decidable (_ ∈ _))

instance (s : OrdersService) : ∀ label, Decidable (s.admissible label)
  | .consume .. => inferInstanceAs (Decidable (_ ∧ _))
  | .decide .. => inferInstanceAs (Decidable (_ ∧ _))
  | .createOrder .. => inferInstanceAs (Decidable True)
  | .build .. => inferInstanceAs (Decidable True)
  | .raise _ => inferInstanceAs (Decidable True)
  | .deadLetter .. => inferInstanceAs (Decidable True)

end OrdersService

/-- The orders-service of a deployment in its environment. -/
def ordersMachine (deployment : Deployment) : Machine OrdersService OrdersLabel where
  initial := .initial
  step := OrdersService.step deployment
  admissible := OrdersService.admissible

instance (deployment : Deployment) (s : OrdersService) (label : OrdersLabel) :
    Decidable ((ordersMachine deployment).admissible s label) :=
  inferInstanceAs (Decidable (s.admissible label))

/-! ## The shortest history -/

/-- One order of one item. -/
def CreateOrderRequest.single : CreateOrderRequest := ⟨[⟨"SKU-001", 1⟩], by decide, by decide⟩

/-- Both routes have a consumer and no backlog. -/
def Observation.calm (now : Timestamp) (stateId : StateId) : Observation := ⟨now, stateId, ⟨0, 1⟩, ⟨0, 1⟩⟩

/-- An engine that proposes these parts in time. -/
def EngineOutput.proposing (action : Action) (target : Option Target) (reason : ReasonCode) :
    EngineOutput :=
  ⟨some (.ofTexts (some action.value) (target.map Target.value) (some reason.value)), none⟩

/-- An order is placed, and its first decision dispatches it under decision 1 and message 10. -/
def firstDispatch : List OrdersLabel :=
  [.createOrder .single 0, .build (.api 1) (.calm 1 1),
    .decide (.api 1) (.proposing .continueFlow (some .inventoryPrimary) .normalFlow) 1 ⟨10, 2⟩]

/-- A reply to the request of the first dispatch. -/
def firstReply (messageId : MessageId) (payload : MessagePayload) : MessageEnvelope where
  executionId := Deployment.pilot.executionId
  messageId := messageId
  taskId := 1
  eventSeq := 2
  attemptNumber := 1
  publishedAt := 3
  decisionId := some 1
  target := some .inventoryPrimary
  payload := payload

end OrchLab
