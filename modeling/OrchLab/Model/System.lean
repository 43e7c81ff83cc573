import OrchLab.Model.Inventory.Reservation
import OrchLab.Model.Orders.Service

/-! # The two services and the broker

The orders-service, the inventory-service with one process a route, and the queues between them. A
message stays in its queue until it is acknowledged. Deliveries come in any order, and a message may be
delivered more than once.

After the commit a process performs its effects one by one; it may raise before any of them, and then
its message moves to `tasks.dlq`, or die before any of them, and then its message is delivered again.
The worker of `orders.events` holds its message while it conducts the decision point the message opened.
-/

namespace OrchLab

/-- How a process goes on after its commit: all effects, or the first ones and then an error or its end. -/
inductive Ending where
  | done
  | raised (performed : ℕ)
  | died (performed : ℕ)
deriving DecidableEq, Repr

/-- What is performed of the effects. -/
def Ending.performed {α : Type} : Ending → List α → List α
  | .done, effects => effects
  | .raised count, effects | .died count, effects => effects.take count

/-- A request on the route it was published to. -/
structure RoutedRequest where
  envelope : MessageEnvelope
  route : Target
deriving DecidableEq, Repr

/-- What an effect puts into a route's queue. -/
def Effect.routed? : Effect → Option RoutedRequest
  | .publish envelope route => some ⟨envelope, route⟩
  | _ => none

/-- The dead letter a rejected message of `orders.events` becomes. -/
def OrdersMessage.deadLetter : OrdersMessage → DeadLetter
  | .inventoryEvent event => ⟨some "orders.handle_inventory_event", some event.taskId, some event.messageId,
      some event.eventType, some "orders.events", some "rejected"⟩
  | .timeoutCheck task _ =>
    ⟨some "orders.timeout_check", some task, none, none, some "orders.events", some "rejected"⟩
  | .dispatchAttempt task _ =>
    ⟨some "orders.dispatch_attempt", some task, none, none, some "orders.events", some "rejected"⟩
  | .reevaluate task _ =>
    ⟨some "orders.reevaluate", some task, none, none, some "orders.events", some "rejected"⟩

/-- The dead letter a rejected request becomes. -/
def RoutedRequest.deadLetter (request : RoutedRequest) : DeadLetter :=
  ⟨some "inventory.reserve_stock", some request.envelope.taskId, some request.envelope.messageId,
    some request.envelope.eventType, some request.route.value, some "rejected"⟩

/-- A route's process between its commit and the publication of the reply. -/
structure Answer where
  request : RoutedRequest
  reply : MessageEnvelope
deriving DecidableEq, Repr

structure System where
  service : OrdersService
  inventory : InventoryDb
  events : List OrdersMessage
  holding : Option OrdersMessage
  requests : List RoutedRequest
  answering : Target → Option Answer
  deadLetters : List DeadLetter

inductive SystemLabel where
  | createOrder (request : CreateOrderRequest) (now : Timestamp)
  | consume (message : OrdersMessage) (redelivered : Bool) (draw : Draw) (ending : Ending)
  | build (owner : DecisionOwner) (seen : Observation)
  | decide (owner : DecisionOwner) (output : EngineOutput) (decisionId : DecisionId) (draw : Draw)
      (ending : Ending)
  | stop (owner : DecisionOwner) (ending : Ending)
  | deadLetter (letter : DeadLetter) (now : Timestamp)
  | repeatEvent (message : OrdersMessage)
  | repeatRequest (request : RoutedRequest)
  | reserve (request : RoutedRequest) (draw : Draw) (injected : Option FailureReason)
  | answer (route : Target) (ending : Ending)

namespace System

def initial (stock : List String) : System :=
  ⟨.initial, .initial stock, [], none, [], fun _ => none, []⟩

/-- Perform effects: publish requests and schedule internal messages. -/
def emit (s : System) (effects : List Effect) : System :=
  { s with
    events := s.events ++ effects.filterMap Effect.message?
    requests := s.requests ++ effects.filterMap Effect.routed? }

/-- The message is acknowledged, rejected to `tasks.dlq`, or left to be delivered again. -/
def finish (s : System) (message : OrdersMessage) : Ending → System
  | .done => s
  | .raised _ => { s with deadLetters := s.deadLetters ++ [message.deadLetter] }
  | .died _ => { s with events := s.events ++ [message] }

/-- The end of a decision point; the worker lets go of the message that opened it. -/
def leave (s : System) (owner : DecisionOwner) (ending : Ending) : System :=
  match owner, s.holding with
  | .worker, some message => { s with holding := none }.finish message ending
  | _, _ => s

/-- The worker takes a message: an error rejects it, a decision point holds it. -/
def consume (deployment : Deployment) (s : System) (message : OrdersMessage) (redelivered : Bool)
    (draw : Draw) (ending : Ending) : System :=
  let taken := { s with
    service := s.service.consume deployment message redelivered draw, events := s.events.erase message }
  match s.service.db.handle deployment.config message redelivered draw with
  | .error _ => taken.finish message (.raised 0)
  | .ok handled =>
    if handled.decisionRequired then { taken with holding := some message }
    else (taken.emit (ending.performed handled.effects)).finish message ending

/-- The snapshot; an error ends the decision point. -/
def build (deployment : Deployment) (s : System) (owner : DecisionOwner) (task : TaskId)
    (seen : Observation) : System :=
  let next := { s with service := s.service.build deployment owner task seen }
  match s.service.db.build deployment.config task seen with
  | .error _ => next.leave owner (.raised 0)
  | .ok _ => next

/-- The decision and its effects; an error ends the decision point. -/
def decide (deployment : Deployment) (s : System) (owner : DecisionOwner) (state : SystemState)
    (output : EngineOutput) (decisionId : DecisionId) (draw : Draw) (ending : Ending) : System :=
  let next := { s with service := s.service.decide deployment owner state output decisionId draw }
  match deployment.validator.decision? state output with
  | none => next.leave owner (.raised 0)
  | some decision =>
    match s.service.db.execute deployment.config state.taskId decisionId draw decision with
    | .error _ => next.leave owner (.raised 0)
    | .ok (_, _, effects) => (next.emit (ending.performed effects)).leave owner ending

/-- A process of the inventory takes a request; an error rejects it. -/
def reserve (s : System) (request : RoutedRequest) (draw : Draw) (injected : Option FailureReason) :
    System :=
  match s.inventory.processReservationRequest request.envelope draw injected with
  | .error _ =>
    { s with requests := s.requests.erase request, deadLetters := s.deadLetters ++ [request.deadLetter] }
  | .ok (inventory, _, reply) =>
    { s with inventory, answering := Function.update s.answering request.route (some ⟨request, reply⟩) }

/-- The reply is published, and the request acknowledged, rejected, or left to be delivered again. -/
def publish (s : System) (answer : Answer) (ending : Ending) : System :=
  let free := { s with
    events := s.events ++ ending.performed [.inventoryEvent answer.reply]
    answering := Function.update s.answering answer.request.route none }
  match ending with
  | .done => { free with requests := s.requests.erase answer.request }
  | .raised _ =>
    { free with
      requests := s.requests.erase answer.request, deadLetters := s.deadLetters ++ [answer.request.deadLetter] }
  | .died _ => free

def step (deployment : Deployment) (s : System) : SystemLabel → Option System
  | .createOrder request now => some { s with service := s.service.createOrder deployment request now }
  | .consume message redelivered draw ending =>
    if s.service.points .worker = .closed ∧ message ∈ s.events then
      some (s.consume deployment message redelivered draw ending)
    else none
  | .build owner seen =>
    match s.service.points owner with
    | .opened task => some (s.build deployment owner task seen)
    | _ => none
  | .decide owner output decisionId draw ending =>
    match s.service.points owner with
    | .built state => some (s.decide deployment owner state output decisionId draw ending)
    | _ => none
  | .stop owner ending =>
    if s.service.points owner = .closed ∨ ending = .done then none
    else some ({ s with service := s.service.setPoint owner .closed }.leave owner ending)
  | .deadLetter letter now =>
    if letter ∈ s.deadLetters then
      some { s with service := s.service.deadLetter letter now, deadLetters := s.deadLetters.erase letter }
    else none
  | .repeatEvent message => if message ∈ s.events then some { s with events := s.events ++ [message] } else none
  | .repeatRequest request =>
    if request ∈ s.requests then some { s with requests := s.requests ++ [request] } else none
  | .reserve request draw injected =>
    if request ∈ s.requests ∧ s.answering request.route = none then some (s.reserve request draw injected)
    else none
  | .answer route ending => (s.answering route).map fun answer => s.publish answer ending

/-- The answers the inventory has stored. -/
def responses (s : System) : List MessageEnvelope := s.inventory.processedMessages.rows.map (·.response)

/-- A message identifier that nothing in the system carries. -/
def freshMessage (s : System) (message : MessageId) : Prop :=
  s.service.freshMessage message ∧ ∀ response ∈ s.responses, response.messageId ≠ message

instance (s : System) (message : MessageId) : Decidable (s.freshMessage message) :=
  inferInstanceAs (Decidable (_ ∧ _))

/-- `unique_id` never repeats. -/
def admissible (s : System) : SystemLabel → Prop
  | .consume _ _ draw _ => s.freshMessage draw.messageId
  | .decide _ _ decisionId draw _ =>
    (∀ execution ∈ s.service.executed, execution.decisionId ≠ decisionId) ∧ s.freshMessage draw.messageId
  | .reserve _ draw _ => s.freshMessage draw.messageId
  | _ => True

instance (s : System) : ∀ label, Decidable (s.admissible label)
  | .consume .. => inferInstanceAs (Decidable (System.freshMessage _ _))
  | .decide .. => inferInstanceAs (Decidable (_ ∧ _))
  | .reserve .. => inferInstanceAs (Decidable (System.freshMessage _ _))
  | .createOrder .. => inferInstanceAs (Decidable True)
  | .build .. => inferInstanceAs (Decidable True)
  | .stop .. => inferInstanceAs (Decidable True)
  | .deadLetter .. => inferInstanceAs (Decidable True)
  | .repeatEvent _ => inferInstanceAs (Decidable True)
  | .repeatRequest _ => inferInstanceAs (Decidable True)
  | .answer .. => inferInstanceAs (Decidable True)

end System

/-- Both services as deployed, with the catalog of the inventory. -/
def systemMachine (deployment : Deployment) (stock : List String) : Machine System SystemLabel where
  initial := .initial stock
  step := System.step deployment
  admissible := System.admissible

instance (deployment : Deployment) (stock : List String) (s : System) (label : SystemLabel) :
    Decidable ((systemMachine deployment stock).admissible s label) :=
  inferInstanceAs (Decidable (s.admissible label))

/-! ## The shortest history -/

/-- The request of the first dispatch, on its route. -/
def firstRequest : RoutedRequest where
  envelope := firstReply 10 (.requested ⟨1, CreateOrderRequest.single.items⟩)
  route := .inventoryPrimary

/-- An order is placed and its first decision dispatches it. -/
def firstDispatchOfSystem : List SystemLabel :=
  [.createOrder .single 0, .build (.api 1) (.calm 1 1),
    .decide (.api 1) (.proposing .continueFlow (some .inventoryPrimary) .normalFlow) 1 ⟨10, 3⟩ .done]

end OrchLab
