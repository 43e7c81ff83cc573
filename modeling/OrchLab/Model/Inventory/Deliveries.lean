import OrchLab.Machine.Run
import OrchLab.Model.Inventory.Reservation
import OrchLab.Model.Shared.Envelope
import Mathlib.Data.Rat.Defs
import Mathlib.Logic.Function.Basic

/-! # Deliveries to the inventory-service

`messaging/consumers.py`, `reservation/processing.py` and `shared/faults.py`. The worker of a route takes a
message, samples the fault that is active then, runs the transaction and publishes the reply; it may raise or
die between any two of these, and the two workers interleave by transactions.

Nothing is promised of the environment: any message comes at any time, on either route and any number of
times, and the bench opens and closes the fault as it likes. The draw of a fault, a hash of its seed, the task
and the attempt, is a parameter.
-/

namespace OrchLab

/-! ## Injected faults -/

/-- `FaultControl.type`; a delay comes with a timeout and only with a timeout. -/
inductive FaultType where
  | intermittentError
  | timeout (delayMs : ℕ) (positive : 0 < delayMs)

def FaultType.value : FaultType → String
  | .intermittentError => "intermittent_error"
  | .timeout .. => "timeout"

/-- `FaultControl`: the fault that is active on the primary route. -/
structure FaultControl where
  faultId : String
  type : FaultType
  failureProbability : ℚ
  seed : ℤ
  probable : 0 ≤ failureProbability ∧ failureProbability ≤ 1

/-- The literal of `FaultControl.target`. -/
def FaultControl.target (_ : FaultControl) : Target := .inventoryPrimary

/-- `sampled(seed, task_id, attempt_number, probability=...)`. -/
abbrev Sampling := ℤ → TaskId → ℕ → ℚ → Bool

/-- What a `FAULT_APPLIED` record tells of one application. -/
structure FaultApplied where
  faultId : String
  faultType : String
  target : Target
  taskId : TaskId
  messageId : MessageId
  eventSeq : ℕ
  attemptNumber : ℕ
  effect : String
deriving DecidableEq, Repr

/-- `_record`. -/
def FaultControl.record (fault : FaultControl) (request : MessageEnvelope) (effect : String) : FaultApplied :=
  ⟨fault.faultId, fault.type.value, fault.target, request.taskId, request.messageId, request.eventSeq,
    request.attemptNumber, effect⟩

/-- `before_reservation`: what is recorded, and the failure the route has to answer with. -/
def beforeReservation (sampled : Sampling) (fault : Option FaultControl) (request : MessageEnvelope) :
    Option FaultApplied × Option FailureReason :=
  match fault with
  | none => (none, none)
  | some fault =>
    if some fault.target ≠ request.target then (none, none)
    else if !sampled fault.seed request.taskId request.attemptNumber fault.failureProbability then (none, none)
    else match fault.type with
      | .timeout delayMs _ => (some (fault.record request ("delay_ms=" ++ toString delayMs)), none)
      | .intermittentError =>
        (some (fault.record request FailureReason.transientError.value), some .transientError)

/-! ## The workers of the routes -/

/-- Where a worker is: without a message, before the transaction, or between its commit and the publication. -/
inductive InventoryWorker where
  | idle
  | sampled (request : MessageEnvelope) (injected : Option FailureReason)
  | answered (request reply : MessageEnvelope)
deriving DecidableEq, Repr

/-- A reply that was published, with the request it answers. -/
structure Publication where
  request : MessageEnvelope
  reply : MessageEnvelope
deriving DecidableEq, Repr

structure InventoryService where
  db : InventoryDb
  fault : Option FaultControl
  workers : Target → InventoryWorker
  faultEvents : List FaultApplied
  published : List Publication

inductive InventoryLabel where
  | writeControl (control : FaultControl)
  | clearControl
  | take (route : Target) (raw : RawEnvelope)
  | process (route : Target) (draw : Draw)
  | publish (route : Target)
  | stop (route : Target)

namespace InventoryService

def initial (stock : List String) : InventoryService := ⟨.initial stock, none, fun _ => .idle, [], []⟩

variable (s : InventoryService)

def setWorker (route : Target) (worker : InventoryWorker) : InventoryService :=
  { s with workers := Function.update s.workers route worker }

/-- `reserve_stock` up to the transaction; a message outside the contract is rejected. -/
def take (sampled : Sampling) (route : Target) (raw : RawEnvelope) : InventoryService :=
  match parseMessage raw [.stockReservationRequested] with
  | .error _ => s
  | .ok request =>
    let (applied, injected) := beforeReservation sampled s.fault request
    { s with faultEvents := s.faultEvents ++ applied.toList }.setWorker route (.sampled request injected)

/-- The transaction of `process_reservation_request`; an error rolls it back and rejects the message. -/
def process (route : Target) (request : MessageEnvelope) (injected : Option FailureReason) (draw : Draw) :
    InventoryService :=
  match s.db.processReservationRequest request draw injected with
  | .error _ => s.setWorker route .idle
  | .ok (db, _, reply) => { s with db }.setWorker route (.answered request reply)

def step (sampled : Sampling) : InventoryLabel → Option InventoryService
  | .writeControl control => some { s with fault := some control }
  | .clearControl => some { s with fault := none }
  | .take route raw => if s.workers route = .idle then some (s.take sampled route raw) else none
  | .process route draw =>
    match s.workers route with
    | .sampled request injected => some (s.process route request injected draw)
    | _ => none
  | .publish route =>
    match s.workers route with
    | .answered request reply =>
      some ({ s with published := s.published ++ [Publication.mk request reply] }.setWorker route .idle)
    | _ => none
  | .stop route => if s.workers route = .idle then none else some (s.setWorker route .idle)

end InventoryService

/-- The inventory-service with a catalog, in an environment that promises nothing. -/
def inventoryMachine (sampled : Sampling) (stock : List String) : Machine InventoryService InventoryLabel where
  initial := .initial stock
  step s := s.step sampled
  admissible _ _ := True

instance (sampled : Sampling) (stock : List String) (s : InventoryService) (label : InventoryLabel) :
    Decidable ((inventoryMachine sampled stock).admissible s label) :=
  inferInstanceAs (Decidable True)

/-! ## The shortest history with a fault -/

/-- Every request of the primary route fails. -/
def FaultControl.always : FaultControl where
  faultId := "FAULT_01"
  type := .intermittentError
  failureProbability := 1
  seed := 42
  probable := by decide

/-- A request for one item, on the route of its target. -/
def requestFor (messageId : MessageId) (target : Target) : MessageEnvelope where
  executionId := "PILOT_0000"
  messageId := messageId
  taskId := 1
  eventSeq := 2
  attemptNumber := 1
  publishedAt := 2
  decisionId := some 1
  target := some target
  payload := .requested ⟨1, [⟨"SKU-001", 1⟩]⟩

/-- The primary route fails under the fault and its worker dies before the publication; the message comes again
once the fault is gone, and the other route reserves. -/
def failureThenFallback : List InventoryLabel :=
  [.writeControl .always, .take .inventoryPrimary (requestFor 10 .inventoryPrimary).modelDump,
    .process .inventoryPrimary ⟨20, 3⟩, .stop .inventoryPrimary, .clearControl,
    .take .inventoryPrimary (requestFor 10 .inventoryPrimary).modelDump, .process .inventoryPrimary ⟨21, 4⟩,
    .take .inventoryFallback (requestFor 11 .inventoryFallback).modelDump, .process .inventoryFallback ⟨22, 5⟩,
    .publish .inventoryFallback, .publish .inventoryPrimary]

end OrchLab
