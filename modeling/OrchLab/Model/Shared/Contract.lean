import Mathlib.Data.Nat.Notation
import Mathlib.Data.Int.Notation
import Mathlib.Tactic.SplitIfs

/-! # The contracts the two services share

Task states, results and events (`shared/task.py`, `shared/events.py`), the message envelope and
its payload per event type (`shared/envelope.py`), and the part of the experiment configuration
that decides behaviour (`shared/config.py`).

Identifiers are natural numbers. A task and its order carry the number that `sequential_id` prints
as `TASK_000001` and `ORD_000001`; messages, decisions and states carry the unique value that
`unique_id` prints after its prefix. Both printed forms match the envelope's patterns by
construction, so only the execution identifier, which the environment supplies as text, is checked.
-/

namespace OrchLab

abbrev TaskId := ℕ
abbrev OrderId := ℕ
abbrev MessageId := ℕ
abbrev DecisionId := ℕ
abbrev StateId := ℕ

/-- `sequential_id`: the number padded with zeros to six digits. -/
def sequentialId (tag : String) (number : ℕ) : String :=
  let digits := toString number
  tag ++ "_" ++ String.ofList (List.replicate (6 - digits.length) '0') ++ digits

/-- Milliseconds since the epoch: `to_iso` keeps three decimals. -/
abbrev Timestamp := ℤ

/-! ## Task states and results -/

inductive TaskStatus where
  | pending | dispatched | processing | waiting | retrying | fallbackProcessing
  | completed | aborted | deadLettered
deriving DecidableEq, Repr

/-- Membership in `TERMINAL_TASK_STATUSES`. -/
def TaskStatus.terminal : TaskStatus → Bool
  | .completed | .aborted | .deadLettered => true
  | _ => false

/-- Values of `service.last_result` and `tasks.last_result`. -/
inductive TaskResult where
  | ok | timeout | transientError | invalidData | fallbackFailed
deriving DecidableEq, Repr

inductive OrderStatus where
  | pending | completed | failed
deriving DecidableEq, Repr

/-- `order_status_for`: the order a task status stands for (docs/05 §5.4). -/
def orderStatusFor : TaskStatus → OrderStatus
  | .completed => .completed
  | .aborted | .deadLettered => .failed
  | _ => .pending

/-! ## Routes and events -/

/-- The two logical routes of the inventory-service that a message may name as its target. -/
inductive Target where
  | inventoryPrimary | inventoryFallback
deriving DecidableEq, Repr

def Target.value : Target → String
  | .inventoryPrimary => "inventory.primary"
  | .inventoryFallback => "inventory.fallback"

/-- Reading a `Target` literal. -/
def Target.ofValue? (text : String) : Option Target :=
  if text = "inventory.primary" then some .inventoryPrimary
  else if text = "inventory.fallback" then some .inventoryFallback
  else none

@[simp] theorem Target.ofValue?_value (target : Target) : Target.ofValue? target.value = some target := by
  cases target <;> rfl

theorem Target.ofValue?_eq_some_iff {text : String} {target : Target} :
    Target.ofValue? text = some target ↔ text = target.value := by
  constructor
  · intro read
    simp only [Target.ofValue?] at read
    split_ifs at read with primary fallback
    · cases read; exact primary
    · cases read; exact fallback
  · rintro rfl
    exact ofValue?_value target

/-- Reading an optional target text: a known route, or the failure of its `Literal`. -/
def Target.readOptional? : Option String → Option (Option Target)
  | none => some none
  | some text => (Target.ofValue? text).map some

inductive EventType where
  | orderCreated | taskCreated | stockReservationRequested | stockReservationSucceeded
  | stockReservationFailed | inventoryTimeout | transientError | waitScheduled | waitFinished
  | retryScheduled | fallbackScheduled | taskCompleted | taskAborted | messageDeadLettered
deriving DecidableEq, Repr

/-- `ReservationRoute` of the inventory, also the `route` of a reply payload. -/
inductive ReservationRoute where
  | primary | fallback
deriving DecidableEq, Repr

/-- The reasons a reservation may fail with. -/
inductive FailureReason where
  | transientError | invalidData
deriving DecidableEq, Repr

/-- `TaskResult(event.payload["failure_reason"])`. -/
def FailureReason.result : FailureReason → TaskResult
  | .transientError => .transientError
  | .invalidData => .invalidData

/-! ## The message envelope -/

structure OrderItem where
  sku : String
  quantity : ℕ
deriving DecidableEq, Repr

/-- `sku` has at least one character and `quantity` is positive. -/
def OrderItem.valid (item : OrderItem) : Bool := item.sku ≠ "" && 0 < item.quantity

structure ReservationRequestPayload where
  orderId : OrderId
  items : List OrderItem
deriving DecidableEq, Repr

/-- The `Field` constraints of `ReservationRequestPayload`. -/
def ReservationRequestPayload.valid (payload : ReservationRequestPayload) : Bool :=
  !payload.items.isEmpty && payload.items.all OrderItem.valid

structure ReservationResultPayload where
  orderId : OrderId
  route : ReservationRoute
deriving DecidableEq, Repr

structure ReservationFailedPayload where
  orderId : OrderId
  route : ReservationRoute
  failureReason : FailureReason
deriving DecidableEq, Repr

/-- A payload of `PAYLOAD_MODELS`; its constructor is the envelope's event type. -/
inductive MessagePayload where
  | requested (payload : ReservationRequestPayload)
  | succeeded (payload : ReservationResultPayload)
  | failed (payload : ReservationFailedPayload)
deriving DecidableEq, Repr

def MessagePayload.eventType : MessagePayload → EventType
  | .requested _ => .stockReservationRequested
  | .succeeded _ => .stockReservationSucceeded
  | .failed _ => .stockReservationFailed

structure MessageEnvelope where
  executionId : String
  messageId : MessageId
  taskId : TaskId
  eventSeq : ℕ
  attemptNumber : ℕ
  publishedAt : Timestamp
  decisionId : Option DecisionId
  target : Option Target
  payload : MessagePayload
deriving DecidableEq, Repr

def MessageEnvelope.eventType (message : MessageEnvelope) : EventType := message.payload.eventType

/-- `^(PILOT|EXP)_[A-Za-z0-9]+$`, the pattern of `ExecutionId`. -/
def isExecutionId (text : String) : Bool :=
  match text.toList with
  | 'P' :: 'I' :: 'L' :: 'O' :: 'T' :: '_' :: name => !name.isEmpty && name.all Char.isAlphanum
  | 'E' :: 'X' :: 'P' :: '_' :: name => !name.isEmpty && name.all Char.isAlphanum
  | _ => false

/-- Everything `build_envelope` checks: the envelope's fields and its payload's. -/
def MessageEnvelope.valid (message : MessageEnvelope) : Bool :=
  isExecutionId message.executionId && 1 ≤ message.eventSeq && 1 ≤ message.attemptNumber &&
    match message.payload with
    | .requested payload => payload.valid
    | _ => true

/-! ## Configuration -/

structure MessagingSection where
  inventoryTimeoutMs : ℕ
  maxAttempts : ℕ
  retryDelayMs : ℕ
  waitDelayMs : ℕ
  maxWaits : ℕ
  fallbackMaxAttempts : ℕ
  queueHighWatermark : ℕ
  taskDeadlineMs : ℕ
  inventoryTimeoutMs_pos : 0 < inventoryTimeoutMs
  maxAttempts_pos : 0 < maxAttempts
  queueHighWatermark_pos : 0 < queueHighWatermark
  taskDeadlineMs_pos : 0 < taskDeadlineMs

structure ContextSection where
  recentEventsLimit : ℕ
  recentEventsLimit_pos : 0 < recentEventsLimit

/-- The sections of `ExperimentConfig` that the services decide by. -/
structure ExperimentConfig where
  messaging : MessagingSection
  context : ContextSection

/-- `config/experiment_config.yml`. -/
def ExperimentConfig.pilot : ExperimentConfig where
  messaging :=
    { inventoryTimeoutMs := 2000
      maxAttempts := 3
      retryDelayMs := 500
      waitDelayMs := 1000
      maxWaits := 2
      fallbackMaxAttempts := 1
      queueHighWatermark := 20
      taskDeadlineMs := 60000
      inventoryTimeoutMs_pos := by decide
      maxAttempts_pos := by decide
      queueHighWatermark_pos := by decide
      taskDeadlineMs_pos := by decide }
  context := ⟨5, by decide⟩

end OrchLab
