import OrchLab.Model.Shared.Decision
import OrchLab.Model.Shared.Json

/-! # The message contract

`shared/envelope.py`: a message as the broker carries it, and what a consumer makes of it. The payload is a
dictionary until the model of its event type has read it. The identifiers and the time of the envelope are
carried as the values whose printed form matches the pattern of the field; the order of a payload is read from
its text.
-/

namespace OrchLab

/-! ## Literals -/

def EventType.value : EventType → String
  | .orderCreated => "ORDER_CREATED"
  | .taskCreated => "TASK_CREATED"
  | .stockReservationRequested => "STOCK_RESERVATION_REQUESTED"
  | .stockReservationSucceeded => "STOCK_RESERVATION_SUCCEEDED"
  | .stockReservationFailed => "STOCK_RESERVATION_FAILED"
  | .inventoryTimeout => "INVENTORY_TIMEOUT"
  | .transientError => "TRANSIENT_ERROR"
  | .waitScheduled => "WAIT_SCHEDULED"
  | .waitFinished => "WAIT_FINISHED"
  | .retryScheduled => "RETRY_SCHEDULED"
  | .fallbackScheduled => "FALLBACK_SCHEDULED"
  | .taskCompleted => "TASK_COMPLETED"
  | .taskAborted => "TASK_ABORTED"
  | .messageDeadLettered => "MESSAGE_DEAD_LETTERED"

/-- Reading an `EventType`. -/
def EventType.ofValue? (text : String) : Option EventType :=
  [orderCreated, taskCreated, stockReservationRequested, stockReservationSucceeded, stockReservationFailed,
    inventoryTimeout, transientError, waitScheduled, waitFinished, retryScheduled, fallbackScheduled,
    taskCompleted, taskAborted, messageDeadLettered].find? fun type => type.value = text

@[simp] theorem EventType.ofValue?_value (type : EventType) : EventType.ofValue? type.value = some type := by
  cases type <;> rfl

def ReservationRoute.value : ReservationRoute → String
  | .primary => "primary"
  | .fallback => "fallback"

/-- Reading the `route` literal of a reply. -/
def ReservationRoute.ofValue? (text : String) : Option ReservationRoute :=
  [primary, fallback].find? fun route => route.value = text

@[simp] theorem ReservationRoute.ofValue?_value (route : ReservationRoute) :
    ReservationRoute.ofValue? route.value = some route := by
  cases route <;> rfl

def FailureReason.value : FailureReason → String
  | .transientError => "transient_error"
  | .invalidData => "invalid_data"

/-- Reading the `failure_reason` literal of a reply. -/
def FailureReason.ofValue? (text : String) : Option FailureReason :=
  [transientError, invalidData].find? fun reason => reason.value = text

@[simp] theorem FailureReason.ofValue?_value (reason : FailureReason) :
    FailureReason.ofValue? reason.value = some reason := by
  cases reason <;> rfl

/-! ## Numbers and identifiers -/

/-- The digits of a natural number. -/
def readNatural (digits : List Char) : Option ℕ :=
  if !digits.isEmpty && digits.all Char.isDigit then some (Nat.ofDigitChars 10 digits 0) else none

/-- A number that Python reads as an `int`. -/
def NumberText.int? (number : NumberText) : Option ℤ :=
  match number.text with
  | '-' :: digits => (readNatural digits).map fun n => -(n : ℤ)
  | digits => (readNatural digits).map Int.ofNat

private theorem isDigit_of_mem_toDigits (n : ℕ) : ∀ c ∈ Nat.toDigits 10 n, c.isDigit = true :=
  fun _ member => Nat.isDigit_of_mem_toDigits (by decide) (by decide) member

/-- The text of a natural number. -/
def NumberText.ofNat (n : ℕ) : NumberText where
  text := Nat.toDigits 10 n
  nonempty := Nat.toDigits_ne_nil
  plain c member := by
    simp only [isNumberChar, Char.isAlphanum, isDigit_of_mem_toDigits n c member, Bool.or_true, Bool.true_or]

theorem readNatural_toDigits (n : ℕ) : readNatural (Nat.toDigits 10 n) = some n := by
  have digits : (Nat.toDigits 10 n).all Char.isDigit = true := List.all_eq_true.mpr (isDigit_of_mem_toDigits n)
  simp [readNatural, digits, Nat.toDigits_ne_nil]

@[simp] theorem NumberText.int?_ofNat (n : ℕ) : (NumberText.ofNat n).int? = some (n : ℤ) := by
  have head : ∀ digits, Nat.toDigits 10 n ≠ '-' :: digits := by
    intro digits same
    have digit := isDigit_of_mem_toDigits n '-' (by rw [same]; exact List.mem_cons_self ..)
    cases digit
  rw [NumberText.int?, NumberText.ofNat]
  split
  · next digits same => exact absurd same (head digits)
  · rw [readNatural_toDigits]
    rfl

/-- `^ORD_[A-Za-z0-9]+$`, read as the number that `sequential_id` has printed. -/
def readOrderId? (text : String) : Option OrderId :=
  match text.toList with
  | 'O' :: 'R' :: 'D' :: '_' :: name =>
    if !name.isEmpty && name.all Char.isAlphanum then some (Nat.ofDigitChars 10 name 0) else none
  | _ => none

theorem readOrderId?_sequentialId (order : OrderId) : readOrderId? (sequentialId "ORD" order) = some order := by
  have text : (sequentialId "ORD" order).toList = 'O' :: 'R' :: 'D' :: '_' ::
      (List.replicate (6 - (toString order).length) '0' ++ Nat.toDigits 10 order) := by
    simp [sequentialId, Nat.toString_eq_repr, Nat.toList_repr]
  have plain : (List.replicate (6 - (toString order).length) '0' ++ Nat.toDigits 10 order).all
      Char.isAlphanum = true := by
    refine List.all_eq_true.mpr fun c member => ?_
    rcases List.mem_append.mp member with zero | digit
    · rw [(List.mem_replicate.mp zero).2]
      rfl
    · rw [Char.isAlphanum, isDigit_of_mem_toDigits order c digit, Bool.or_true]
  rw [readOrderId?, text]
  simp only [plain, Bool.and_true]
  rw [if_pos (by simp [Nat.toDigits_ne_nil]), Nat.ofDigitChars_append, Nat.ofDigitChars_replicate_zero,
    Nat.mul_zero, Nat.ofDigitChars_ten_toDigits]

/-! ## The models of the payloads -/

/-- The value of a key. -/
def field? (fields : List (String × Json)) (key : String) : Option Json :=
  (fields.find? fun field => field.1 = key).map Prod.snd

@[simp] theorem field?_nil (key : String) : field? [] key = none := rfl

@[simp] theorem field?_cons (name key : String) (value : Json) (rest : List (String × Json)) :
    field? ((name, value) :: rest) key = if name = key then some value else field? rest key := by
  rw [field?, List.find?_cons]
  split_ifs with same <;> simp [same, field?]

/-- `extra="forbid"`. -/
def noOther (keys : List String) (fields : List (String × Json)) : Bool :=
  fields.all fun field => field.1 ∈ keys

/-- A `StrictStr`. -/
def Json.text? : Json → Option String
  | .string value => some value
  | _ => none

/-- A `StrictInt`. -/
def Json.int? : Json → Option ℤ
  | .number value => value.int?
  | _ => none

/-- `OrderItemPayload`. -/
def OrderItem.modelValidate? : Json → Option OrderItem
  | .object fields =>
    match (field? fields "sku").bind Json.text?, (field? fields "quantity").bind Json.int? with
    | some sku, some quantity =>
      if noOther ["sku", "quantity"] fields && sku ≠ "" && 0 < quantity then some ⟨sku, quantity.toNat⟩ else none
    | _, _ => none
  | _ => none

/-- `ReservationRequestPayload`. -/
def ReservationRequestPayload.modelValidate? (fields : List (String × Json)) : Option ReservationRequestPayload :=
  match ((field? fields "order_id").bind Json.text?).bind readOrderId?, field? fields "items" with
  | some orderId, some (.array items) =>
    if noOther ["order_id", "items"] fields && !items.isEmpty then
      (items.mapM OrderItem.modelValidate?).map fun items => ⟨orderId, items⟩
    else none
  | _, _ => none

/-- `ReservationResultPayload`. -/
def ReservationResultPayload.modelValidate? (fields : List (String × Json)) : Option ReservationResultPayload :=
  match ((field? fields "order_id").bind Json.text?).bind readOrderId?,
    ((field? fields "route").bind Json.text?).bind ReservationRoute.ofValue? with
  | some orderId, some route => if noOther ["order_id", "route"] fields then some ⟨orderId, route⟩ else none
  | _, _ => none

/-- `ReservationFailedPayload`. -/
def ReservationFailedPayload.modelValidate? (fields : List (String × Json)) : Option ReservationFailedPayload :=
  match ((field? fields "order_id").bind Json.text?).bind readOrderId?,
    ((field? fields "route").bind Json.text?).bind ReservationRoute.ofValue?,
    ((field? fields "failure_reason").bind Json.text?).bind FailureReason.ofValue? with
  | some orderId, some route, some reason =>
    if noOther ["order_id", "route", "failure_reason"] fields then some ⟨orderId, route, reason⟩ else none
  | _, _, _ => none

/-- `PAYLOAD_MODELS`. -/
def payloadModel? : EventType → Option (List (String × Json) → Option MessagePayload)
  | .stockReservationRequested =>
    some fun fields => (ReservationRequestPayload.modelValidate? fields).map .requested
  | .stockReservationSucceeded =>
    some fun fields => (ReservationResultPayload.modelValidate? fields).map .succeeded
  | .stockReservationFailed =>
    some fun fields => (ReservationFailedPayload.modelValidate? fields).map .failed
  | _ => none

/-! ## Messages -/

/-- A message as the broker carries it. -/
structure RawEnvelope where
  schemaVersion : String
  executionId : String
  messageId : MessageId
  taskId : TaskId
  eventType : String
  eventSeq : ℤ
  attemptNumber : ℤ
  publishedAt : Timestamp
  decisionId : Option DecisionId
  target : Option String
  payload : List (String × Json)

inductive ContractViolation where
  | invalidEnvelope
  | unexpectedEventType (type : EventType)
  | noPayloadContract (type : EventType)
  | invalidPayload (type : EventType)
deriving DecidableEq, Repr

/-- `ACCEPTED_EVENTS` of the orders-service. -/
def acceptedEvents : List EventType := [.stockReservationSucceeded, .stockReservationFailed]

/-- `SCHEMA_VERSION`. -/
def schemaVersion : String := "1.0"

/-- `_validate_payload`. -/
def validatePayload (type : EventType) (payload : List (String × Json)) :
    Except ContractViolation MessagePayload :=
  match payloadModel? type with
  | none => .error (.noPayloadContract type)
  | some model => (model payload).elim (.error (.invalidPayload type)) .ok

/-- `parse_message`. -/
def parseMessage (raw : RawEnvelope) (accepted : List EventType) : Except ContractViolation MessageEnvelope :=
  match EventType.ofValue? raw.eventType, Target.readOptional? raw.target with
  | some type, some target =>
    if raw.schemaVersion = schemaVersion && isExecutionId raw.executionId && 1 ≤ raw.eventSeq &&
        1 ≤ raw.attemptNumber then
      if type ∈ accepted then
        (validatePayload type raw.payload).map fun payload =>
          { executionId := raw.executionId
            messageId := raw.messageId
            taskId := raw.taskId
            eventSeq := raw.eventSeq.toNat
            attemptNumber := raw.attemptNumber.toNat
            publishedAt := raw.publishedAt
            decisionId := raw.decisionId
            target
            payload }
      else .error (.unexpectedEventType type)
    else .error .invalidEnvelope
  | _, _ => .error .invalidEnvelope

/-! ## Dumping -/

def OrderItem.modelDump (item : OrderItem) : Json :=
  .object [("quantity", .number (.ofNat item.quantity)), ("sku", .string item.sku)]

/-- The constraints of the fields of a payload. -/
def MessagePayload.valid : MessagePayload → Bool
  | .requested payload => payload.valid
  | _ => true

/-- The dictionary a payload is built from. -/
def MessagePayload.modelDump : MessagePayload → List (String × Json)
  | .requested payload => [("order_id", .string (sequentialId "ORD" payload.orderId)),
      ("items", .array (payload.items.map OrderItem.modelDump))]
  | .succeeded payload => [("order_id", .string (sequentialId "ORD" payload.orderId)),
      ("route", .string payload.route.value)]
  | .failed payload => [("order_id", .string (sequentialId "ORD" payload.orderId)),
      ("route", .string payload.route.value), ("failure_reason", .string payload.failureReason.value)]

/-- `model_dump(mode="json")` of an envelope. -/
def MessageEnvelope.modelDump (message : MessageEnvelope) : RawEnvelope where
  schemaVersion
  executionId := message.executionId
  messageId := message.messageId
  taskId := message.taskId
  eventType := message.eventType.value
  eventSeq := message.eventSeq
  attemptNumber := message.attemptNumber
  publishedAt := message.publishedAt
  decisionId := message.decisionId
  target := message.target.map Target.value
  payload := message.payload.modelDump

/-! ## Reading what was dumped -/

theorem OrderItem.modelValidate?_modelDump (item : OrderItem) :
    OrderItem.modelValidate? item.modelDump = if item.valid then some item else none := by
  simp [OrderItem.modelValidate?, OrderItem.modelDump, field?, noOther, Json.text?, Json.int?, OrderItem.valid]

/-- The validator of items reads a list back exactly when each of its items is valid. -/
theorem mapM_modelValidate? (items : List OrderItem) :
    (items.map OrderItem.modelDump).mapM OrderItem.modelValidate? =
      if items.all OrderItem.valid then some items else none := by
  induction items with
  | nil => rfl
  | cons item rest ih =>
    rw [List.map_cons, List.mapM_cons, OrderItem.modelValidate?_modelDump, ih, List.all_cons]
    cases item.valid <;> cases rest.all OrderItem.valid <;> rfl

/-- The model of a request reads it back exactly when it keeps the constraints of its fields. -/
theorem ReservationRequestPayload.modelValidate?_modelDump (payload : ReservationRequestPayload) :
    ReservationRequestPayload.modelValidate? (MessagePayload.requested payload).modelDump =
      if payload.valid then some payload else none := by
  have items := mapM_modelValidate? payload.items
  simp only [ReservationRequestPayload.modelValidate?, MessagePayload.modelDump, field?_cons, Json.text?, noOther,
    Option.bind_some, readOrderId?_sequentialId, String.reduceEq, ↓reduceIte, items, List.all_cons, List.all_nil,
    List.mem_cons, true_or, or_true, decide_true, Bool.and_true, Bool.true_and, List.isEmpty_map]
  rw [ReservationRequestPayload.valid]
  cases payload.items.isEmpty <;> cases payload.items.all OrderItem.valid <;> rfl

/-- The payload of a message is read back exactly when it keeps the constraints of its fields. -/
theorem validatePayload_modelDump (payload : MessagePayload) :
    validatePayload payload.eventType payload.modelDump =
      if payload.valid then .ok payload else .error (.invalidPayload payload.eventType) := by
  cases payload with
  | requested payload =>
    rw [validatePayload, MessagePayload.eventType, payloadModel?, MessagePayload.valid]
    simp only [ReservationRequestPayload.modelValidate?_modelDump]
    split_ifs <;> rfl
  | succeeded payload =>
    simp [validatePayload, payloadModel?, MessagePayload.eventType, MessagePayload.modelDump, noOther,
      MessagePayload.valid, ReservationResultPayload.modelValidate?, Json.text?, readOrderId?_sequentialId]
  | failed payload =>
    simp [validatePayload, payloadModel?, MessagePayload.eventType, MessagePayload.modelDump, noOther,
      MessagePayload.valid, ReservationFailedPayload.modelValidate?, Json.text?, readOrderId?_sequentialId]

theorem MessageEnvelope.valid_eq (message : MessageEnvelope) :
    message.valid = (isExecutionId message.executionId && decide (1 ≤ message.eventSeq) &&
      decide (1 ≤ message.attemptNumber) && message.payload.valid) := by
  rw [MessageEnvelope.valid]
  cases message.payload <;> rfl

/-- A consumer reads a dumped envelope back exactly when `build_envelope` lets it pass and its type is accepted. -/
theorem parseMessage_modelDump {message : MessageEnvelope} {accepted : List EventType} :
    parseMessage message.modelDump accepted = .ok message ↔
      message.valid = true ∧ message.eventType ∈ accepted := by
  have type : EventType.ofValue? message.modelDump.eventType = some message.eventType := EventType.ofValue?_value _
  have target : Target.readOptional? message.modelDump.target = some message.target := by
    rw [MessageEnvelope.modelDump]
    cases message.target <;> simp [Target.readOptional?]
  have positive : ∀ n : ℕ, decide (1 ≤ (n : ℤ)) = decide (1 ≤ n) := by
    intro n
    rw [decide_eq_decide]
    omega
  have fields : (decide (message.modelDump.schemaVersion = schemaVersion) &&
      isExecutionId message.modelDump.executionId && decide (1 ≤ message.modelDump.eventSeq) &&
        decide (1 ≤ message.modelDump.attemptNumber)) = (isExecutionId message.executionId &&
          decide (1 ≤ message.eventSeq) && decide (1 ≤ message.attemptNumber)) := by
    rw [← positive, ← positive]
    rfl
  have payload : validatePayload message.eventType message.modelDump.payload = _ :=
    validatePayload_modelDump message.payload
  rw [parseMessage, message.valid_eq]
  simp only [type, target, fields, payload]
  by_cases checked : (isExecutionId message.executionId && decide (1 ≤ message.eventSeq) &&
      decide (1 ≤ message.attemptNumber)) = true
  · rw [if_pos checked, checked, Bool.true_and]
    by_cases accepts : message.eventType ∈ accepted
    · rw [if_pos accepts]
      cases message.payload.valid
      · simp [Except.map]
      · simp only [↓reduceIte, Except.map, accepts, and_self, iff_true]
        rfl
    · simp [accepts]
  · rw [if_neg checked, Bool.and_eq_true]
    simp [checked]

end OrchLab
