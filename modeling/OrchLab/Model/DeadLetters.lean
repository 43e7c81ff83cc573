import OrchLab.Model.Shared.Envelope
import OrchLab.Model.Scripts.Traceability
import OrchLab.Model.System

/-! # Messages on the wire and in `tasks.dlq`

The Celery messages the two services send (`messaging/publisher.py`, `orchestration/scheduler.py`), and what
`DeadLetter.from_celery_message` of `orchestration/dead_letters.py` makes of any message in `tasks.dlq`. A body
is the JSON value Celery has decoded; of the values a header may have beside JSON none is read.
-/

namespace OrchLab

/-! ## Reading a dead letter -/

/-- The truth value of a JSON value in Python. -/
def Json.truthy : Json → Bool
  | .null => false
  | .bool value => value
  | .number value => value.text ∉ [['0'], ['0', '.', '0'], ['-', '0', '.', '0']]
  | .string value => value ≠ ""
  | .array items => !items.isEmpty
  | .object fields => !fields.isEmpty

/-- `first or second`. -/
def orElse (first second : Option Json) : Option Json :=
  match first.filter Json.truthy with
  | some value => some value
  | none => second

/-- `_args_and_kwargs`. -/
def argsAndKwargs : Json → List Json × List (String × Json)
  | .array (args :: kwargs :: _) =>
    (match args with | .array items => items | _ => [], match kwargs with | .object fields => fields | _ => [])
  | _ => ([], [])

/-- `deaths[0]` as a dictionary; Python raises where a header is there and is no list of dictionaries. -/
def firstDeath? (headers : List (String × Json)) : Option (List (String × Json)) :=
  match (field? headers "x-death").filter Json.truthy with
  | none => some []
  | some (.array (.object death :: _)) => some death
  | some _ => none

/-- `DeadLetter` with the texts a message carries. -/
structure RawDeadLetter where
  taskName : Option Json
  taskId : Option String
  messageId : Option String
  eventType : Option String
  originQueue : Option String
  reason : Option String

/-- `DeadLetter.from_celery_message`. -/
def RawDeadLetter.fromCeleryMessage (body : Json) (headers : Option (List (String × Json))) : Option RawDeadLetter :=
  let headers := headers.getD []
  let (args, kwargs) := argsAndKwargs body
  let envelope := match args with | .object fields :: _ => fields | _ => []
  (firstDeath? headers).map fun death =>
    { taskName := field? headers "task"
      taskId := (orElse (field? envelope "task_id") (field? kwargs "task_id")).bind Json.text?
      messageId := (field? envelope "message_id").bind Json.text?
      eventType := (field? envelope "event_type").bind Json.text?
      originQueue := (field? death "queue").bind Json.text?
      reason := (field? death "reason").bind Json.text? }

/-- The texts of a dead letter. -/
def DeadLetter.printed (letter : DeadLetter) : RawDeadLetter where
  taskName := letter.taskName.map .string
  taskId := letter.taskId.map (sequentialId "TASK")
  messageId := letter.messageId.map (uniqueId "MSG")
  eventType := letter.eventType.map EventType.value
  originQueue := letter.originQueue
  reason := letter.reason

/-! ## What the services send -/

/-- `send_task(task, args, kwargs, queue=...)`. -/
structure CeleryMessage where
  task : String
  args : List Json
  kwargs : List (String × Json)
  queue : String

/-- The body of protocol 2. -/
def CeleryMessage.body (message : CeleryMessage) (embed : Json) : Json :=
  .array [.array message.args, .object message.kwargs, embed]

/-- The headers once the broker has moved a rejected message: the last death comes first. -/
structure CeleryMessage.Rejected (message : CeleryMessage) (headers : List (String × Json)) : Prop where
  task : field? headers "task" = some (.string message.task)
  death : ∃ death earlier, field? headers "x-death" = some (.array (.object death :: earlier)) ∧
    field? death "queue" = some (.string message.queue) ∧ field? death "reason" = some (.string "rejected")

section

variable (toIso : Timestamp → String)

/-- The dictionary `build_envelope` returns. -/
def RawEnvelope.json (raw : RawEnvelope) : Json :=
  .object [("schema_version", .string raw.schemaVersion), ("execution_id", .string raw.executionId),
    ("message_id", .string (uniqueId "MSG" raw.messageId)), ("task_id", .string (sequentialId "TASK" raw.taskId)),
    ("event_type", .string raw.eventType), ("event_seq", .number (.ofNat raw.eventSeq.toNat)),
    ("attempt_number", .number (.ofNat raw.attemptNumber.toNat)), ("published_at", .string (toIso raw.publishedAt)),
    ("decision_id", raw.decisionId.elim .null fun decision => .string (uniqueId "DEC" decision)),
    ("target", raw.target.elim .null .string), ("payload", .object raw.payload)]

/-- What `CeleryEventPublisher` and `CeleryTaskScheduler` send to `orders.events`. -/
def OrdersMessage.celery : OrdersMessage → CeleryMessage
  | .inventoryEvent event => ⟨"orders.handle_inventory_event", [event.modelDump.json toIso], [], "orders.events"⟩
  | .timeoutCheck task request => ⟨"orders.timeout_check", [],
      [("task_id", .string (sequentialId "TASK" task)), ("request_message_id", .string (uniqueId "MSG" request))],
      "orders.events"⟩
  | .dispatchAttempt task decision => ⟨"orders.dispatch_attempt", [],
      [("task_id", .string (sequentialId "TASK" task)), ("decision_id", .string (uniqueId "DEC" decision))],
      "orders.events"⟩
  | .reevaluate task waitCount => ⟨"orders.reevaluate", [],
      [("task_id", .string (sequentialId "TASK" task)), ("wait_count", .number (.ofNat waitCount))],
      "orders.events"⟩

/-- What `CeleryCommandPublisher` sends to a route. -/
def RoutedRequest.celery (request : RoutedRequest) : CeleryMessage :=
  ⟨"inventory.reserve_stock", [request.envelope.modelDump.json toIso], [], request.route.value⟩

end

/-- A message of either service. -/
inductive BrokerMessage where
  | toOrders (message : OrdersMessage)
  | toInventory (request : RoutedRequest)

namespace BrokerMessage

def taskId : BrokerMessage → TaskId
  | .toOrders message => message.taskId
  | .toInventory request => request.envelope.taskId

/-- The dead letter a rejected message becomes. -/
def deadLetter : BrokerMessage → DeadLetter
  | .toOrders message => message.deadLetter
  | .toInventory request => request.deadLetter

def celery (toIso : Timestamp → String) : BrokerMessage → CeleryMessage
  | .toOrders message => message.celery toIso
  | .toInventory request => request.celery toIso

end BrokerMessage

end OrchLab
