import OrchLab.Model.Orders.Executor
import OrchLab.Storage.Table

/-! # The inventory-service

`services/inventory/app/db` and `reservation/service.py`: the tables of `inventory.db` and the one
transaction that answers a reservation request. A request that was answered before gets the stored
answer again; one for a task that holds a reservation gets that reservation's. What the simulator
injects is an input.
-/

namespace OrchLab

inductive ReservationStatus where
  | reserved | failed
deriving DecidableEq, Repr

/-- A row of `reservations`; `task_id` is UNIQUE. -/
structure Reservation where
  taskId : TaskId
  orderId : OrderId
  status : ReservationStatus
  route : ReservationRoute
  itemsJson : String
  createdAt : Timestamp
deriving DecidableEq, Repr

inductive ProcessingResult where
  | succeeded | failed
deriving DecidableEq, Repr

/-- A row of `processed_messages`, with the answer that `response_json` holds. -/
structure ProcessedMessage where
  messageId : MessageId
  taskId : TaskId
  eventType : EventType
  result : ProcessingResult
  response : MessageEnvelope
  processedAt : Timestamp
deriving DecidableEq, Repr

structure InventoryDb where
  stock : List String
  reservations : Table Reservation.taskId
  processedMessages : Table ProcessedMessage.messageId
deriving DecidableEq

inductive RequestOutcome where
  | reserved | duplicateMessage | alreadyReserved | invalidData | transientError
deriving DecidableEq, Repr

/-- What a request makes the inventory-service raise. -/
inductive InventoryError where
  | contractViolation | invalidEnvelope | reservationExists | messageExists
deriving DecidableEq, Repr

/-- `init_database` on a new file, with the catalog. -/
def InventoryDb.initial (stock : List String) : InventoryDb := ⟨stock, ∅, ∅⟩

/-- `_route_name`, also the route that `_reserve_by_route` reserves by. -/
def routeName (target : Option Target) : ReservationRoute :=
  if target = some .inventoryFallback then .fallback else .primary

/-- `_succeeded_event` and `_failed_event`: the request's correlation under a new identifier. -/
def replyTo (request : MessageEnvelope) (draw : Draw) (payload : MessagePayload) : MessageEnvelope :=
  { request with messageId := draw.messageId, publishedAt := draw.now, payload }

namespace InventoryDb

variable (db : InventoryDb)

/-- `find_processed_message`. -/
def findProcessedMessage (message : MessageId) : Option ProcessedMessage :=
  db.processedMessages.find? message

/-- `find_reservation`. -/
def findReservation (task : TaskId) : Option Reservation :=
  (db.reservations.find? task).filter fun row => row.status = .reserved

/-- `unknown_skus`. -/
def unknownSkus (skus : List String) : List String := skus.filter fun sku => sku ∉ db.stock

/-- `insert_reservation`; the error is the UNIQUE constraint on the task. -/
def insertReservation (task : TaskId) (order : OrderId) (route : ReservationRoute) (itemsJson : String)
    (now : Timestamp) : Except InventoryError InventoryDb :=
  match db.reservations.insert? ⟨task, order, .reserved, route, itemsJson, now⟩ with
  | none => .error .reservationExists
  | some reservations => .ok { db with reservations }

/-- `insert_processed_message`; the error is the PRIMARY KEY. -/
def insertProcessedMessage (request : MessageEnvelope) (result : ProcessingResult)
    (response : MessageEnvelope) (now : Timestamp) : Except InventoryError InventoryDb :=
  match db.processedMessages.insert?
      ⟨request.messageId, request.taskId, request.eventType, result, response, now⟩ with
  | none => .error .messageExists
  | some processedMessages => .ok { db with processedMessages }

/-- The branches of `_reserve`: the outcome, the result to store and the payload of the reply. -/
def choose (request : MessageEnvelope) (payload : ReservationRequestPayload)
    (injected : Option FailureReason) : RequestOutcome × ProcessingResult × MessagePayload :=
  match injected, db.findReservation request.taskId with
  | some reason, _ =>
    (.transientError, .failed, .failed ⟨payload.orderId, routeName request.target, reason⟩)
  | none, some existing =>
    (.alreadyReserved, .succeeded, .succeeded ⟨existing.orderId, existing.route⟩)
  | none, none =>
    if db.unknownSkus (payload.items.map OrderItem.sku) ≠ [] then
      (.invalidData, .failed, .failed ⟨payload.orderId, routeName request.target, .invalidData⟩)
    else (.reserved, .succeeded, .succeeded ⟨payload.orderId, routeName request.target⟩)

/-- `_reserve`. -/
def reserve (request : MessageEnvelope) (payload : ReservationRequestPayload) (draw : Draw)
    (injected : Option FailureReason) :
    Except InventoryError (InventoryDb × RequestOutcome × MessageEnvelope) :=
  let (outcome, result, answer) := db.choose request payload injected
  let reply := replyTo request draw answer
  if reply.valid then
    let reserved := if outcome = .reserved then
        db.insertReservation request.taskId payload.orderId (routeName request.target)
          (canonicalJson payload.items) draw.now
      else .ok db
    match reserved with
    | .error error => .error error
    | .ok db => (db.insertProcessedMessage request result reply draw.now).map (·, outcome, reply)
  else .error .invalidEnvelope

/-- The transaction of `process_reservation_request`. -/
def processReservationRequest (request : MessageEnvelope) (draw : Draw) (injected : Option FailureReason) :
    Except InventoryError (InventoryDb × RequestOutcome × MessageEnvelope) :=
  match request.payload with
  | .requested payload =>
    match db.findProcessedMessage request.messageId with
    | some previous => .ok (db, .duplicateMessage, previous.response)
    | none => db.reserve request payload draw injected
  | _ => .error .contractViolation

end InventoryDb

end OrchLab
