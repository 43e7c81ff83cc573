import OrchLab.Model.Inventory.Reservation

/-! # The transaction of a reservation request

What `process_reservation_request` leaves and answers, once and in full: the stored answer again, or a new row
with its result and reply, and a reservation when one is made.
-/

namespace OrchLab

/-- The rows a first answer leaves: the message with its result and reply, and the reservation it made. -/
structure Stored (db db' : InventoryDb) (request : MessageEnvelope) (draw : Draw) (result : ProcessingResult)
    (reply : MessageEnvelope) (reservation : Option Reservation) : Prop where
  fresh : db.findProcessedMessage request.messageId = none
  valid : reply.valid = true
  messages : db'.processedMessages.rows = db.processedMessages.rows ++
    [⟨request.messageId, request.taskId, request.eventType, result, reply, draw.now⟩]
  reservations : db'.reservations.rows = db.reservations.rows ++ reservation.toList

/-- An answer without a reservation leaves the reservations. -/
theorem Stored.same {db db' : InventoryDb} {request reply : MessageEnvelope} {draw : Draw}
    {result : ProcessingResult} (stored : Stored db db' request draw result reply none) :
    db'.reservations = db.reservations :=
  Table.ext (stored.reservations.trans (List.append_nil _))

/-- The reservation `_reserve` makes for a request. -/
def reservationFor (request : MessageEnvelope) (payload : ReservationRequestPayload) (draw : Draw) : Reservation :=
  ⟨request.taskId, payload.orderId, .reserved, routeName request.target, canonicalJson payload.items, draw.now⟩

/-- What the transaction leaves and answers. -/
inductive Processed (db : InventoryDb) (request : MessageEnvelope) (draw : Draw) :
    InventoryDb → MessageEnvelope → Prop
  | again (previous : ProcessedMessage) (found : db.findProcessedMessage request.messageId = some previous) :
      Processed db request draw db previous.response
  | failed (db' : InventoryDb) (payload : ReservationFailedPayload)
      (stored : Stored db db' request draw .failed (replyTo request draw (.failed payload)) none) :
      Processed db request draw db' (replyTo request draw (.failed payload))
  | existing (db' : InventoryDb) (row : Reservation) (found : db.findReservation request.taskId = some row)
      (stored : Stored db db' request draw .succeeded
        (replyTo request draw (.succeeded ⟨row.orderId, row.route⟩)) none) :
      Processed db request draw db' (replyTo request draw (.succeeded ⟨row.orderId, row.route⟩))
  | reserved (db' : InventoryDb) (payload : ReservationRequestPayload)
      (asked : request.payload = .requested payload) (absent : db.reservations.find? request.taskId = none)
      (stored : Stored db db' request draw .succeeded
        (replyTo request draw (.succeeded ⟨payload.orderId, routeName request.target⟩))
        (some (reservationFor request payload draw))) :
      Processed db request draw db'
        (replyTo request draw (.succeeded ⟨payload.orderId, routeName request.target⟩))

namespace InventoryDb

variable {db db' : InventoryDb} {request reply : MessageEnvelope} {draw : Draw}

/-- A stored answer joins the processed messages and changes nothing else. -/
private theorem insertProcessedMessage_eq_ok {result : ProcessingResult} {made outcome : RequestOutcome}
    {answer : MessageEnvelope} {middle : InventoryDb} {reservation : Option Reservation}
    (success : (middle.insertProcessedMessage request result answer draw.now).map (·, made, answer) =
      .ok (db', outcome, reply)) (valid : answer.valid = true)
    (fresh : db.findProcessedMessage request.messageId = none)
    (messages : middle.processedMessages = db.processedMessages)
    (reservations : middle.reservations.rows = db.reservations.rows ++ reservation.toList) :
    reply = answer ∧ Stored db db' request draw result answer reservation := by
  rw [insertProcessedMessage] at success
  split at success
  · cases success
  · next processedMessages inserted =>
    obtain ⟨-, rows⟩ := Table.insert?_eq_some_iff.mp inserted
    rw [messages] at rows
    cases success
    exact ⟨rfl, fresh, valid, rows, reservations⟩

/-- `_reserve` answers. -/
private theorem reserve_eq_ok {payload : ReservationRequestPayload} {injected : Option FailureReason}
    {outcome : RequestOutcome} (asked : request.payload = .requested payload)
    (fresh : db.findProcessedMessage request.messageId = none)
    (success : db.reserve request payload draw injected = .ok (db', outcome, reply)) :
    Processed db request draw db' reply := by
  have unreserved : db.reservations.rows = db.reservations.rows ++ (none : Option Reservation).toList :=
    (List.append_nil _).symm
  cases injected with
  | some reason =>
    simp only [reserve, choose, reduceCtorEq, ↓reduceIte] at success
    split_ifs at success with valid
    obtain ⟨rfl, stored⟩ := insertProcessedMessage_eq_ok success valid fresh rfl unreserved
    exact .failed db' _ stored
  | none =>
    cases found : db.findReservation request.taskId with
    | some existing =>
      simp only [reserve, choose, found, reduceCtorEq, ↓reduceIte] at success
      split_ifs at success with valid
      obtain ⟨rfl, stored⟩ := insertProcessedMessage_eq_ok success valid fresh rfl unreserved
      exact .existing db' existing found stored
    | none =>
      simp only [reserve, choose, found] at success
      by_cases unknown : db.unknownSkus (payload.items.map OrderItem.sku) ≠ []
      · simp only [if_pos unknown, reduceCtorEq, ↓reduceIte] at success
        split_ifs at success with valid
        obtain ⟨rfl, stored⟩ := insertProcessedMessage_eq_ok success valid fresh rfl unreserved
        exact .failed db' _ stored
      · simp only [if_neg unknown, ↓reduceIte, insertReservation] at success
        split_ifs at success with valid
        cases inserted : db.reservations.insert? (reservationFor request payload draw) with
        | none =>
          rw [reservationFor] at inserted
          simp [inserted] at success
        | some reservations =>
          obtain ⟨absent, rows⟩ := Table.insert?_eq_some_iff.mp inserted
          rw [reservationFor] at inserted
          simp only [inserted] at success
          have made : ({ db with reservations } : InventoryDb).reservations.rows =
              db.reservations.rows ++ (some (reservationFor request payload draw)).toList := rows
          obtain ⟨rfl, stored⟩ := insertProcessedMessage_eq_ok success valid fresh rfl made
          exact .reserved db' payload asked absent stored

/-- The transaction of `process_reservation_request`. -/
theorem processed_of_ok {injected : Option FailureReason} {outcome : RequestOutcome}
    (success : db.processReservationRequest request draw injected = .ok (db', outcome, reply)) :
    Processed db request draw db' reply := by
  rw [processReservationRequest] at success
  split at success
  · next payload asked =>
    cases seen : db.findProcessedMessage request.messageId with
    | some previous =>
      simp only [seen, Except.ok.injEq, Prod.mk.injEq] at success
      obtain ⟨rfl, -, rfl⟩ := success
      exact .again previous seen
    | none =>
      simp only [seen] at success
      exact reserve_eq_ok asked seen success
  · cases success

end InventoryDb

end OrchLab
