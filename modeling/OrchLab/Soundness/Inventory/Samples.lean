import OrchLab.Soundness.Inventory.Deliveries

/-! # Requests a worker holds

A request that a worker has sampled passed its contract, and what is injected into its transaction is nothing or the
failure of `before_reservation`. Such a request is answered in full: from its row if there is one, else with the
failure.
-/

namespace OrchLab

/-- What `parse_message` accepts as a reservation request. -/
structure MessageEnvelope.IsRequest (request : MessageEnvelope) : Prop where
  executionId : isExecutionId request.executionId = true
  eventSeq : 1 ≤ request.eventSeq
  attempt : 1 ≤ request.attemptNumber
  payload : ∃ payload, request.payload = .requested payload

theorem isRequest_of_parseMessage {raw : RawEnvelope} {request : MessageEnvelope}
    (read : parseMessage raw [.stockReservationRequested] = .ok request) : request.IsRequest := by
  rw [parseMessage] at read
  split at read
  · next type target typed targeted =>
    split_ifs at read with checked accepts
    simp only [Bool.and_eq_true, decide_eq_true_eq] at checked
    obtain rfl := List.mem_singleton.mp accepts
    cases validated : validatePayload .stockReservationRequested raw.payload with
    | error error => simp [validated, Except.map] at read
    | ok payload =>
      simp only [validated, Except.map, Except.ok.injEq] at read
      subst read
      have seq : 1 ≤ raw.eventSeq.toNat := by
        have positive := checked.1.2
        omega
      have attempt : 1 ≤ raw.attemptNumber.toNat := by
        have positive := checked.2
        omega
      refine ⟨checked.1.1.2, seq, attempt, ?_⟩
      simp only [validatePayload, payloadModel?] at validated
      cases model : ReservationRequestPayload.modelValidate? raw.payload with
      | none => simp [model] at validated
      | some asked =>
        simp only [model, Option.map_some, Option.elim_some, Except.ok.injEq] at validated
        exact ⟨asked, validated.symm⟩
  · cases read

/-- A reply to a request passes the contract of its envelope. -/
theorem MessageEnvelope.IsRequest.valid_reply {request : MessageEnvelope} (asks : request.IsRequest) (draw : Draw)
    (payload : ReservationFailedPayload) : (replyTo request draw (.failed payload)).valid = true := by
  simp only [MessageEnvelope.valid, replyTo, asks.executionId, asks.eventSeq, asks.attempt, decide_true,
    Bool.and_self]

namespace InventoryDb

variable {db db' : InventoryDb} {request reply : MessageEnvelope} {draw : Draw} {outcome : RequestOutcome}

/-- An injected failure is stored for a message that is not answered yet. -/
theorem processReservationRequest_of_injected (asks : request.IsRequest)
    (fresh : db.findProcessedMessage request.messageId = none) (draw : Draw) (reason : FailureReason) :
    ∃ db' outcome payload, db.processReservationRequest request draw (some reason) =
        .ok (db', outcome, replyTo request draw (.failed payload)) ∧ payload.failureReason = reason ∧
      db'.processedMessages.rows = db.processedMessages.rows ++
        [⟨request.messageId, request.taskId, request.eventType, .failed,
          replyTo request draw (.failed payload), draw.now⟩] := by
  obtain ⟨payload, asked⟩ := asks.payload
  let failed : ReservationFailedPayload := ⟨payload.orderId, routeName request.target, reason⟩
  let row : ProcessedMessage := ⟨request.messageId, request.taskId, request.eventType, .failed,
    replyTo request draw (.failed failed), draw.now⟩
  have absent : db.processedMessages.find? row.messageId = none := fresh
  obtain ⟨processedMessages, inserted⟩ := Table.insert?_isSome absent
  refine ⟨{ db with processedMessages }, .transientError, failed, ?_, rfl,
    (Table.insert?_eq_some_iff.mp inserted).2⟩
  simp only [processReservationRequest, asked, fresh, reserve, choose, reduceCtorEq, ↓reduceIte,
    asks.valid_reply draw, insertProcessedMessage]
  rw [inserted]
  rfl

/-- An answered message is answered from its row, whatever was injected. -/
theorem processReservationRequest_of_answered (asks : request.IsRequest) {previous : ProcessedMessage}
    (found : db.findProcessedMessage request.messageId = some previous) (draw : Draw)
    (injected : Option FailureReason) :
    db.processReservationRequest request draw injected = .ok (db, .duplicateMessage, previous.response) := by
  obtain ⟨payload, asked⟩ := asks.payload
  simp only [processReservationRequest, asked, found]

theorem reply_of_reserve {payload : ReservationRequestPayload} {injected : Option FailureReason}
    (success : db.reserve request payload draw injected = .ok (db', outcome, reply)) :
    reply = replyTo request draw (db.choose request payload injected).2.2 := by
  have answered : ∀ middle : InventoryDb, (middle.insertProcessedMessage request
      (db.choose request payload injected).2.1
        (replyTo request draw (db.choose request payload injected).2.2) draw.now).map
          (·, (db.choose request payload injected).1,
            replyTo request draw (db.choose request payload injected).2.2) = .ok (db', outcome, reply) →
      reply = replyTo request draw (db.choose request payload injected).2.2 := by
    intro middle success
    cases inserted : middle.insertProcessedMessage request (db.choose request payload injected).2.1
        (replyTo request draw (db.choose request payload injected).2.2) draw.now with
    | error error => simp [inserted, Except.map] at success
    | ok after =>
      simp only [inserted, Except.map, Except.ok.injEq, Prod.mk.injEq] at success
      exact success.2.2.symm
  simp only [reserve] at success
  split_ifs at success
  · cases reserved : db.insertReservation request.taskId payload.orderId (routeName request.target)
        (canonicalJson payload.items) draw.now with
    | error error => simp [reserved] at success
    | ok middle =>
      simp only [reserved] at success
      exact answered middle success
  · exact answered db success

/-- Without an injected failure the answer is none. -/
theorem reason_of_choose {payload : ReservationRequestPayload} {failed : ReservationFailedPayload}
    (chosen : (db.choose request payload none).2.2 = .failed failed) : failed.failureReason = .invalidData := by
  cases found : db.findReservation request.taskId with
  | some existing =>
    simp only [choose, found] at chosen
    cases chosen
  | none =>
    simp only [choose, found] at chosen
    split_ifs at chosen
    cases chosen
    rfl

end InventoryDb

/-! ## What is sampled -/

namespace InventoryService

variable {sampled : Sampling} {s t : InventoryService}

/-- What is recorded beside failures is a delay. -/
theorem beforeReservation_cases (sampled : Sampling) (fault : Option FaultControl) (request : MessageEnvelope) :
    (∃ applied, beforeReservation sampled fault request = (applied, none) ∧
        ∀ record, applied = some record → record.effect ≠ FailureReason.transientError.value) ∨
      ∃ record, beforeReservation sampled fault request = (some record, some .transientError) ∧
        record.effect = FailureReason.transientError.value ∧ record.messageId = request.messageId ∧
          record.taskId = request.taskId := by
  cases fault with
  | none => exact .inl ⟨none, rfl, by simp⟩
  | some fault =>
    unfold beforeReservation
    simp only
    split_ifs
    · exact .inl ⟨none, rfl, by simp⟩
    · exact .inl ⟨none, rfl, by simp⟩
    · cases type : fault.type with
      | intermittentError => exact .inr ⟨_, rfl, rfl, rfl, rfl⟩
      | timeout delayMs positive =>
        refine .inl ⟨_, rfl, ?_⟩
        rintro _ ⟨⟩ same
        have first := congrArg (fun text : String => text.toList.head?) same
        simp [FaultControl.record, FailureReason.value] at first

/-- A sampled request passed its contract, and what is injected is the failure of `before_reservation`. -/
def SamplesRequests (s : InventoryService) : Prop :=
  ∀ route request injected, s.workers route = .sampled request injected →
    request.IsRequest ∧ (injected = none ∨ injected = some .transientError)

theorem SamplesRequests.step (samples : s.SamplesRequests) {label : InventoryLabel}
    (step : s.step sampled label = some t) : t.SamplesRequests := by
  have replaced : ∀ {worker : InventoryWorker} {route : Target}, (∀ request injected,
      worker = .sampled request injected → request.IsRequest ∧ (injected = none ∨ injected = some .transientError)) →
        ∀ other request injected, Function.update s.workers route worker other = .sampled request injected →
          request.IsRequest ∧ (injected = none ∨ injected = some .transientError) := by
    intro worker route own other request injected here
    by_cases same : other = route
    · subst same
      rw [Function.update_self] at here
      exact own request injected here
    · rw [Function.update_of_ne same] at here
      exact samples other request injected here
  cases stepped_of_step step with
  | controlWritten | controlCleared => exact samples
  | taken route raw idle =>
    rw [take]
    split
    · exact samples
    · next request read =>
      apply replaced
      rintro _ _ ⟨⟩
      refine ⟨isRequest_of_parseMessage read, ?_⟩
      rcases beforeReservation_cases sampled s.fault request with ⟨applied, before, -⟩ | ⟨record, before, -⟩
      · exact .inl (congrArg Prod.snd before)
      · exact .inr (congrArg Prod.snd before)
  | processed route draw request injected waiting =>
    rw [process]
    split
    · exact replaced (by simp)
    · exact replaced (by simp)
  | published route request reply answered => exact replaced (by simp)
  | stopped route busy => exact replaced (by simp)

end InventoryService

theorem reachable_samplesRequests {sampled : Sampling} {stock : List String} {s : InventoryService}
    (reachable : (inventoryMachine sampled stock).Reachable s) : s.SamplesRequests := by
  refine Machine.Reachable.invariant (P := InventoryService.SamplesRequests) ?_ ?_ reachable
  · rintro route request injected ⟨⟩
  · intro s label t _ samples _ step
    exact samples.step step

end OrchLab
