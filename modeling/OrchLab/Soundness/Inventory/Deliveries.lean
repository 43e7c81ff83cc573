import OrchLab.Model.Inventory.Deliveries
import OrchLab.Soundness.Inventory.Answers

/-! # Stable and truthful replies

Whatever is delivered, how often and under which faults: a message is answered once and its stored answer is
published again from then on, so two replies to one message cannot differ. A stored answer succeeds exactly
when its row says so, and then it names the reservation of its task, which is never changed or removed.
-/

namespace OrchLab

/-- The rows of the inventory agree with the answers they hold. -/
structure InventoryDb.Truthful (db : InventoryDb) : Prop where
  status : ∀ row ∈ db.reservations.rows, row.status = .reserved
  task : ∀ row ∈ db.processedMessages.rows, row.response.taskId = row.taskId
  result : ∀ row ∈ db.processedMessages.rows,
    row.result = .succeeded ↔ row.response.eventType = .stockReservationSucceeded
  named : ∀ row ∈ db.processedMessages.rows, ∀ payload, row.response.payload = .succeeded payload →
    ∃ reservation, db.findReservation row.taskId = some reservation ∧
      payload = ⟨reservation.orderId, reservation.route⟩

/-- The reply is the stored answer of the message. -/
def InventoryDb.HasAnswered (db : InventoryDb) (message : MessageId) (reply : MessageEnvelope) : Prop :=
  ∃ row, db.findProcessedMessage message = some row ∧ row.response = reply

theorem InventoryDb.HasAnswered.unique {db : InventoryDb} {message : MessageId} {reply other : MessageEnvelope}
    (one : db.HasAnswered message reply) (two : db.HasAnswered message other) : reply = other := by
  obtain ⟨row, found, rfl⟩ := one
  obtain ⟨row', found', rfl⟩ := two
  cases found.symm.trans found'
  rfl

/-! ## One transaction -/

namespace Stored

variable {db db' : InventoryDb} {request reply : MessageEnvelope} {draw : Draw} {result : ProcessingResult}
  {reservation : Option Reservation} {message : MessageId}

/-- The rows of other messages are found as before. -/
theorem hasAnswered (stored : Stored db db' request draw result reply reservation) {other : MessageEnvelope}
    (answered : db.HasAnswered message other) : db'.HasAnswered message other := by
  obtain ⟨row, found, rfl⟩ := answered
  obtain ⟨member, same⟩ := Table.find?_eq_some_iff.mp found
  refine ⟨row, Table.find?_eq_some_iff.mpr ⟨?_, same⟩, rfl⟩
  rw [stored.messages]
  exact List.mem_append_left _ member

/-- The message has its answer now. -/
theorem answers (stored : Stored db db' request draw result reply reservation) :
    db'.HasAnswered request.messageId reply := by
  refine ⟨⟨request.messageId, request.taskId, request.eventType, result, reply, draw.now⟩,
    Table.find?_eq_some_iff.mpr ⟨?_, rfl⟩, rfl⟩
  rw [stored.messages]
  exact List.mem_append_right _ (List.mem_singleton_self _)

/-- A reservation stays where it is found. -/
theorem findReservation (stored : Stored db db' request draw result reply reservation) {task : TaskId}
    {row : Reservation} (found : db.findReservation task = some row) : db'.findReservation task = some row := by
  obtain ⟨here, status⟩ := Option.filter_eq_some_iff.mp found
  obtain ⟨member, own⟩ := Table.find?_eq_some_iff.mp here
  refine Option.filter_eq_some_iff.mpr ⟨Table.find?_eq_some_iff.mpr ⟨?_, own⟩, status⟩
  rw [stored.reservations]
  exact List.mem_append_left _ member

/-- A first answer keeps the rows truthful when it is truthful itself. -/
theorem truthful (stored : Stored db db' request draw result reply reservation) (truthful : db.Truthful)
    (status : ∀ row ∈ reservation, row.status = .reserved) (task : reply.taskId = request.taskId)
    (agrees : result = .succeeded ↔ reply.eventType = .stockReservationSucceeded)
    (named : ∀ payload, reply.payload = .succeeded payload →
      ∃ row, db'.findReservation request.taskId = some row ∧ payload = ⟨row.orderId, row.route⟩) :
    db'.Truthful := by
  constructor
  · rw [stored.reservations]
    simp only [List.forall_mem_append, Option.mem_toList]
    exact ⟨truthful.status, status⟩
  · rw [stored.messages]
    simp only [List.forall_mem_append, List.forall_mem_singleton]
    exact ⟨truthful.task, task⟩
  · rw [stored.messages]
    simp only [List.forall_mem_append, List.forall_mem_singleton]
    exact ⟨truthful.result, agrees⟩
  · rw [stored.messages]
    simp only [List.forall_mem_append, List.forall_mem_singleton]
    refine ⟨fun row member payload succeeded => ?_, named⟩
    obtain ⟨reservation, found, names⟩ := truthful.named row member payload succeeded
    exact ⟨reservation, stored.findReservation found, names⟩

end Stored

namespace Processed

variable {db db' : InventoryDb} {request reply : MessageEnvelope} {draw : Draw}

/-- An answer that was stored stays stored. -/
theorem keeps (processed : Processed db request draw db' reply) {message : MessageId} {other : MessageEnvelope}
    (answered : db.HasAnswered message other) : db'.HasAnswered message other := by
  cases processed with
  | again => exact answered
  | failed _ _ stored => exact stored.hasAnswered answered
  | existing _ _ _ stored => exact stored.hasAnswered answered
  | reserved _ _ _ _ stored => exact stored.hasAnswered answered

/-- What is answered is the stored answer. -/
theorem hasAnswered (processed : Processed db request draw db' reply) :
    db'.HasAnswered request.messageId reply := by
  cases processed with
  | again previous found => exact ⟨previous, found, rfl⟩
  | failed _ _ stored => exact stored.answers
  | existing _ _ _ stored => exact stored.answers
  | reserved _ _ _ _ stored => exact stored.answers

/-- The transaction keeps the rows truthful. -/
theorem truthful (processed : Processed db request draw db' reply) (truthful : db.Truthful) : db'.Truthful := by
  cases processed with
  | again => exact truthful
  | failed _ payload stored =>
    apply stored.truthful truthful (by simp) rfl
    · constructor
      · intro succeeded
        cases succeeded
      · intro succeeded
        cases succeeded
    · intro payload succeeded
      cases succeeded
  | existing _ row found stored =>
    apply stored.truthful truthful (by simp) rfl (iff_of_true rfl rfl)
    rintro payload ⟨⟩
    exact ⟨row, stored.findReservation found, rfl⟩
  | reserved _ payload asked absent stored =>
    apply stored.truthful truthful ?_ rfl (iff_of_true rfl rfl)
    · rintro _ ⟨⟩
      refine ⟨reservationFor request payload draw, ?_, rfl⟩
      refine Option.filter_eq_some_iff.mpr ⟨Table.find?_eq_some_iff.mpr ⟨?_, rfl⟩, by rfl⟩
      rw [stored.reservations]
      exact List.mem_append_right _ (List.mem_singleton_self _)
    · rintro _ ⟨⟩
      rfl

/-- The reservations change only by one of the task, with an answer that succeeds. -/
theorem reservations (processed : Processed db request draw db' reply) :
    db'.reservations = db.reservations ∨
      reply.eventType = .stockReservationSucceeded ∧ ∃ row : Reservation, row.taskId = request.taskId ∧
        db'.reservations.rows = db.reservations.rows ++ [row] := by
  cases processed with
  | again => exact .inl rfl
  | failed _ _ stored => exact .inl stored.same
  | existing _ _ _ stored => exact .inl stored.same
  | reserved _ payload _ _ stored =>
    exact .inr ⟨rfl, reservationFor request payload draw, rfl, stored.reservations⟩

end Processed

/-! ## The deliveries -/

namespace InventoryService

variable {sampled : Sampling} {s t : InventoryService}

/-- What a step does to the database, and to the worker that has an answer. -/
inductive Delivers (s : InventoryService) (t : InventoryService) : InventoryLabel → Prop
  | untouched (label : InventoryLabel) (db : t.db = s.db) (published : t.published = s.published)
      (workers : ∀ route request reply, t.workers route = .answered request reply →
        s.workers route = .answered request reply) : Delivers s t label
  | processed (route : Target) (draw : Draw) (request reply : MessageEnvelope)
      (processed : Processed s.db request draw t.db reply) (published : t.published = s.published)
      (workers : t.workers = Function.update s.workers route (.answered request reply)) :
      Delivers s t (.process route draw)
  | published (route : Target) (request reply : MessageEnvelope) (db : t.db = s.db)
      (answered : s.workers route = .answered request reply)
      (published : t.published = s.published ++ [⟨request, reply⟩])
      (workers : t.workers = Function.update s.workers route .idle) : Delivers s t (.publish route)

/-- What a step of the runner or of a worker is. -/
inductive Stepped (sampled : Sampling) (s : InventoryService) : InventoryLabel → InventoryService → Prop
  | controlWritten (control : FaultControl) : Stepped sampled s (.writeControl control) { s with fault := some control }
  | controlCleared : Stepped sampled s .clearControl { s with fault := none }
  | taken (route : Target) (raw : RawEnvelope) (idle : s.workers route = .idle) :
      Stepped sampled s (.take route raw) (s.take sampled route raw)
  | processed (route : Target) (draw : Draw) (request : MessageEnvelope) (injected : Option FailureReason)
      (waiting : s.workers route = .sampled request injected) :
      Stepped sampled s (.process route draw) (s.process route request injected draw)
  | published (route : Target) (request reply : MessageEnvelope)
      (answered : s.workers route = .answered request reply) : Stepped sampled s (.publish route)
      ({ s with published := s.published ++ [Publication.mk request reply] }.setWorker route .idle)
  | stopped (route : Target) (busy : s.workers route ≠ .idle) :
      Stepped sampled s (.stop route) (s.setWorker route .idle)

theorem stepped_of_step {label : InventoryLabel} (step : s.step sampled label = some t) :
    Stepped sampled s label t := by
  cases label with
  | writeControl control =>
    cases step
    exact .controlWritten control
  | clearControl =>
    cases step
    exact .controlCleared
  | take route raw =>
    simp only [InventoryService.step] at step
    split_ifs at step with idle
    obtain rfl := Option.some_inj.mp step
    exact .taken route raw idle
  | process route draw =>
    simp only [InventoryService.step] at step
    split at step
    · next request injected waiting =>
      obtain rfl := Option.some_inj.mp step
      exact .processed route draw request injected waiting
    · cases step
  | publish route =>
    simp only [InventoryService.step] at step
    split at step
    · next request reply answered =>
      obtain rfl := Option.some_inj.mp step
      exact .published route request reply answered
    · cases step
  | stop route =>
    simp only [InventoryService.step] at step
    split_ifs at step with busy
    obtain rfl := Option.some_inj.mp step
    exact .stopped route busy

/-- A worker without an answer has taken the place of the one on the route. -/
private theorem answered_of_setWorker {route : Target} {worker : InventoryWorker}
    (unanswered : ∀ request reply, worker ≠ .answered request reply) (other : Target) (request reply : MessageEnvelope)
    (answered : Function.update s.workers route worker other = .answered request reply) :
    s.workers other = .answered request reply := by
  by_cases same : other = route
  · subst same
    rw [Function.update_self] at answered
    exact absurd answered (unanswered request reply)
  · rwa [Function.update_of_ne same] at answered

theorem delivers_of_step {label : InventoryLabel} (step : s.step sampled label = some t) :
    Delivers s t label := by
  cases stepped_of_step step with
  | controlWritten | controlCleared => exact .untouched _ rfl rfl fun _ _ _ answered => answered
  | taken route raw idle =>
    rw [take]
    split
    · exact .untouched _ rfl rfl fun _ _ _ answered => answered
    · exact .untouched _ rfl rfl (answered_of_setWorker (by simp))
  | processed route draw request injected waiting =>
    rw [process]
    split
    · exact .untouched _ rfl rfl (answered_of_setWorker (by simp))
    · next db outcome reply success =>
      exact .processed route draw request reply (InventoryDb.processed_of_ok success) rfl rfl
  | published route request reply answered => exact .published route request reply rfl answered rfl rfl
  | stopped route busy => exact .untouched _ rfl rfl (answered_of_setWorker (by simp))

/-- The rows are truthful, and whatever a worker is about to publish or has published is stored. -/
structure Truthful (s : InventoryService) : Prop where
  db : s.db.Truthful
  answered : ∀ route request reply, s.workers route = .answered request reply →
    s.db.HasAnswered request.messageId reply
  published : ∀ publication ∈ s.published, s.db.HasAnswered publication.request.messageId publication.reply

theorem Truthful.step (truthful : s.Truthful) {label : InventoryLabel} (delivers : Delivers s t label) :
    t.Truthful := by
  cases delivers with
  | untouched _ db published workers =>
    constructor
    · rw [db]
      exact truthful.db
    · intro route request reply answered
      rw [db]
      exact truthful.answered route request reply (workers route request reply answered)
    · rw [db, published]
      exact truthful.published
  | processed route draw request reply processed published workers =>
    constructor
    · exact processed.truthful truthful.db
    · intro other request' reply' answered
      rw [workers] at answered
      by_cases same : other = route
      · subst same
        rw [Function.update_self] at answered
        cases answered
        exact processed.hasAnswered
      · rw [Function.update_of_ne same] at answered
        exact processed.keeps (truthful.answered other request' reply' answered)
    · rw [published]
      exact fun publication member => processed.keeps (truthful.published publication member)
  | published route request reply db answered published workers =>
    constructor
    · rw [db]
      exact truthful.db
    · intro other request' reply' answered'
      rw [workers] at answered'
      by_cases same : other = route
      · subst same
        rw [Function.update_self] at answered'
        cases answered'
      · rw [Function.update_of_ne same] at answered'
        rw [db]
        exact truthful.answered other request' reply' answered'
    · rw [db, published]
      simp only [List.forall_mem_append, List.forall_mem_singleton]
      exact ⟨truthful.published, truthful.answered route request reply answered⟩

end InventoryService

/-- Whatever was delivered, the stored answers are truthful and are what was published. -/
theorem reachable_truthful {sampled : Sampling} {stock : List String} {s : InventoryService}
    (reachable : (inventoryMachine sampled stock).Reachable s) : s.Truthful := by
  refine Machine.Reachable.invariant (P := InventoryService.Truthful) ?_ ?_ reachable
  · constructor
    · constructor <;> simp [inventoryMachine, InventoryService.initial, InventoryDb.initial]
    · rintro route request reply ⟨⟩
    · rintro publication ⟨⟩
  · intro s label t _ truthful _ step
    exact truthful.step (InventoryService.delivers_of_step step)

/-- Under any deliveries, faults and crashes: every reply ever published for a message is the answer in the
one row of the message, so it is one reply; a row has succeeded exactly when its answer has, and then the
answer names the reservation of the task; a step changes the reservations only by one that a succeeding answer
names; and a reply is published from a committed row. -/
theorem replies_stable {sampled : Sampling} {stock : List String} {s : InventoryService}
    (reachable : (inventoryMachine sampled stock).Reachable s) :
    (∀ publication ∈ s.published, ∃ row, s.db.findProcessedMessage publication.request.messageId = some row ∧
      row.response = publication.reply) ∧
    (∀ one ∈ s.published, ∀ two ∈ s.published, one.request.messageId = two.request.messageId →
      one.reply = two.reply) ∧
    (∀ row ∈ s.db.processedMessages.rows,
      row.result = .succeeded ↔ row.response.eventType = .stockReservationSucceeded) ∧
    (∀ publication ∈ s.published, ∀ payload, publication.reply.payload = .succeeded payload →
      ∃ reservation, s.db.findReservation publication.reply.taskId = some reservation ∧
        payload = ⟨reservation.orderId, reservation.route⟩) ∧
    ∀ label t, (inventoryMachine sampled stock).step s label = some t →
      (t.db.reservations = s.db.reservations ∨ ∃ route draw request reply row, label = .process route draw ∧
        t.workers route = .answered request reply ∧ reply.eventType = .stockReservationSucceeded ∧
        row.taskId = request.taskId ∧ t.db.reservations.rows = s.db.reservations.rows ++ [row]) ∧
      (t.published = s.published ∨ ∃ publication row, t.published = s.published ++ [publication] ∧
        s.db.findProcessedMessage publication.request.messageId = some row ∧
        row.response = publication.reply) := by
  have truthful := reachable_truthful reachable
  refine ⟨truthful.published, ?_, truthful.db.result, ?_, ?_⟩
  · intro one first two second same
    have answered := truthful.published two second
    rw [← same] at answered
    exact (truthful.published one first).unique answered
  · intro publication member payload succeeded
    obtain ⟨row, found, stored⟩ := truthful.published publication member
    obtain ⟨here, -⟩ := Table.find?_eq_some_iff.mp found
    rw [← stored] at succeeded ⊢
    rw [truthful.db.task row here]
    exact truthful.db.named row here payload succeeded
  · intro label t step
    cases InventoryService.delivers_of_step step with
    | untouched _ db published workers => exact ⟨.inl (by rw [db]), .inl published⟩
    | processed route draw request reply processed published workers =>
      refine ⟨processed.reservations.imp_right ?_, .inl published⟩
      rintro ⟨succeeded, row, task, rows⟩
      exact ⟨route, draw, request, reply, row, rfl, by rw [workers, Function.update_self], succeeded, task, rows⟩
    | published route request reply db answered published workers =>
      obtain ⟨row, found, stored⟩ := truthful.answered route request reply answered
      exact ⟨.inl (by rw [db]), .inr ⟨⟨request, reply⟩, row, published, found, stored⟩⟩

/-- A failure that was stored before its publication is what is published after the redelivery, although the
fault is gone; the success of the other route names the reservation it made. -/
theorem replies_stable_of_failure : ∃ s, (inventoryMachine (fun _ _ _ _ => true) ["SKU-001"]).Reachable s ∧
    (∃ row, s.db.findProcessedMessage 10 = some row ∧
      row.response = replyTo (requestFor 10 .inventoryPrimary) ⟨20, 3⟩ (.failed ⟨1, .primary, .transientError⟩)) ∧
    ∃ reservation, s.db.findReservation 1 = some reservation ∧ reservation.route = .fallback := by
  obtain ⟨s, reachable, passes⟩ : ∃ s, (inventoryMachine (fun _ _ _ _ => true) ["SKU-001"]).Reachable s ∧
      decide (s.published =
        [⟨requestFor 11 .inventoryFallback,
            replyTo (requestFor 11 .inventoryFallback) ⟨22, 5⟩ (.succeeded ⟨1, .fallback⟩)⟩,
          ⟨requestFor 10 .inventoryPrimary, replyTo (requestFor 10 .inventoryPrimary) ⟨20, 3⟩
            (.failed ⟨1, .primary, .transientError⟩)⟩]) = true :=
    Machine.exists_reachable_of_replay? failureThenFallback (by decide +kernel)
  have published := of_decide_eq_true passes
  obtain ⟨stored, -, -, named, -⟩ := replies_stable reachable
  rw [published] at stored named
  obtain ⟨reservation, found, names⟩ := named _ (List.mem_cons_self ..) _ rfl
  refine ⟨s, reachable, stored _ (List.mem_cons_of_mem _ (List.mem_cons_self ..)), reservation, found, ?_⟩
  exact (congrArg ReservationResultPayload.route names).symm

end OrchLab
