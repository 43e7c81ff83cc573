import OrchLab.Soundness.Orders.Control
import OrchLab.Soundness.Orders.Requests
import OrchLab.Soundness.Orders.Results
import OrchLab.Soundness.System.Network

/-! # Agreement of the two services

The inventory reserves once for a task, under the order of the task, and every success it has stored
names that reservation: a repeated message repeats its answer, and another request of the task finds the
reservation. An order is completed by a success the orders-service has received, and what it receives
the inventory has stored.
-/

namespace OrchLab

/-- A request asks for the order of its task. -/
theorem OrdersService.payload_of_request {deployment : Deployment} {s : OrdersService}
    (reachable : (ordersMachine deployment).Reachable s) {request : MessageEnvelope}
    (asked : request ∈ s.requests) : ∃ items, request.payload = .requested ⟨request.taskId, items⟩ := by
  obtain ⟨effect, sent, is⟩ := List.mem_filterMap.mp asked
  have own : effect.taskId = request.taskId := by
    cases effect <;> simp only [Effect.request?, Option.some_inj, reduceCtorEq] at is
    rw [← is]
    rfl
  have known := ((reachable_coherent reachable).sent effect sent).1
  rw [own] at known
  obtain ⟨row, found⟩ := Option.ne_none_iff_exists'.mp known
  obtain ⟨file, filed⟩ : ∃ file, s.file? request.taskId = some file := ⟨_, by rw [OrdersService.file?, found]; rfl⟩
  have member : request ∈ file.requests := by
    rw [OrdersService.requests_of_file filed]
    exact List.mem_filter.mpr ⟨asked, by simp⟩
  obtain ⟨items, payload⟩ := (reachable_requested reachable filed).payload request member
  rw [(reachable_controlled reachable filed).orderId, OrdersService.taskId_of_file filed] at payload
  exact ⟨items, payload⟩

/-- What the inventory holds: reservations under the order of their task, and successes that name them. -/
structure InventoryDb.Consistent (db : InventoryDb) : Prop where
  status : ∀ row ∈ db.reservations.rows, row.status = .reserved
  order : ∀ row ∈ db.reservations.rows, row.orderId = row.taskId
  named : ∀ message ∈ db.processedMessages.rows, ∀ payload, message.response.payload = .succeeded payload →
    ∃ row ∈ db.reservations.rows, row.taskId = message.response.taskId ∧ payload = ⟨row.orderId, row.route⟩

namespace InventoryDb.Consistent

variable {db db' : InventoryDb} {request reply : MessageEnvelope} {draw : Draw}

/-- A reservation for a task without one can be inserted. -/
theorem insertReservation_isOk (consistent : db.Consistent) {task : TaskId}
    (absent : db.findReservation task = none) (order : OrderId) (route : ReservationRoute) (itemsJson : String)
    (now : Timestamp) : ∃ db', db.insertReservation task order route itemsJson now = .ok db' := by
  have absent : db.reservations.find? task = none := by
    cases found : db.reservations.find? task with
    | none => rfl
    | some row =>
      have status := consistent.status row (Table.find?_eq_some_iff.mp found).1
      simp [findReservation, found, status] at absent
  obtain ⟨reservations, inserted⟩ : ∃ reservations, db.reservations.insert?
      ⟨task, order, .reserved, route, itemsJson, now⟩ = some reservations := Table.insert?_isSome absent
  exact ⟨_, by rw [insertReservation, inserted]⟩

/-- The insertion that stores an answer fails at its own key only. -/
private theorem insertProcessedMessage_ne {result : ProcessingResult} {now : Timestamp}
    {outcome : RequestOutcome} : (db.insertProcessedMessage request result reply now).map (·, outcome, reply) ≠
      .error .reservationExists := by
  rw [insertProcessedMessage]
  split <;> simp [Except.map]

/-- No request makes the UNIQUE constraint of the task fail. -/
theorem processReservationRequest_ne (consistent : db.Consistent) (request : MessageEnvelope) (draw : Draw)
    (injected : Option FailureReason) :
    db.processReservationRequest request draw injected ≠ .error .reservationExists := by
  rw [processReservationRequest]
  split
  · next payload asked =>
    cases db.findProcessedMessage request.messageId with
    | some previous => simp
    | none =>
      simp only [reserve]
      by_cases made : (db.choose request payload injected).1 = .reserved
      · have free : db.findReservation request.taskId = none := by
          unfold choose at made
          split at made
          · cases made
          · cases made
          · assumption
        obtain ⟨db', inserted⟩ := consistent.insertReservation_isOk free payload.orderId
          (routeName request.target) (canonicalJson payload.items) draw.now
        simp only [if_pos made, inserted]
        split_ifs
        · exact insertProcessedMessage_ne
        · simp
      · simp only [if_neg made]
        split_ifs
        · exact insertProcessedMessage_ne
        · simp
  · simp

theorem stores (consistent : db.Consistent) (stores : Stores db db' request reply)
    (kept : db.reservations.rows ⊆ db'.reservations.rows)
    (status : ∀ row ∈ db'.reservations.rows, row.status = .reserved)
    (order : ∀ row ∈ db'.reservations.rows, row.orderId = row.taskId)
    (named : ∀ payload, reply.payload = .succeeded payload →
      ∃ row ∈ db'.reservations.rows, row.taskId = reply.taskId ∧ payload = ⟨row.orderId, row.route⟩) :
    db'.Consistent := by
  obtain ⟨-, message, rows, -, response⟩ := stores
  refine ⟨status, order, ?_⟩
  rw [rows]
  simp only [List.forall_mem_append, List.forall_mem_singleton, response]
  refine ⟨fun message member payload succeeded => ?_, named⟩
  obtain ⟨row, here, names⟩ := consistent.named message member payload succeeded
  exact ⟨row, kept here, names⟩

/-- An answer keeps the tables consistent. -/
theorem replies (consistent : db.Consistent) (replies : Replies db request draw db' reply)
    (asks : ∃ items, request.payload = .requested ⟨request.taskId, items⟩) : db'.Consistent := by
  cases replies with
  | again => exact consistent
  | failed _ payload stores same =>
    refine consistent.stores stores ?_ ?_ ?_ (by rintro payload ⟨⟩) <;> rw [same]
    · exact List.Subset.refl _
    · exact consistent.status
    · exact consistent.order
  | existing _ row found stores same =>
    obtain ⟨here, -⟩ := Option.filter_eq_some_iff.mp found
    obtain ⟨member, task⟩ := Table.find?_eq_some_iff.mp here
    refine consistent.stores stores ?_ ?_ ?_ ?_ <;> rw [same]
    · exact List.Subset.refl _
    · exact consistent.status
    · exact consistent.order
    · rintro payload ⟨⟩
      exact ⟨row, member, task, rfl⟩
  | reserved _ payload row asked status task order stores absent rows =>
    obtain ⟨items, is⟩ := asks
    cases asked.symm.trans is
    refine consistent.stores stores ?_ ?_ ?_ ?_ <;> rw [rows]
    · exact List.subset_append_left _ _
    · simp only [List.forall_mem_append, List.forall_mem_singleton]
      exact ⟨consistent.status, status⟩
    · simp only [List.forall_mem_append, List.forall_mem_singleton]
      exact ⟨consistent.order, order.trans task.symm⟩
    · rintro payload ⟨⟩
      exact ⟨row, List.mem_append_right _ (List.mem_singleton_self _), task, rfl⟩

end InventoryDb.Consistent

/-- The inventory is consistent in every reachable state. -/
theorem reachable_consistent {deployment : Deployment} {stock : List String} {s : System}
    (reachable : (systemMachine deployment stock).Reachable s) : s.inventory.Consistent := by
  refine Machine.Reachable.invariant (P := fun s => s.inventory.Consistent) ?_ ?_ reachable
  · refine ⟨?_, ?_, ?_⟩ <;> simp [systemMachine, System.initial, InventoryDb.initial]
  · intro s label t earlier consistent offered step
    obtain ⟨network, alone⟩ := reachable_network earlier
    rcases (system_step_cases step).inventory with same | ⟨request, draw, _, reply, -, queued, replies, -⟩
    · rw [same]
      exact consistent
    · have asked := Network.requests_of_publish (network.requests request queued)
      exact consistent.replies replies (OrdersService.payload_of_request alone asked)

namespace System

/-- An event that is on its way to the orders-service or has been received by it. -/
def reports (s : System) (event : MessageEnvelope) : Prop :=
  (∃ route answer, s.answering route = some answer ∧ answer.reply = event) ∨
    s.carries (.inventoryEvent event) ∨ event ∈ s.service.received

/-- The reservations of a task. -/
def reservationsOf (s : System) (task : TaskId) : List Reservation :=
  s.inventory.reservations.rows.filter (·.taskId = task)

variable (s : System) {task : TaskId} {reservation : Reservation}

theorem length_reservationsOf_le (task : TaskId) : (s.reservationsOf task).length ≤ 1 := by
  rw [reservationsOf, ← List.countP_eq_length_filter]
  have one := List.nodup_iff_count_le_one.mp s.inventory.reservations.unique task
  rw [List.count, List.countP_map] at one
  refine le_trans (le_of_eq ?_) one
  exact List.countP_congr fun row _ => by simp

theorem reservationsOf_eq (member : reservation ∈ s.inventory.reservations.rows)
    (own : reservation.taskId = task) : s.reservationsOf task = [reservation] := by
  have here : reservation ∈ s.reservationsOf task := List.mem_filter.mpr ⟨member, by simpa using own⟩
  have one := s.length_reservationsOf_le task
  generalize s.reservationsOf task = rows at here one
  match rows, here, one with
  | [only], here, _ => rw [List.mem_singleton.mp here]

theorem mem_of_reservationsOf_eq (only : s.reservationsOf task = [reservation]) :
    reservation ∈ s.inventory.reservations.rows ∧ reservation.taskId = task := by
  have here : reservation ∈ s.reservationsOf task := by rw [only]; exact List.mem_singleton_self _
  simpa [reservationsOf] using here

end System

theorem Network.mem_responses_of_reports {s : System} (network : Network s) {event : MessageEnvelope}
    (reports : s.reports event) : event ∈ s.responses := by
  rcases reports with ⟨route, answer, busy, rfl⟩ | carried | received
  · obtain ⟨row, kept, -, same⟩ := network.replying route answer busy
    exact same ▸ List.mem_map_of_mem kept
  · rcases network.events _ carried with ⟨other, stored, is⟩ | scheduled
    · cases is
      exact stored
    · exact absurd rfl (System.not_inventoryEvent_of_scheduled scheduled event)
  · exact network.received event received

/-- Across both databases: a task has at most one reservation and none is refused as a second one; a
completed order has exactly one, with its number; and a success on its way or received names it. -/
theorem services_agree {deployment : Deployment} {stock : List String} {s : System}
    (reachable : (systemMachine deployment stock).Reachable s) :
    (∀ task, (s.reservationsOf task).length ≤ 1) ∧
    (∀ request draw injected,
      s.inventory.processReservationRequest request draw injected ≠ .error .reservationExists) ∧
    (∀ order placed, s.service.db.order? order = some placed → placed.status = .completed →
      ∃ task row reservation, s.service.db.task? task = some row ∧ row.orderId = order ∧
        s.reservationsOf task = [reservation] ∧ reservation.status = .reserved ∧ reservation.orderId = order) ∧
    ∀ event payload, s.reports event → event.payload = .succeeded payload →
      ∃ reservation, s.reservationsOf event.taskId = [reservation] ∧ reservation.status = .reserved ∧
        payload = ⟨reservation.orderId, reservation.route⟩ := by
  obtain ⟨network, alone⟩ := reachable_network reachable
  have consistent := reachable_consistent reachable
  have named : ∀ event payload, s.reports event → event.payload = .succeeded payload →
      ∃ reservation, s.reservationsOf event.taskId = [reservation] ∧ reservation.status = .reserved ∧
        payload = ⟨reservation.orderId, reservation.route⟩ := by
    intro event payload reports succeeded
    obtain ⟨message, stored, rfl⟩ := List.mem_map.mp (network.mem_responses_of_reports reports)
    obtain ⟨row, member, task, names⟩ := consistent.named message stored payload succeeded
    exact ⟨row, s.reservationsOf_eq member task, consistent.status row member, names⟩
  refine ⟨s.length_reservationsOf_le, consistent.processReservationRequest_ne,
    fun order placed found completed => ?_, named⟩
  obtain ⟨row, known⟩ := Option.ne_none_iff_exists'.mp (exists_task_of_order alone order (by simp [found]))
  obtain ⟨file, filed, own⟩ : ∃ file, s.service.file? order = some file ∧ file.row = row :=
    ⟨_, by rw [OrdersService.file?, known]; rfl, rfl⟩
  have controlled := reachable_controlled alone filed
  obtain ⟨follower, ordered, follows⟩ := controlled.order
  have ended : file.row.status = .completed := by
    rw [(file?_eq_some_iff.mp filed).2.1, found] at ordered
    cases ordered
    exact orderStatusFor_eq_completed.mp (follows.status.symm.trans completed)
  obtain ⟨event, received, payload, succeeded⟩ := exists_success_of_completed alone filed ended
  rw [(file?_eq_some_iff.mp filed).2.2.2.2.1] at received
  obtain ⟨here, about⟩ := List.mem_filter.mp received
  obtain ⟨reservation, only, status, -⟩ := named event payload (.inr (.inr here)) succeeded
  rw [of_decide_eq_true about] at only
  obtain ⟨member, task⟩ := s.mem_of_reservationsOf_eq only
  refine ⟨order, row, reservation, known, ?_, only, status, (consistent.order reservation member).trans task⟩
  rw [← own, controlled.orderId, OrdersService.taskId_of_file filed]

/-- The process dies between the commit and the publication; the repeated request gets the stored answer,
which completes the order. -/
theorem services_agree_of_crash : ∃ s, (systemMachine .pilot ["SKU-001"]).Reachable s ∧
    ∃ task row reservation, s.service.db.task? task = some row ∧ row.orderId = 1 ∧
      s.reservationsOf task = [reservation] ∧ reservation.status = .reserved ∧ reservation.orderId = 1 := by
  obtain ⟨s, reachable, completed⟩ : ∃ s, (systemMachine .pilot ["SKU-001"]).Reachable s ∧
      ((s.service.db.order? 1).any fun order => order.status = .completed) = true :=
    Machine.exists_reachable_of_replay? (firstDispatchOfSystem ++
      [.reserve firstRequest ⟨20, 4⟩ none, .answer .inventoryPrimary (.died 0),
        .reserve firstRequest ⟨21, 5⟩ none, .answer .inventoryPrimary .done,
        .consume (.inventoryEvent { firstReply 20 (.succeeded ⟨1, .primary⟩) with publishedAt := 4 }) true
          ⟨30, 6⟩ .done]) (by decide +kernel)
  obtain ⟨placed, found, status⟩ := (Option.any_eq_true _ _).mp completed
  exact ⟨s, reachable, (services_agree reachable).2.2.1 1 placed found (of_decide_eq_true status)⟩

end OrchLab
