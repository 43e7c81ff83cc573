import OrchLab.Soundness.Orders.Items
import OrchLab.Soundness.Orders.Results
import OrchLab.Soundness.System.Network

/-! # Items across both services

The items of an order cross four representations: the body of the API, the canonical text of the order, the
payload of a request and the text of a reservation. What one validator accepts the next one accepts, and the
items are the same in all of them.
-/

namespace OrchLab

/-! ## Replies -/

/-- An answer is a valid envelope of a type the orders-service accepts. -/
def MessageEnvelope.Acceptable (reply : MessageEnvelope) : Prop :=
  reply.valid = true ∧ reply.eventType ∈ acceptedEvents

namespace Processed

variable {db db' : InventoryDb} {request reply : MessageEnvelope} {draw : Draw}

/-- Whatever is answered is acceptable when what was stored is. -/
theorem acceptable (processed : Processed db request draw db' reply)
    (stored : ∀ row ∈ db.processedMessages.rows, row.response.Acceptable) :
    reply.Acceptable ∧ ∀ row ∈ db'.processedMessages.rows, row.response.Acceptable := by
  have transcribes : ∀ {result : ProcessingResult} {reservation : Option Reservation} {answer : MessageEnvelope},
      Stored db db' request draw result answer reservation → answer.eventType ∈ acceptedEvents →
        answer.Acceptable ∧ ∀ row ∈ db'.processedMessages.rows, row.response.Acceptable := by
    intro result reservation answer adds type
    rw [adds.messages]
    simp only [List.forall_mem_append, List.forall_mem_singleton]
    exact ⟨⟨adds.valid, type⟩, stored, adds.valid, type⟩
  cases processed with
  | again previous found => exact ⟨stored previous (Table.find?_eq_some_iff.mp found).1, stored⟩
  | failed _ _ adds => exact transcribes adds (List.mem_cons_of_mem _ (List.mem_cons_self ..))
  | existing _ _ _ adds => exact transcribes adds (List.mem_cons_self ..)
  | reserved _ _ _ _ adds => exact transcribes adds (List.mem_cons_self ..)

/-- A new reservation has the text of the items that were asked for. -/
theorem itemsJson (processed : Processed db request draw db' reply) :
    ∀ row ∈ db'.reservations.rows, row ∈ db.reservations.rows ∨ row.taskId = request.taskId ∧
      ∃ payload, request.payload = .requested payload ∧ row.itemsJson = canonicalJson payload.items := by
  intro row member
  cases processed with
  | again => exact .inl member
  | failed _ _ stored => exact .inl (stored.same ▸ member)
  | existing _ _ _ stored => exact .inl (stored.same ▸ member)
  | reserved _ payload asked _ stored =>
    rw [stored.reservations] at member
    refine (List.mem_append.mp member).imp_right fun new => ?_
    obtain rfl := List.mem_singleton.mp new
    exact ⟨rfl, payload, asked, rfl⟩

end Processed

/-- The inventory changes by the transaction of a request that is in a queue. -/
theorem SystemStep.processed {deployment : Deployment} {s t : System} {label : SystemLabel}
    (step : SystemStep deployment s label t) : t.inventory = s.inventory ∨ ∃ request draw reply,
      request ∈ s.requests ∧ Processed s.inventory request.envelope draw t.inventory reply := by
  cases step with
  | created | rejected | opened | built | lettered | repeatedEvent | repeatedRequest | refused => exact .inl rfl
  | handled | unbuilt | decided | undecided | unresolved | stopped | answered => exact .inl (by simp)
  | reserved request draw injected inventory outcome reply present idle success =>
    exact .inr ⟨request, draw, reply, present, InventoryDb.processed_of_ok success⟩

/-- Stored answers are acceptable, and a reservation has the text of the items some request of its task asked for. -/
structure System.Transcribes (s : System) : Prop where
  responses : ∀ row ∈ s.inventory.processedMessages.rows, row.response.Acceptable
  reservations : ∀ row ∈ s.inventory.reservations.rows, ∃ request ∈ s.service.requests,
    row.taskId = request.taskId ∧
      ∃ payload, request.payload = .requested payload ∧ row.itemsJson = canonicalJson payload.items

theorem reachable_transcribes {deployment : Deployment} {stock : List String} {s : System}
    (reachable : (systemMachine deployment stock).Reachable s) : s.Transcribes := by
  refine Machine.Reachable.invariant (P := System.Transcribes) ?_ ?_ reachable
  · constructor <;> simp [systemMachine, System.initial, InventoryDb.initial]
  · intro s label t earlier transcribes _ step
    have moved := system_step_cases step
    have kept : s.service.requests ⊆ t.service.requests := List.filterMap_subset _ moved.sent_subset
    have earlierRows : ∀ row ∈ s.inventory.reservations.rows, ∃ request ∈ t.service.requests,
        row.taskId = request.taskId ∧ ∃ payload, request.payload = .requested payload ∧
          row.itemsJson = canonicalJson payload.items := fun row member =>
      let ⟨request, asked, copies⟩ := transcribes.reservations row member
      ⟨request, kept asked, copies⟩
    rcases moved.processed with same | ⟨request, draw, reply, queued, processed⟩
    · constructor
      · rw [same]
        exact transcribes.responses
      · rw [same]
        exact earlierRows
    · constructor
      · exact (processed.acceptable transcribes.responses).2
      · intro row member
        rcases processed.itemsJson row member with old | ⟨task, copies⟩
        · exact earlierRows row old
        · have asked := Network.requests_of_publish ((reachable_network earlier).1.requests request queued)
          exact ⟨request.envelope, kept asked, task, copies⟩

/-! ## The path of an order -/

/-- A step of the system keeps the items of a task. -/
theorem System.carries_step {deployment : Deployment} {stock : List String} {s t : System} {label : SystemLabel}
    {number : TaskId} {body : CreateOrderRequest} (pattern : isExecutionId deployment.executionId = true)
    (reachable : (systemMachine deployment stock).Reachable s)
    (carries : ∃ file, s.service.file? number = some file ∧ file.Carries body.items)
    (offered : (systemMachine deployment stock).admissible s label)
    (step : (systemMachine deployment stock).step s label = some t) :
    ∃ file, t.service.file? number = some file ∧ file.Carries body.items := by
  obtain ⟨network, alone⟩ := reachable_network reachable
  obtain ⟨file, found, carries⟩ := carries
  have moved := system_step_cases step
  rcases moved.service with ⟨-, same⟩ | ⟨own, is, stepped⟩
  · rw [same]
    exact ⟨file, found, carries⟩
  · obtain ⟨file', found', moves⟩ := exists_file_of_step alone (network.admissible offered moved is) stepped found
    exact ⟨file', found', carries.step pattern alone found moves⟩

/-- The order of an accepted body carries its items from then on. -/
theorem carries_of_run {deployment : Deployment} {stock : List String} {moments : List (System × SystemLabel)}
    {s before : System} {body : CreateOrderRequest} {now : Timestamp}
    (pattern : isExecutionId deployment.executionId = true) (run : (systemMachine deployment stock).Run moments s)
    (accepted : (before, .createOrder body now) ∈ moments) :
    ∃ file, s.service.file? before.service.db.nextOrderNumber = some file ∧ file.Carries body.items := by
  refine run.of_step_stable (P := fun s => ∃ file, s.service.file? before.service.db.nextOrderNumber = some file ∧
    file.Carries body.items) ?_ accepted ?_
  · intro s label t reachable carries offered step
    exact System.carries_step pattern reachable carries offered step
  · intro t step
    obtain rfl := Option.some_inj.mp step
    have alone := (reachable_network (run.reachable_of_mem accepted)).2
    have creates := createOrder_succeeds alone body now
    have stored := creates.task? before.service.db.nextOrderNumber
    rw [if_pos rfl] at stored
    obtain ⟨file, found, -⟩ := file?_of_task? stored
    have stepped : (ordersMachine deployment).step before.service (.createOrder body now) =
        some (before.service.createOrder deployment body now) := rfl
    have offered : (ordersMachine deployment).admissible before.service (.createOrder body now) := trivial
    rcases step_file alone offered stepped found with ⟨request, now', label, -, rfl⟩ | ⟨file', found', -⟩
    · cases label
      exact ⟨_, found, .created ..⟩
    · have known := (file?_eq_some_iff.mp found').1
      rw [creates.absent] at known
      cases known

/-- An accepted body is the order with the next number, and whatever is asked for it later, by any dispatch,
retry or fallback: the inventory parses the request, which names the order and lists the items of the body in
their order; the orders-service parses every reply; and a reservation has the text of the order. -/
theorem items_survive {deployment : Deployment} {stock : List String} {moments : List (System × SystemLabel)}
    {s before : System} {body : CreateOrderRequest} {now : Timestamp}
    (pattern : isExecutionId deployment.executionId = true) (run : (systemMachine deployment stock).Run moments s)
    (accepted : (before, .createOrder body now) ∈ moments) :
    ∃ placed, s.service.db.order? before.service.db.nextOrderNumber = some placed ∧
      placed.itemsJson = canonicalJson body.items ∧
      (∀ request ∈ s.service.requests, request.taskId = before.service.db.nextOrderNumber →
        parseMessage request.modelDump [.stockReservationRequested] = .ok request ∧
        request.payload = .requested ⟨before.service.db.nextOrderNumber, body.items⟩ ∧
        ∀ draw injected db outcome reply,
          s.inventory.processReservationRequest request draw injected = .ok (db, outcome, reply) →
            parseMessage reply.modelDump acceptedEvents = .ok reply) ∧
      ∀ reservation ∈ s.inventory.reservations.rows,
        reservation.taskId = before.service.db.nextOrderNumber → reservation.itemsJson = placed.itemsJson := by
  have reachable := run.reachable
  have alone := (reachable_network reachable).2
  have transcribes := reachable_transcribes reachable
  obtain ⟨file, found, carries⟩ := carries_of_run pattern run accepted
  obtain ⟨-, order, -⟩ := file?_eq_some_iff.mp found
  obtain ⟨placed, stored, text⟩ := Option.map_eq_some_iff.mp carries.order
  have asks : ∀ request ∈ s.service.requests, request.taskId = before.service.db.nextOrderNumber →
      request.valid = true ∧ request.payload = .requested ⟨before.service.db.nextOrderNumber, body.items⟩ := by
    intro request asked own
    have number : file.row.orderId = before.service.db.nextOrderNumber :=
      (reachable_controlled alone found).orderId.trans (OrdersService.taskId_of_file found)
    rw [← number]
    apply carries.requests
    rw [OrdersService.requests_of_file found]
    exact List.mem_filter.mpr ⟨asked, decide_eq_true own⟩
  refine ⟨placed, order ▸ stored, text, fun request asked own => ?_, fun reservation member own => ?_⟩
  · obtain ⟨valid, payload⟩ := asks request asked own
    refine ⟨parseMessage_modelDump.mpr ⟨valid, ?_⟩, payload, fun draw injected db outcome reply success => ?_⟩
    · rw [MessageEnvelope.eventType, payload]
      exact List.mem_cons_self ..
    · exact parseMessage_modelDump.mpr ((InventoryDb.processed_of_ok success).acceptable transcribes.responses).1
  · obtain ⟨request, asked, task, payload, is, copies⟩ := transcribes.reservations reservation member
    have same := (asks request asked (task.symm.trans own)).2
    rw [is] at same
    cases same
    rw [copies, text]

/-- An order of two items, with a quote in the text of one. -/
def pairOfItems : CreateOrderRequest := ⟨[⟨"SKU-002", 3⟩, ⟨"SKU-\"001\"", 1⟩], by decide, by decide⟩

/-- The request of its first dispatch. -/
def requestOfPair : RoutedRequest := ⟨firstReply 10 (.requested ⟨1, pairOfItems.items⟩), .inventoryPrimary⟩

/-- An order of two items is dispatched and reserved with them in their order. -/
theorem items_survive_pilot : ∃ s, (systemMachine .pilot ["SKU-\"001\"", "SKU-002"]).Reachable s ∧
    (∃ request ∈ s.service.requests, parseMessage request.modelDump [.stockReservationRequested] = .ok request ∧
      request.payload = .requested ⟨1, [⟨"SKU-002", 3⟩, ⟨"SKU-\"001\"", 1⟩]⟩) ∧
    ∃ reservation ∈ s.inventory.reservations.rows,
      reservation.itemsJson = canonicalJson [⟨"SKU-002", 3⟩, ⟨"SKU-\"001\"", 1⟩] := by
  obtain ⟨s, run, passes⟩ := Machine.exists_run_of_replay? (m := systemMachine .pilot ["SKU-\"001\"", "SKU-002"])
    [.createOrder pairOfItems 0, .build (.api 1) (.calm 1 1),
      .decide (.api 1) (.proposing .continueFlow (some .inventoryPrimary) .normalFlow) 1 ⟨10, 3⟩ .done,
      .reserve requestOfPair ⟨20, 4⟩ none]
    (p := fun s => s.service.requests = [requestOfPair.envelope] ∧
      s.inventory.reservations.rows.map (·.taskId) = [1]) (by decide +kernel)
  obtain ⟨requests, reserved⟩ := of_decide_eq_true passes
  have pattern : isExecutionId Deployment.pilot.executionId = true := by decide
  obtain ⟨placed, -, text, asks, copies⟩ := items_survive pattern run (List.mem_cons_self ..)
  obtain ⟨parsed, payload, -⟩ := asks requestOfPair.envelope (requests ▸ List.mem_singleton_self _) rfl
  obtain ⟨reservation, member, task⟩ := List.mem_map.mp (reserved ▸ List.mem_singleton_self 1)
  exact ⟨s, run.reachable, ⟨requestOfPair.envelope, requests ▸ List.mem_singleton_self _, parsed, payload⟩,
    reservation, member, (copies reservation member task).trans text⟩

end OrchLab
