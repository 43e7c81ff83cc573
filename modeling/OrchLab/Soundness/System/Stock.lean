import OrchLab.Soundness.System.Items
import OrchLab.Soundness.System.Reservations

/-! # What the stock decides

The catalog of the inventory never changes, and it alone tells an order that can be reserved from one that cannot.
An order with an unknown item is never reserved and never completed, whatever is injected, repeated or decided; and
an order of known items is never answered with invalid data, as long as what is injected are transient errors.
-/

namespace OrchLab

/-- The stock has every item of the list. -/
def InventoryDb.Stocks (db : InventoryDb) (items : List OrderItem) : Prop := ∀ item ∈ items, item.sku ∈ db.stock

/-- The answer finds fault with the data of the request. -/
def MessageEnvelope.Refuses (reply : MessageEnvelope) : Prop :=
  ∃ order route, reply.payload = .failed ⟨order, route, .invalidData⟩

namespace InventoryDb

variable {db db' : InventoryDb} {request reply : MessageEnvelope} {draw : Draw} {injected : Option FailureReason}
  {outcome : RequestOutcome}

theorem unknownSkus_eq_nil_iff {items : List OrderItem} :
    db.unknownSkus (items.map OrderItem.sku) = [] ↔ db.Stocks items := by
  simp [unknownSkus, Stocks, List.filter_eq_nil_iff]

/-- A request that was not answered before gets the answer `_reserve` chooses. -/
private theorem chosen_of_ok {payload : ReservationRequestPayload} (asked : request.payload = .requested payload)
    (fresh : db.findProcessedMessage request.messageId = none)
    (success : db.processReservationRequest request draw injected = .ok (db', outcome, reply)) :
    db'.stock = db.stock ∧ reply = replyTo request draw (db.choose request payload injected).2.2 := by
  simp only [processReservationRequest, asked, fresh, reserve] at success
  have stored : ∀ (middle : InventoryDb) {result : ProcessingResult} {made : RequestOutcome} {answer : MessageEnvelope},
      middle.stock = db.stock → (middle.insertProcessedMessage request result answer draw.now).map (·, made, answer) =
        .ok (db', outcome, reply) → db'.stock = db.stock ∧ reply = answer := by
    intro middle result made answer same inserted
    rw [insertProcessedMessage] at inserted
    split at inserted
    · cases inserted
    · cases inserted
      exact ⟨same, rfl⟩
  split_ifs at success with valid made
  · rw [insertReservation] at success
    cases inserted : db.reservations.insert? ⟨request.taskId, payload.orderId, .reserved, routeName request.target,
        canonicalJson payload.items, draw.now⟩ with
    | none => simp [inserted] at success
    | some reservations =>
      simp only [inserted] at success
      exact stored { db with reservations } rfl success
  · exact stored _ rfl success

/-- What `_reserve` chooses: stock for what it knows, a complaint for what it does not. -/
private theorem choose_spec (db : InventoryDb) (request : MessageEnvelope) (injected : Option FailureReason)
    (payload : ReservationRequestPayload) :
    (db.findReservation request.taskId = none → ∀ answer, (db.choose request payload injected).2.2 = .succeeded answer →
      db.Stocks payload.items) ∧
    ∀ order route, (db.choose request payload injected).2.2 = .failed ⟨order, route, .invalidData⟩ →
      injected = some .invalidData ∨ ¬db.Stocks payload.items := by
  cases injected with
  | some reason =>
    refine ⟨fun _ answer => by rintro ⟨⟩, fun order route is => .inl ?_⟩
    obtain ⟨-, -, rfl⟩ : payload.orderId = order ∧ routeName request.target = route ∧ reason = .invalidData := by
      simpa [choose] using is
    rfl
  | none =>
    cases found : db.findReservation request.taskId with
    | some existing =>
      simp only [choose, found]
      exact ⟨by rintro ⟨⟩, fun order route => by rintro ⟨⟩⟩
    | none =>
      simp only [choose, found]
      split_ifs with unknown
      · rw [← unknownSkus_eq_nil_iff]
        exact ⟨fun _ answer => by rintro ⟨⟩, fun order route _ => .inr unknown⟩
      · rw [not_not, unknownSkus_eq_nil_iff] at unknown
        exact ⟨fun _ _ _ => unknown, fun order route => by rintro ⟨⟩⟩

/-- What a request leaves: the stock, reservations of known items, and complaints about unknown ones. -/
theorem stocks_of_ok (success : db.processReservationRequest request draw injected = .ok (db', outcome, reply)) :
    db'.stock = db.stock ∧
    (∀ row ∈ db'.reservations.rows, row ∈ db.reservations.rows ∨ row.taskId = request.taskId ∧
      ∃ payload, request.payload = .requested payload ∧ db.Stocks payload.items) ∧
    ∀ row ∈ db'.processedMessages.rows, row ∈ db.processedMessages.rows ∨ row.response.taskId = request.taskId ∧
      (row.response.Refuses → injected = some .invalidData ∨
        ∃ payload, request.payload = .requested payload ∧ ¬db.Stocks payload.items) := by
  have processed := processed_of_ok success
  obtain ⟨payload, asked⟩ : ∃ payload, request.payload = .requested payload := by
    rw [processReservationRequest] at success
    split at success
    · next payload asked => exact ⟨payload, asked⟩
    · cases success
  have chosen := fun fresh => chosen_of_ok asked fresh success
  obtain ⟨reserves, refuses⟩ := choose_spec db request injected payload
  have complains : ∀ {answer : MessagePayload}, reply = replyTo request draw answer →
      db.findProcessedMessage request.messageId = none → (replyTo request draw answer).Refuses →
        injected = some .invalidData ∨ ∃ payload, request.payload = .requested payload ∧ ¬db.Stocks payload.items := by
    rintro answer is fresh ⟨order, route, failed⟩
    have same := congrArg MessageEnvelope.payload (is.symm.trans (chosen fresh).2)
    exact (refuses order route (same.symm.trans failed)).imp_right fun unknown => ⟨payload, asked, unknown⟩
  have answered : ∀ {result : ProcessingResult} {answer : MessagePayload} {reservation : Option Reservation},
      reply = replyTo request draw answer →
        Stored db db' request draw result (replyTo request draw answer) reservation →
          ∀ row ∈ db'.processedMessages.rows, row ∈ db.processedMessages.rows ∨ row.response.taskId = request.taskId ∧
            (row.response.Refuses → injected = some .invalidData ∨
              ∃ payload, request.payload = .requested payload ∧ ¬db.Stocks payload.items) := by
    intro result answer reservation is stored row member
    rw [stored.messages] at member
    refine (List.mem_append.mp member).imp_right fun new => ?_
    obtain rfl := List.mem_singleton.mp new
    exact ⟨rfl, complains is stored.fresh⟩
  cases processed with
  | again previous found => exact ⟨rfl, fun row member => .inl member, fun row member => .inl member⟩
  | failed _ payload' stored =>
    exact ⟨(chosen stored.fresh).1, fun row member => .inl (stored.same ▸ member), answered rfl stored⟩
  | existing _ row found stored =>
    exact ⟨(chosen stored.fresh).1, fun row member => .inl (stored.same ▸ member), answered rfl stored⟩
  | reserved _ payload' asked' absent stored =>
    obtain ⟨stock, is⟩ := chosen stored.fresh
    refine ⟨stock, fun row member => ?_, answered rfl stored⟩
    rw [stored.reservations] at member
    refine (List.mem_append.mp member).imp_right fun new => ?_
    obtain rfl := List.mem_singleton.mp new
    have free : db.findReservation request.taskId = none := by rw [findReservation, absent, Option.filter_none]
    exact ⟨rfl, payload, asked, reserves free _ (congrArg MessageEnvelope.payload is).symm⟩

end InventoryDb

/-- The reservations and the complaints of the inventory are about what was asked for. -/
structure System.StockDecides (s : System) (stock : List String) : Prop where
  catalog : s.inventory.stock = stock
  reservations : ∀ row ∈ s.inventory.reservations.rows, ∃ request ∈ s.service.requests,
    row.taskId = request.taskId ∧ ∃ payload, request.payload = .requested payload ∧
      ∀ item ∈ payload.items, item.sku ∈ stock

/-- Nothing but transient errors is injected, as `before_reservation` does. -/
def SystemLabel.injectsTransient : SystemLabel → Prop
  | .reserve _ _ injected => injected ≠ some .invalidData
  | _ => True

theorem reachable_stockDecides {deployment : Deployment} {stock : List String} {s : System}
    (reachable : (systemMachine deployment stock).Reachable s) : s.StockDecides stock := by
  refine Machine.Reachable.invariant (P := (System.StockDecides · stock)) ?_ ?_ reachable
  · exact ⟨rfl, by rintro row ⟨⟩⟩
  · intro s label t earlier decides _ step
    have moved := system_step_cases step
    have kept : s.service.requests ⊆ t.service.requests := List.filterMap_subset _ moved.sent_subset
    have still : t.inventory = s.inventory → t.StockDecides stock := by
      intro same
      refine ⟨same ▸ decides.catalog, fun row member => ?_⟩
      obtain ⟨request, asked, about⟩ := decides.reservations row (same ▸ member)
      exact ⟨request, kept asked, about⟩
    cases moved with
    | created | rejected | opened | built | lettered | repeatedEvent | repeatedRequest | refused => exact still rfl
    | handled | unbuilt | decided | undecided | unresolved | stopped | answered => exact still (by simp)
    | reserved request draw injected inventory outcome reply present idle success =>
      obtain ⟨catalog, reservations, -⟩ := InventoryDb.stocks_of_ok success
      refine ⟨catalog.trans decides.catalog, fun row member => ?_⟩
      rcases reservations row member with old | ⟨own, payload, asked, stocks⟩
      · exact decides.reservations row old
      · have sent := Network.requests_of_publish ((reachable_network earlier).1.requests request present)
        exact ⟨request.envelope, sent, own, payload, asked, decides.catalog ▸ stocks⟩

/-- Along a run that injects transient errors only, a complaint is about an unknown item. -/
theorem refuses_of_run {deployment : Deployment} {stock : List String} {moments : List (System × SystemLabel)}
    {s : System} (run : (systemMachine deployment stock).Run moments s)
    (transient : ∀ moment ∈ moments, moment.2.injectsTransient) :
    ∀ row ∈ s.inventory.processedMessages.rows, row.response.Refuses → ∃ request ∈ s.service.requests,
      row.response.taskId = request.taskId ∧ ∃ payload, request.payload = .requested payload ∧
        ¬∀ item ∈ payload.items, item.sku ∈ stock := by
  induction run with
  | nil => rintro row ⟨⟩
  | @snoc moments s t label before offered step ih =>
    have earlier := ih fun moment member => transient moment (List.mem_append_left _ member)
    have moved := system_step_cases step
    have kept : s.service.requests ⊆ t.service.requests := List.filterMap_subset _ moved.sent_subset
    intro row member refuses
    have old : row ∈ s.inventory.processedMessages.rows → ∃ request ∈ t.service.requests,
        row.response.taskId = request.taskId ∧ ∃ payload, request.payload = .requested payload ∧
          ¬∀ item ∈ payload.items, item.sku ∈ stock := by
      intro here
      obtain ⟨request, asked, about⟩ := earlier row here refuses
      exact ⟨request, kept asked, about⟩
    cases moved with
    | created | rejected | opened | built | lettered | repeatedEvent | repeatedRequest | refused => exact old member
    | handled | unbuilt | decided | undecided | unresolved | stopped | answered => exact old (by simpa using member)
    | reserved request draw injected inventory outcome reply present idle success =>
      obtain ⟨-, -, messages⟩ := InventoryDb.stocks_of_ok success
      rcases messages row member with here | ⟨own, complains⟩
      · exact old here
      · obtain ⟨payload, asked, unknown⟩ := (complains refuses).resolve_left
          (transient (s, _) (List.mem_append_right _ (List.mem_singleton_self _)))
        have sent := Network.requests_of_publish ((reachable_network before.reachable).1.requests request present)
        rw [InventoryDb.Stocks, (reachable_stockDecides before.reachable).catalog] at unknown
        exact ⟨request.envelope, sent, own, payload, asked, unknown⟩

/-! ## Accepted orders -/

section Accepted

variable {deployment : Deployment} {stock : List String} {moments : List (System × SystemLabel)} {s before : System}
  {body : CreateOrderRequest} {now : Timestamp} (pattern : isExecutionId deployment.executionId = true)
  (run : (systemMachine deployment stock).Run moments s) (accepted : (before, .createOrder body now) ∈ moments)
include pattern run accepted

/-- A request of an accepted order asks for the items of its body. -/
theorem items_of_requested {request : MessageEnvelope} (asked : request ∈ s.service.requests)
    (own : request.taskId = before.service.db.nextOrderNumber) {payload : ReservationRequestPayload}
    (is : request.payload = .requested payload) : payload.items = body.items := by
  have alone := (reachable_network run.reachable).2
  obtain ⟨file, found, carries⟩ := carries_of_run pattern run accepted
  have member : request ∈ file.requests := by
    rw [OrdersService.requests_of_file found]
    exact List.mem_filter.mpr ⟨asked, decide_eq_true own⟩
  have same := (carries.requests request member).2
  rw [is] at same
  cases same
  rfl

/-- With an unknown item there is never a reservation. -/
theorem unreserved_of_unknown (unknown : ∃ item ∈ body.items, item.sku ∉ stock) :
    s.reservationsOf before.service.db.nextOrderNumber = [] := by
  obtain ⟨item, ordered, unknown⟩ := unknown
  refine List.filter_eq_nil_iff.mpr fun row member own => ?_
  obtain ⟨request, asked, task, payload, is, known⟩ :=
    (reachable_stockDecides run.reachable).reservations row member
  have items := items_of_requested pattern run accepted asked (task.symm.trans (of_decide_eq_true own)) is
  exact unknown (known item (items ▸ ordered))

/-- With an unknown item the order is never completed, because its success would name a reservation. -/
theorem uncompleted_of_unknown (unknown : ∃ item ∈ body.items, item.sku ∉ stock) {placed : OrderRow}
    (stored : s.service.db.order? before.service.db.nextOrderNumber = some placed) : placed.status ≠ .completed := by
  intro completed
  obtain ⟨network, alone⟩ := reachable_network run.reachable
  obtain ⟨file, found, -⟩ := carries_of_run pattern run accepted
  obtain ⟨follower, ordered, follows⟩ := (reachable_controlled alone found).order
  have ended : file.row.status = .completed := by
    rw [(file?_eq_some_iff.mp found).2.1, stored] at ordered
    cases ordered
    exact orderStatusFor_eq_completed.mp (follows.status.symm.trans completed)
  obtain ⟨event, received, payload, succeeded⟩ := exists_success_of_completed alone found ended
  rw [(file?_eq_some_iff.mp found).2.2.2.2.1] at received
  obtain ⟨here, about⟩ := List.mem_filter.mp received
  obtain ⟨message, answered, rfl⟩ := List.mem_map.mp (network.received event here)
  obtain ⟨row, member, task, -⟩ := (reachable_consistent run.reachable).named message answered payload succeeded
  have own : row ∈ s.reservationsOf before.service.db.nextOrderNumber :=
    List.mem_filter.mpr ⟨member, decide_eq_true (task.trans (of_decide_eq_true about))⟩
  rw [unreserved_of_unknown pattern run accepted unknown] at own
  cases own

/-- With known items no answer complains, as long as only transient errors are injected. -/
theorem not_refuses_of_known (known : ∀ item ∈ body.items, item.sku ∈ stock)
    (transient : ∀ moment ∈ moments, moment.2.injectsTransient) {event : MessageEnvelope} (reports : s.reports event)
    (own : event.taskId = before.service.db.nextOrderNumber) : ¬event.Refuses := by
  intro refuses
  have network := (reachable_network run.reachable).1
  obtain ⟨message, answered, rfl⟩ := List.mem_map.mp (network.mem_responses_of_reports reports)
  obtain ⟨request, asked, task, payload, is, unknown⟩ := refuses_of_run run transient message answered refuses
  have items := items_of_requested pattern run accepted asked (task.symm.trans own) is
  exact unknown fun item ordered => known item (items ▸ ordered)

end Accepted

/-- Whether the stock has the items of an accepted order decides what becomes of it. With an unknown item there is
never a reservation for it and it is never completed; with known items no answer on its way or received complains
about its data, as long as only transient errors are injected. -/
theorem stock_decides {deployment : Deployment} {stock : List String} {moments : List (System × SystemLabel)}
    {s before : System} {body : CreateOrderRequest} {now : Timestamp}
    (pattern : isExecutionId deployment.executionId = true) (run : (systemMachine deployment stock).Run moments s)
    (accepted : (before, .createOrder body now) ∈ moments) :
    ((∃ item ∈ body.items, item.sku ∉ stock) → s.reservationsOf before.service.db.nextOrderNumber = [] ∧
      ∀ placed, s.service.db.order? before.service.db.nextOrderNumber = some placed → placed.status ≠ .completed) ∧
    ((∀ item ∈ body.items, item.sku ∈ stock) → (∀ moment ∈ moments, moment.2.injectsTransient) →
      ∀ event, s.reports event → event.taskId = before.service.db.nextOrderNumber → ¬event.Refuses) :=
  ⟨fun unknown => ⟨unreserved_of_unknown pattern run accepted unknown,
      fun _ => uncompleted_of_unknown pattern run accepted unknown⟩,
    fun known transient _ => not_refuses_of_known pattern run accepted known transient⟩

/-- The same order, dispatched and answered: without stock the answer complains about its data and nothing is
reserved; with stock the order is reserved. -/
theorem stock_decides_pilot :
    (∃ s, (systemMachine .pilot []).Reachable s ∧ s.responses.map (·.eventType) = [.stockReservationFailed] ∧
      s.reservationsOf 1 = [] ∧ ∀ placed, s.service.db.order? 1 = some placed → placed.status ≠ .completed) ∧
    ∃ s, (systemMachine .pilot ["SKU-001"]).Reachable s ∧
      s.responses.map (·.eventType) = [.stockReservationSucceeded] ∧
      ∀ event, s.reports event → event.taskId = 1 → ¬event.Refuses := by
  have pattern : isExecutionId Deployment.pilot.executionId = true := by decide
  constructor
  · obtain ⟨s, run, passes⟩ := Machine.exists_run_of_replay? (m := systemMachine .pilot [])
      (firstDispatchOfSystem ++ [.reserve firstRequest ⟨20, 4⟩ none])
      (p := fun s => s.responses.map (·.eventType) = [.stockReservationFailed]) (by decide +kernel)
    exact ⟨s, run.reachable, of_decide_eq_true passes, (stock_decides pattern run (List.mem_cons_self ..)).1
      ⟨_, List.mem_cons_self .., List.not_mem_nil⟩⟩
  · obtain ⟨s, run, passes⟩ := Machine.exists_run_of_replay? (m := systemMachine .pilot ["SKU-001"])
      (firstDispatchOfSystem ++ [.reserve firstRequest ⟨20, 4⟩ none])
      (p := fun s => s.responses.map (·.eventType) = [.stockReservationSucceeded]) (by decide +kernel)
    refine ⟨s, run.reachable, of_decide_eq_true passes, (stock_decides pattern run (List.mem_cons_self ..)).2
      (by decide) ?_⟩
    have labels : ∀ label ∈ firstDispatchOfSystem ++ [.reserve firstRequest ⟨20, 4⟩ none],
        label.injectsTransient := by
      simp [firstDispatchOfSystem, SystemLabel.injectsTransient]
    exact fun moment member => labels moment.2 (Machine.mem_of_mem_momentsOf member)

end OrchLab
