import OrchLab.Soundness.Inventory.Answers
import OrchLab.Soundness.System.Steps
import OrchLab.Soundness.Orders.Ledger

/-! # What is in flight

Whatever a queue or a process holds has a source: an internal message was scheduled, a request was
published, and a reply is one the inventory has stored for a request. So the network keeps what the
orders-service is promised about its deliveries, and the orders-service within the system is the
orders-service on its own.
-/

namespace OrchLab

/-! ## One answer of the inventory -/

/-- The rows a new answer leaves. -/
structure Stores (db db' : InventoryDb) (request reply : MessageEnvelope) : Prop where
  fresh : ∀ row ∈ db.processedMessages.rows, row.messageId ≠ request.messageId
  rows : ∃ row, db'.processedMessages.rows = db.processedMessages.rows ++ [row] ∧
    row.messageId = request.messageId ∧ row.response = reply

/-- What a request can get: the stored answer, a failure, or a reservation that exists or is made now. -/
inductive Replies (db : InventoryDb) (request : MessageEnvelope) (draw : Draw) :
    InventoryDb → MessageEnvelope → Prop
  | again (previous : ProcessedMessage) (member : previous ∈ db.processedMessages.rows)
      (same : previous.messageId = request.messageId) : Replies db request draw db previous.response
  | failed (db' : InventoryDb) (payload : ReservationFailedPayload)
      (stores : Stores db db' request (replyTo request draw (.failed payload)))
      (reservations : db'.reservations = db.reservations) :
      Replies db request draw db' (replyTo request draw (.failed payload))
  | existing (db' : InventoryDb) (row : Reservation)
      (found : db.findReservation request.taskId = some row)
      (stores : Stores db db' request (replyTo request draw (.succeeded ⟨row.orderId, row.route⟩)))
      (reservations : db'.reservations = db.reservations) :
      Replies db request draw db' (replyTo request draw (.succeeded ⟨row.orderId, row.route⟩))
  | reserved (db' : InventoryDb) (payload : ReservationRequestPayload) (row : Reservation)
      (asked : request.payload = .requested payload) (status : row.status = .reserved)
      (task : row.taskId = request.taskId) (order : row.orderId = payload.orderId)
      (stores : Stores db db' request (replyTo request draw (.succeeded ⟨row.orderId, row.route⟩)))
      (absent : db.reservations.find? request.taskId = none)
      (reservations : db'.reservations.rows = db.reservations.rows ++ [row]) :
      Replies db request draw db' (replyTo request draw (.succeeded ⟨row.orderId, row.route⟩))

namespace Replies

variable {db db' : InventoryDb} {request reply : MessageEnvelope} {draw : Draw}

/-- A reply was stored before, or is stored now under a new identifier. -/
theorem stored_or_stores (replies : Replies db request draw db' reply) :
    (db' = db ∧ ∃ row ∈ db.processedMessages.rows, row.messageId = request.messageId ∧ row.response = reply) ∨
      Stores db db' request reply ∧ ∃ payload : MessagePayload,
        payload.eventType ≠ .stockReservationRequested ∧ reply = replyTo request draw payload := by
  cases replies with
  | again previous member same => exact .inl ⟨rfl, previous, member, same, rfl⟩
  | failed _ _ stores | existing _ _ _ stores | reserved _ _ _ _ _ _ _ stores =>
    exact .inr ⟨stores, _, by simp [MessagePayload.eventType], rfl⟩

end Replies

theorem Stored.stores {db db' : InventoryDb} {request reply : MessageEnvelope} {draw : Draw}
    {result : ProcessingResult} {reservation : Option Reservation}
    (stored : Stored db db' request draw result reply reservation) : Stores db db' request reply :=
  ⟨Table.find?_eq_none_iff.mp stored.fresh, _, stored.messages, rfl, rfl⟩

namespace InventoryDb

variable {db db' : InventoryDb} {request reply : MessageEnvelope} {draw : Draw}

/-- The transaction of `process_reservation_request` answers. -/
theorem processReservationRequest_eq_ok {injected : Option FailureReason} {outcome : RequestOutcome}
    (success : db.processReservationRequest request draw injected = .ok (db', outcome, reply)) :
    Replies db request draw db' reply := by
  cases processed_of_ok success with
  | again previous found =>
    obtain ⟨member, same⟩ := Table.find?_eq_some_iff.mp found
    exact .again previous member same
  | failed _ payload stored => exact .failed db' payload stored.stores stored.same
  | existing _ row found stored => exact .existing db' row found stored.stores stored.same
  | reserved _ payload asked absent stored =>
    exact .reserved db' payload (reservationFor request payload draw) asked rfl rfl rfl stored.stores absent
      stored.reservations

end InventoryDb

/-! ## What the orders-service adds -/

/-- The identifier a step may give to a request. -/
def OrdersLabel.drawn? : OrdersLabel → Option MessageId
  | .consume _ _ draw | .decide _ _ _ draw => some draw.messageId
  | _ => none

/-- A step sends more, and what it asks carries the identifier it has drawn. -/
theorem Step.sent {deployment : Deployment} {s t : OrdersService} {label : OrdersLabel}
    (step : Step deployment s label t) :
    ∃ added, t.sent = s.sent ++ added ∧
      ∀ request ∈ added.filterMap Effect.request?, label.drawn? = some request.messageId := by
  have drawn : ∀ {draw : Draw} {row row' : TaskRow} {cause : Cause} {columns : List EventColumns}
      {effects : List Effect} {opens : Bool},
      Move deployment.config s.db draw row cause row' columns effects opens →
        ∀ request ∈ effects.filterMap Effect.request?, some draw.messageId = some request.messageId := by
    intro draw row row' cause columns effects opens move request member
    rcases move.requests with none | ⟨only, one, same, -⟩
    · rw [none] at member
      cases member
    · rw [one] at member
      obtain rfl := List.mem_singleton.mp member
      rw [same]
  cases step with
  | created | uncreated | ignored | unconsumed | built | unbuilt | declined | unresolved | raised | lettered | unlettered =>
    exact ⟨[], (List.append_nil _).symm, by simp⟩
  | consumed message redelivered draw db row row' columns effects opens idle task move =>
    exact ⟨effects, rfl, drawn move⟩
  | decided owner output decisionId draw state decision db row row' columns effects built task resolved
      approved move => exact ⟨effects, rfl, drawn move⟩

theorem Step.received {deployment : Deployment} {s t : OrdersService} {label : OrdersLabel}
    (step : Step deployment s label t) : ∀ event ∈ t.received, event ∈ s.received ∨
      ∃ redelivered draw, label = .consume (.inventoryEvent event) redelivered draw := by
  have receives : ∀ message redelivered draw, ∀ event ∈ s.receive message, event ∈ s.received ∨
      ∃ again other, OrdersLabel.consume message redelivered draw =
        .consume (.inventoryEvent event) again other := by
    intro message redelivered draw event member
    rw [receive_eq] at member
    refine (List.mem_append.mp member).imp_right fun new => ?_
    cases message with
    | inventoryEvent only =>
      obtain rfl := List.mem_singleton.mp new
      exact ⟨redelivered, draw, rfl⟩
    | timeoutCheck | dispatchAttempt | reevaluate => cases new
  cases step with
  | created | uncreated | unconsumed | built | unbuilt | declined | decided | unresolved | raised | lettered | unlettered =>
    exact fun event member => .inl member
  | consumed message redelivered draw | ignored message redelivered draw =>
    exact receives message redelivered draw

namespace OrdersService

variable {deployment : Deployment} {s : OrdersService} {message : OrdersMessage} {redelivered : Bool}
  {draw : Draw} {handled : Handled}

theorem decide_of_ok {owner : DecisionOwner} {state : SystemState} {output : EngineOutput}
    {decisionId : DecisionId} {decision : Decision} {db : OrdersDb} {result : ExecutionResult}
    {effects : List Effect} (resolved : deployment.validator.decision? state output = some decision)
    (success : s.db.execute deployment.config state.taskId decisionId draw decision = .ok (db, result, effects)) :
    s.decide deployment owner state output decisionId draw =
      { s with
          db, executed := s.executed ++ [Execution.of state decision decisionId]
          sent := s.sent ++ effects }.setPoint owner .closed := by
  simp only [decide, resolved, success]

theorem decide_of_error {owner : DecisionOwner} {state : SystemState} {output : EngineOutput}
    {decisionId : DecisionId} {decision : Decision} {error : OrdersError}
    (resolved : deployment.validator.decision? state output = some decision)
    (failed : s.db.execute deployment.config state.taskId decisionId draw decision = .error error) :
    s.decide deployment owner state output decisionId draw =
      { s with executed := s.executed ++ [Execution.of state decision decisionId] }.setPoint owner .closed := by
  simp only [decide, resolved, failed]

end OrdersService

/-! ## What a step puts in flight -/

namespace System

/-- The queue of the orders-service or its worker has the message. -/
def carries (s : System) (message : OrdersMessage) : Prop :=
  message ∈ s.events ∨ s.holding = some message

variable {s : System} {message other : OrdersMessage} {effects : List Effect} {ending : Ending}

theorem carries_finish (carried : (s.finish other ending).carries message) :
    s.carries message ∨ message = other := by
  rcases carried with queued | held
  · cases ending with
    | done | raised => exact .inl (.inl queued)
    | died =>
      rcases List.mem_append.mp queued with old | new
      · exact .inl (.inl old)
      · exact .inr (List.mem_singleton.mp new)
  · rw [finish_holding] at held
    exact .inl (.inr held)

theorem carries_leave {owner : DecisionOwner} (carried : (s.leave owner ending).carries message) :
    s.carries message := by
  cases owner with
  | api => exact carried
  | worker =>
    cases held : s.holding with
    | none => simpa only [leave, held] using carried
    | some own =>
      simp only [leave, held] at carried
      rcases carries_finish carried with (queued | none) | rfl
      · exact .inl queued
      · cases none
      · exact .inr held

theorem carries_emit (carried : (s.emit effects).carries message) :
    s.carries message ∨ message ∈ effects.filterMap Effect.message? := by
  rcases carried with queued | held
  · rw [emit_events] at queued
    exact (List.mem_append.mp queued).imp_left .inl
  · exact .inl (.inr held)

theorem not_inventoryEvent_of_scheduled {service : OrdersService} (scheduled : message ∈ service.scheduled)
    (event : MessageEnvelope) : message ≠ .inventoryEvent event := by
  rintro rfl
  obtain ⟨effect, -, is⟩ := List.mem_filterMap.mp scheduled
  cases effect <;> simp [Effect.message?] at is

end System

namespace SystemStep

variable {deployment : Deployment} {s t : System} {label : SystemLabel}

/-- A message in flight was in flight before, has been scheduled, or is a reply being published. -/
theorem carries (step : SystemStep deployment s label t) {message : OrdersMessage}
    (carried : t.carries message) : s.carries message ∨ message ∈ t.service.scheduled ∨
      ∃ route answer, s.answering route = some answer ∧ message = .inventoryEvent answer.reply := by
  cases step with
  | created | built | lettered | repeatedRequest | refused | reserved => exact .inl carried
  | rejected => exact .inl (carried.imp_left List.mem_of_mem_erase)
  | opened taken redelivered draw ending handled idle present =>
    rcases carried with queued | held
    · exact .inl (.inl (List.mem_of_mem_erase queued))
    · obtain rfl := Option.some.inj held
      exact .inl (.inl present)
  | handled taken redelivered draw ending handled idle present success =>
    rcases System.carries_finish carried with carried | rfl
    · rcases System.carries_emit carried with (queued | held) | new
      · exact .inl (.inl (List.mem_of_mem_erase queued))
      · exact .inl (.inr held)
      · obtain ⟨effect, performed, is⟩ := List.mem_filterMap.mp new
        refine .inr (.inl (List.mem_filterMap.mpr ⟨effect, ?_, is⟩))
        rw [System.finish_service, System.emit_service, OrdersService.consume_of_ok success]
        exact List.mem_append_right _ (ending.performed_subset _ performed)
    · exact .inl (.inl present)
  | unbuilt | undecided | unresolved | stopped =>
    have before := System.carries_leave carried
    exact .inl before
  | decided owner output decisionId draw ending state decision db result effects built resolved success =>
    rcases System.carries_emit (System.carries_leave carried) with old | new
    · exact .inl old
    · obtain ⟨effect, performed, is⟩ := List.mem_filterMap.mp new
      refine .inr (.inl (List.mem_filterMap.mpr ⟨effect, ?_, is⟩))
      rw [System.leave_service, System.emit_service, OrdersService.decide_of_ok resolved success]
      exact List.mem_append_right _ (ending.performed_subset _ performed)
  | repeatedEvent again present =>
    rcases carried with queued | held
    · rcases List.mem_append.mp queued with old | new
      · exact .inl (.inl old)
      · obtain rfl := List.mem_singleton.mp new
        exact .inl (.inl present)
    · exact .inl (.inr held)
  | answered route ending answer answering =>
    rcases carried with queued | held
    · rw [System.publish_events] at queued
      rcases List.mem_append.mp queued with old | new
      · exact .inl (.inl old)
      · exact .inr (.inr ⟨route, answer, answering,
          List.mem_singleton.mp (ending.performed_subset _ new)⟩)
    · rw [System.publish_holding] at held
      exact .inl (.inr held)

/-- A request in a queue was there before or has been published. -/
theorem requests (step : SystemStep deployment s label t) {request : RoutedRequest}
    (queued : request ∈ t.requests) :
    request ∈ s.requests ∨ Effect.publish request.envelope request.route ∈ t.service.sent := by
  have published : ∀ {effects : List Effect}, request ∈ effects.filterMap Effect.routed? →
      Effect.publish request.envelope request.route ∈ effects := by
    intro effects member
    obtain ⟨effect, performed, is⟩ := List.mem_filterMap.mp member
    cases effect <;> simp only [Effect.routed?, Option.some_inj, reduceCtorEq] at is
    subst is
    exact performed
  cases step with
  | created | built | lettered | rejected | opened | reserved | repeatedEvent => exact .inl queued
  | unbuilt | undecided | unresolved | stopped =>
    rw [System.leave_requests] at queued
    exact .inl queued
  | handled taken redelivered draw ending handled idle present success =>
    rw [System.finish_requests, System.emit_requests] at queued
    refine (List.mem_append.mp queued).imp_right fun new => ?_
    rw [System.finish_service, System.emit_service, OrdersService.consume_of_ok success]
    exact List.mem_append_right _ (ending.performed_subset _ (published new))
  | decided owner output decisionId draw ending state decision db result effects built resolved success =>
    rw [System.leave_requests, System.emit_requests] at queued
    refine (List.mem_append.mp queued).imp_right fun new => ?_
    rw [System.leave_service, System.emit_service, OrdersService.decide_of_ok resolved success]
    exact List.mem_append_right _ (ending.performed_subset _ (published new))
  | repeatedRequest again present =>
    rcases List.mem_append.mp queued with old | new
    · exact .inl old
    · obtain rfl := List.mem_singleton.mp new
      exact .inl present
  | refused => exact .inl (List.mem_of_mem_erase queued)
  | answered route ending answer =>
    cases ending with
    | done | raised => exact .inl (List.mem_of_mem_erase queued)
    | died => exact .inl queued

/-- The inventory changes by answering a request. -/
theorem inventory (step : SystemStep deployment s label t) : t.inventory = s.inventory ∨
    ∃ request draw injected reply, label = .reserve request draw injected ∧ request ∈ s.requests ∧
      Replies s.inventory request.envelope draw t.inventory reply ∧ t.service = s.service ∧
      t.answering = Function.update s.answering request.route (some ⟨request, reply⟩) := by
  cases step with
  | created | rejected | opened | built | lettered | repeatedEvent | repeatedRequest | refused => exact .inl rfl
  | handled | unbuilt | decided | undecided | unresolved | stopped | answered => exact .inl (by simp)
  | reserved request draw injected inventory outcome reply present idle success =>
    exact .inr ⟨request, draw, injected, reply, rfl, present,
      InventoryDb.processReservationRequest_eq_ok success, rfl, rfl⟩

/-- A process answers what it was answering, or the request it has taken. -/
theorem answering (step : SystemStep deployment s label t) {route : Target} {answer : Answer}
    (busy : t.answering route = some answer) : s.answering route = some answer ∨
      ∃ draw, Replies s.inventory answer.request.envelope draw t.inventory answer.reply := by
  cases step with
  | created | rejected | opened | built | lettered | repeatedEvent | repeatedRequest | refused => exact .inl busy
  | unbuilt | undecided | unresolved | stopped =>
    rw [System.leave_answering] at busy
    exact .inl busy
  | handled =>
    rw [System.finish_answering, System.emit_answering] at busy
    exact .inl busy
  | decided =>
    rw [System.leave_answering, System.emit_answering] at busy
    exact .inl busy
  | reserved request draw injected inventory outcome reply present idle success =>
    simp only [Function.update_apply] at busy
    split_ifs at busy
    · obtain rfl := Option.some.inj busy
      exact .inr ⟨draw, InventoryDb.processReservationRequest_eq_ok success⟩
    · exact .inl busy
  | answered route' ending done =>
    rw [System.publish_answering, Function.update_apply] at busy
    split_ifs at busy
    exact .inl busy

/-- What the inventory has stored stays stored. -/
theorem processedMessages_subset (step : SystemStep deployment s label t) :
    s.inventory.processedMessages.rows ⊆ t.inventory.processedMessages.rows := by
  rcases step.inventory with same | ⟨request, draw, injected, reply, -, -, replies, -⟩
  · rw [same]
    exact List.Subset.refl _
  · rcases replies.stored_or_stores with ⟨same, -⟩ | ⟨⟨-, row, rows, -⟩, -⟩
    · rw [same]
      exact List.Subset.refl _
    · rw [rows]
      exact List.subset_append_left _ _

theorem responses_subset (step : SystemStep deployment s label t) : s.responses ⊆ t.responses :=
  List.map_subset _ step.processedMessages_subset

/-- What was sent stays sent. -/
theorem sent_subset (step : SystemStep deployment s label t) : s.service.sent ⊆ t.service.sent := by
  rcases step.service with ⟨-, alone⟩ | ⟨own, -, moved⟩
  · rw [alone]
    exact List.Subset.refl _
  · obtain ⟨added, sent, -⟩ := (step_cases moved).sent
    rw [sent]
    exact List.subset_append_left _ _

/-- A received event was received before or is taken from the queue. -/
theorem received (step : SystemStep deployment s label t) {event : MessageEnvelope}
    (here : event ∈ t.service.received) :
    event ∈ s.service.received ∨ OrdersMessage.inventoryEvent event ∈ s.events := by
  rcases step.service with ⟨-, alone⟩ | ⟨own, is, moved⟩
  · rw [alone] at here
    exact .inl here
  · refine ((step_cases moved).received event here).imp_right ?_
    rintro ⟨redelivered, draw, rfl⟩
    cases step with
    | rejected message again draw ending error idle present
    | opened message again draw ending handled idle present
    | handled message again draw ending handled idle present =>
      cases is
      exact present
    | created | built | unbuilt | decided | undecided | unresolved | stopped | lettered | repeatedEvent | repeatedRequest
    | refused | reserved | answered => cases is

end SystemStep

/-! ## The network -/

/-- Whatever is held or in flight has its source. -/
structure Network (s : System) : Prop where
  held : ∀ message, s.holding = some message →
    (s.service.points .worker).task? = some message.taskId
  busy : s.service.points .worker ≠ .closed → ∃ message, s.holding = some message
  events : ∀ message, s.carries message →
    (∃ event ∈ s.responses, message = .inventoryEvent event) ∨ message ∈ s.service.scheduled
  requests : ∀ request ∈ s.requests, Effect.publish request.envelope request.route ∈ s.service.sent
  answering : ∀ route answer, s.answering route = some answer →
    answer.request ∈ s.requests ∧ answer.request.route = route
  replying : ∀ route answer, s.answering route = some answer →
    ∃ row ∈ s.inventory.processedMessages.rows,
      row.messageId = answer.request.envelope.messageId ∧ row.response = answer.reply
  received : ∀ event ∈ s.service.received, event ∈ s.responses
  stored : ∀ row ∈ s.inventory.processedMessages.rows, ∃ request ∈ s.service.requests,
    request.messageId = row.messageId ∧ row.response.Answers request
  apart : ∀ response ∈ s.responses, ∀ request ∈ s.service.requests,
    request.messageId ≠ response.messageId
  distinct : (s.responses.map (·.messageId)).Nodup

namespace Network

variable {s : System}

theorem requests_of_publish {service : OrdersService} {request : MessageEnvelope} {route : Target}
    (sent : Effect.publish request route ∈ service.sent) : request ∈ service.requests :=
  List.mem_filterMap.mpr ⟨_, sent, rfl⟩

/-- What is delivered is as the orders-service is promised. -/
theorem deliverable (network : Network s) {message : OrdersMessage} (queued : message ∈ s.events) :
    s.service.deliverable message := by
  rcases network.events message (.inl queued) with ⟨event, stored, rfl⟩ | scheduled
  · obtain ⟨row, kept, rfl⟩ := List.mem_map.mp stored
    obtain ⟨request, asked, -, answers⟩ := network.stored row kept
    refine ⟨⟨request, asked, answers⟩, network.apart _ stored, fun other here same => ?_⟩
    exact List.inj_on_of_nodup_map network.distinct (network.received other here) stored same
  · cases message with
    | inventoryEvent event => exact absurd rfl (System.not_inventoryEvent_of_scheduled scheduled event)
    | timeoutCheck | dispatchAttempt | reevaluate => exact scheduled

/-- The reply being published answers the request it is about. -/
theorem answers_of_answering (network : Network s) (requests : (s.service.requests.map (·.messageId)).Nodup)
    {route : Target} {answer : Answer} (busy : s.answering route = some answer) :
    answer.reply.Answers answer.request.envelope := by
  obtain ⟨row, kept, same, response⟩ := network.replying route answer busy
  obtain ⟨request, asked, named, answers⟩ := network.stored row kept
  rw [response] at answers
  have own := requests_of_publish (network.requests _ (network.answering route answer busy).1)
  obtain rfl := List.inj_on_of_nodup_map requests asked own (named.trans same)
  exact answers

/-- A step offered to the system offers the orders-service one. -/
theorem admissible (network : Network s) {deployment : Deployment} {t : System} {label : SystemLabel}
    {own : OrdersLabel} (offered : s.admissible label) (step : SystemStep deployment s label t)
    (is : label.orders? = some own) : s.service.admissible own := by
  cases step with
  | rejected message redelivered draw ending error idle present
  | opened message redelivered draw ending handled idle present
  | handled message redelivered draw ending handled idle present =>
    obtain rfl := Option.some.inj is
    exact ⟨network.deliverable present, offered.1⟩
  | decided | undecided | unresolved =>
    obtain rfl := Option.some.inj is
    exact ⟨offered.1, offered.2.1⟩
  | created | built | unbuilt | stopped | lettered =>
    obtain rfl := Option.some.inj is
    trivial
  | repeatedEvent | repeatedRequest | refused | reserved | answered => cases is

/-! ### Preservation -/

section Step

variable {deployment : Deployment} {t : System} {label : SystemLabel}

/-- Decision points and the message the worker holds go together. -/
private theorem held_step (network : Network s) (step : SystemStep deployment s label t) :
    (∀ message, t.holding = some message → (t.service.points .worker).task? = some message.taskId) ∧
      (t.service.points .worker ≠ .closed → ∃ message, t.holding = some message) := by
  have unheld : s.service.points .worker = .closed → s.holding = none := by
    intro idle
    refine Option.eq_none_iff_forall_ne_some.mpr fun message held => ?_
    have holding := network.held message held
    rw [idle] at holding
    cases holding
  have left : ∀ {next : System} {owner : DecisionOwner} {ending : Ending}, next.holding = s.holding →
      next.service.points .worker = (if owner = .worker then .closed else s.service.points .worker) →
        (∀ message, (next.leave owner ending).holding = some message →
          ((next.leave owner ending).service.points .worker).task? = some message.taskId) ∧
        ((next.leave owner ending).service.points .worker ≠ .closed →
          ∃ message, (next.leave owner ending).holding = some message) := by
    intro next owner ending holding points
    rw [System.leave_service, points]
    cases owner with
    | api task =>
      simp only [System.leave, holding, reduceCtorEq, ↓reduceIte]
      exact ⟨network.held, network.busy⟩
    | worker =>
      have free : (next.leave .worker ending).holding = none := by
        cases held : next.holding <;> simp [System.leave, held]
      simp [free]
  cases step with
  | rejected | repeatedEvent | repeatedRequest | refused | reserved => exact ⟨network.held, network.busy⟩
  | answered => simpa using ⟨network.held, network.busy⟩
  | created request now =>
    have same : (s.service.createOrder deployment request now).points .worker = s.service.points .worker := by
      simp only [OrdersService.createOrder]
      split <;> simp
    simpa only [same] using ⟨network.held, network.busy⟩
  | lettered letter now =>
    have same : (s.service.deadLetter letter now).points = s.service.points := by
      simp only [OrdersService.deadLetter]
      split <;> rfl
    simpa only [same] using ⟨network.held, network.busy⟩
  | opened message redelivered draw ending handled idle present success opens =>
    simp only [OrdersService.consume_of_ok success, opens, OrdersService.setPoint_points, ↓reduceIte,
      Option.some_inj]
    exact ⟨fun other same => by rw [DecisionPoint.task?, same], fun _ => ⟨message, rfl⟩⟩
  | handled message redelivered draw ending handled idle present success quiet =>
    simp only [System.finish_holding, System.emit_holding, System.finish_service, System.emit_service,
      OrdersService.consume_of_ok success, quiet, OrdersService.setPoint_points, ↓reduceIte, unheld idle]
    simp
  | built owner seen task state opened success =>
    obtain ⟨row, found, describes, -⟩ := OrdersDb.build_eq_ok success
    simp only [OrdersService.setPoint_points]
    split_ifs with own
    · subst own
      refine ⟨fun message held => ?_, fun _ => network.busy (by simp [opened])⟩
      have about := network.held message held
      rw [opened] at about
      rw [DecisionPoint.task?, describes.task, OrdersDb.taskId_of_task? found]
      exact about
    · exact ⟨network.held, network.busy⟩
  | unbuilt owner | unresolved owner | stopped owner =>
    refine left rfl ?_
    simp only [OrdersService.setPoint_points, eq_comm]
  | decided owner output decisionId draw ending state decision db result effects built resolved success =>
    refine left rfl ?_
    simp only [System.emit_service, OrdersService.decide_of_ok resolved success,
      OrdersService.setPoint_points, eq_comm]
  | undecided owner output decisionId draw ending state decision error built resolved failed =>
    refine left rfl ?_
    simp only [OrdersService.decide_of_error resolved failed, OrdersService.setPoint_points, eq_comm]

/-- The request a process is answering stays in its queue. -/
private theorem answering_step (network : Network s) (step : SystemStep deployment s label t) :
    ∀ route answer, t.answering route = some answer →
      answer.request ∈ t.requests ∧ answer.request.route = route := by
  intro route answer busy
  cases step with
  | created | rejected | opened | built | lettered | repeatedEvent => exact network.answering route answer busy
  | unbuilt | undecided | unresolved | stopped =>
    rw [System.leave_answering] at busy
    rw [System.leave_requests]
    exact network.answering route answer busy
  | handled =>
    rw [System.finish_answering, System.emit_answering] at busy
    rw [System.finish_requests, System.emit_requests]
    exact (network.answering route answer busy).imp_left (List.mem_append_left _)
  | decided =>
    rw [System.leave_answering, System.emit_answering] at busy
    rw [System.leave_requests, System.emit_requests]
    exact (network.answering route answer busy).imp_left (List.mem_append_left _)
  | repeatedRequest => exact (network.answering route answer busy).imp_left (List.mem_append_left _)
  | refused request draw injected error present idle =>
    obtain ⟨queued, own⟩ := network.answering route answer busy
    refine ⟨(List.mem_erase_of_ne ?_).mpr queued, own⟩
    rintro rfl
    rw [own, busy] at idle
    cases idle
  | reserved request draw injected inventory outcome reply present =>
    simp only [Function.update_apply] at busy
    split_ifs at busy with own
    · obtain rfl := Option.some.inj busy
      exact ⟨present, own.symm⟩
    · exact network.answering route answer busy
  | answered route' ending done answering =>
    obtain ⟨-, own'⟩ := network.answering route' done answering
    rw [System.publish_answering, Function.update_apply] at busy
    split_ifs at busy with other
    obtain ⟨queued, own⟩ := network.answering route answer busy
    refine ⟨?_, own⟩
    have apart : answer.request ≠ done.request := fun same => other (by rw [← own, same])
    cases ending with
    | done | raised => exact (List.mem_erase_of_ne apart).mpr queued
    | died => exact queued

/-- Stored answers still belong to one request each, under identifiers of their own. -/
private theorem stored_step (network : Network s) (offered : s.admissible label)
    (step : SystemStep deployment s label t) :
    (∀ row ∈ t.inventory.processedMessages.rows, ∃ request ∈ t.service.requests,
      request.messageId = row.messageId ∧ row.response.Answers request) ∧
    (∀ response ∈ t.responses, ∀ request ∈ t.service.requests, request.messageId ≠ response.messageId) ∧
      (t.responses.map (·.messageId)).Nodup := by
  rcases step.inventory with same | ⟨request, draw, injected, reply, rfl, queued, replies, service, -⟩
  · obtain ⟨added, sent, drawn⟩ : ∃ added, t.service.sent = s.service.sent ++ added ∧
        ∀ request ∈ added.filterMap Effect.request?, ∀ response ∈ s.responses,
          response.messageId ≠ request.messageId := by
      rcases step.service with ⟨-, alone⟩ | ⟨own, is, moved⟩
      · exact ⟨[], by rw [alone, List.append_nil], by simp⟩
      · obtain ⟨added, sent, drawn⟩ := (step_cases moved).sent
        refine ⟨added, sent, fun request asked => ?_⟩
        have fresh := drawn request asked
        cases label with
        | consume message redelivered draw ending =>
          obtain rfl := Option.some.inj is
          rw [← Option.some.inj fresh]
          exact offered.2
        | decide owner output decisionId draw ending =>
          obtain rfl := Option.some.inj is
          rw [← Option.some.inj fresh]
          exact offered.2.2
        | createOrder | build | stop | deadLetter =>
          obtain rfl := Option.some.inj is
          cases fresh
        | repeatEvent | repeatRequest | reserve | answer => cases is
    have requests : t.service.requests = s.service.requests ++ added.filterMap Effect.request? := by
      rw [OrdersService.requests, sent, List.filterMap_append]
      rfl
    have responses : t.responses = s.responses := by rw [System.responses, same]; rfl
    rw [responses, requests, same]
    refine ⟨fun row member => ?_, fun response member request asked => ?_, network.distinct⟩
    · obtain ⟨request, asked, answers⟩ := network.stored row member
      exact ⟨request, List.mem_append_left _ asked, answers⟩
    · rcases List.mem_append.mp asked with old | new
      · exact network.apart response member request old
      · exact (drawn request new response member).symm
  · rw [service]
    rcases replies.stored_or_stores with ⟨same, -⟩ | ⟨⟨-, row, rows, same, stored⟩, answer, type, reply⟩
    · rw [System.responses, same]
      exact ⟨network.stored, network.apart, network.distinct⟩
    · have responses : t.responses = s.responses ++ [row.response] := by
        rw [System.responses, rows, List.map_append]
        rfl
      have drawn : row.response.messageId = draw.messageId := by rw [stored, reply]; rfl
      have asked := requests_of_publish (network.requests request queued)
      rw [rows, responses]
      simp only [List.forall_mem_append, List.forall_mem_singleton, List.map_append, List.map_singleton]
      refine ⟨⟨network.stored, request.envelope, asked, same.symm, ?_⟩, ⟨network.apart, ?_⟩, ?_⟩
      · rw [stored, reply]
        exact ⟨rfl, rfl, rfl, rfl, rfl, rfl, type⟩
      · rw [drawn]
        exact offered.1.1
      · rw [drawn, ← List.concat_eq_append]
        refine network.distinct.concat fun taken => ?_
        obtain ⟨response, old, clash⟩ := List.mem_map.mp taken
        exact offered.2 response old clash

theorem step (network : Network s) (offered : s.admissible label)
    (step : SystemStep deployment s label t) : Network t := by
  obtain ⟨held, busy⟩ := network.held_step step
  obtain ⟨stored, apart, distinct⟩ := network.stored_step offered step
  have sent {message : OrdersMessage} (scheduled : message ∈ s.service.scheduled) :
      message ∈ t.service.scheduled := List.filterMap_subset _ step.sent_subset scheduled
  refine ⟨held, busy, fun message carried => ?_, fun request queued => ?_, network.answering_step step,
    fun route answer replies => ?_, fun event here => ?_, stored, apart, distinct⟩
  · rcases step.carries carried with old | new | ⟨route, answer, replies, rfl⟩
    · rcases network.events message old with ⟨event, stored, is⟩ | scheduled
      · exact .inl ⟨event, step.responses_subset stored, is⟩
      · exact .inr (sent scheduled)
    · exact .inr new
    · obtain ⟨row, kept, -, same⟩ := network.replying route answer replies
      exact .inl ⟨answer.reply, step.responses_subset (same ▸ List.mem_map_of_mem kept), rfl⟩
  · exact (step.requests queued).elim (fun old => step.sent_subset (network.requests request old)) id
  · rcases step.answering replies with old | ⟨draw, new⟩
    · obtain ⟨row, kept, same⟩ := network.replying route answer old
      exact ⟨row, step.processedMessages_subset kept, same⟩
    · rcases new.stored_or_stores with ⟨same, row, kept, is⟩ | ⟨⟨-, row, rows, is⟩, -⟩
      · exact ⟨row, same ▸ kept, is⟩
      · exact ⟨row, rows ▸ List.mem_append_right _ (List.mem_singleton_self _), is⟩
  · rcases step.received here with old | queued
    · exact step.responses_subset (network.received event old)
    · rcases network.events _ (.inl queued) with ⟨other, stored, is⟩ | scheduled
      · cases is
        exact step.responses_subset stored
      · exact absurd rfl (System.not_inventoryEvent_of_scheduled scheduled event)

end Step

theorem initial (stock : List String) : Network (.initial stock) where
  held _ held := by cases held
  busy busy := absurd rfl busy
  events _ carried := by
    rcases carried with queued | held
    · cases queued
    · cases held
  requests _ queued := by cases queued
  answering _ _ busy := by cases busy
  replying _ _ busy := by cases busy
  received _ here := by cases here
  stored _ kept := by cases kept
  apart _ stored := by cases stored
  distinct := List.nodup_nil

end Network

/-- Every reachable state has its network, and an orders-service that is reachable on its own. -/
theorem reachable_network {deployment : Deployment} {stock : List String} {s : System}
    (reachable : (systemMachine deployment stock).Reachable s) :
    Network s ∧ (ordersMachine deployment).Reachable s.service := by
  refine Machine.Reachable.invariant (P := fun s => Network s ∧ (ordersMachine deployment).Reachable s.service)
    ⟨.initial stock, Machine.reachable_initial _⟩ ?_ reachable
  rintro s label t - ⟨network, alone⟩ offered step
  have transition := system_step_cases step
  refine ⟨network.step offered transition, ?_⟩
  rcases transition.service with ⟨-, same⟩ | ⟨own, is, moved⟩
  · rw [same]
    exact alone
  · exact alone.snoc (network.admissible offered transition is) moved

end OrchLab
