import OrchLab.Model.System
import OrchLab.Soundness.Orders.Steps

/-! # Steps of the system

What each label of the system can do, with the branch it takes, and the step the orders-service takes
with it.
-/

namespace OrchLab

namespace System

section Projections

variable (s : System) (effects : List Effect) (message : OrdersMessage) (owner : DecisionOwner)
  (ending : Ending)

@[simp] theorem emit_service : (s.emit effects).service = s.service := rfl
@[simp] theorem emit_inventory : (s.emit effects).inventory = s.inventory := rfl
@[simp] theorem emit_holding : (s.emit effects).holding = s.holding := rfl
@[simp] theorem emit_answering : (s.emit effects).answering = s.answering := rfl
@[simp] theorem emit_deadLetters : (s.emit effects).deadLetters = s.deadLetters := rfl
@[simp] theorem emit_events :
    (s.emit effects).events = s.events ++ effects.filterMap Effect.message? := rfl
@[simp] theorem emit_requests :
    (s.emit effects).requests = s.requests ++ effects.filterMap Effect.routed? := rfl

@[simp] theorem finish_service : (s.finish message ending).service = s.service := by cases ending <;> rfl
@[simp] theorem finish_inventory : (s.finish message ending).inventory = s.inventory := by cases ending <;> rfl
@[simp] theorem finish_holding : (s.finish message ending).holding = s.holding := by cases ending <;> rfl
@[simp] theorem finish_requests : (s.finish message ending).requests = s.requests := by cases ending <;> rfl
@[simp] theorem finish_answering : (s.finish message ending).answering = s.answering := by cases ending <;> rfl

@[simp] theorem leave_service : (s.leave owner ending).service = s.service := by
  cases owner <;> cases held : s.holding <;> simp [leave, held]

@[simp] theorem leave_inventory : (s.leave owner ending).inventory = s.inventory := by
  cases owner <;> cases held : s.holding <;> simp [leave, held]

@[simp] theorem leave_requests : (s.leave owner ending).requests = s.requests := by
  cases owner <;> cases held : s.holding <;> simp [leave, held]

@[simp] theorem leave_answering : (s.leave owner ending).answering = s.answering := by
  cases owner <;> cases held : s.holding <;> simp [leave, held]

@[simp] theorem publish_service (answer : Answer) : (s.publish answer ending).service = s.service := by
  cases ending <;> rfl

@[simp] theorem publish_inventory (answer : Answer) : (s.publish answer ending).inventory = s.inventory := by
  cases ending <;> rfl

@[simp] theorem publish_holding (answer : Answer) : (s.publish answer ending).holding = s.holding := by
  cases ending <;> rfl

@[simp] theorem publish_events (answer : Answer) : (s.publish answer ending).events =
    s.events ++ ending.performed [.inventoryEvent answer.reply] := by
  cases ending <;> rfl

@[simp] theorem publish_answering (answer : Answer) : (s.publish answer ending).answering =
    Function.update s.answering answer.request.route none := by
  cases ending <;> rfl

theorem events_subset_finish : s.events ⊆ (s.finish message ending).events := by
  cases ending with
  | done | raised => exact List.Subset.refl _
  | died => exact List.subset_append_left _ _

theorem deadLetters_subset_finish : s.deadLetters ⊆ (s.finish message ending).deadLetters := by
  cases ending with
  | done | died => exact List.Subset.refl _
  | raised => exact List.subset_append_left _ _

theorem events_subset_leave : s.events ⊆ (s.leave owner ending).events := by
  cases owner with
  | api => exact List.Subset.refl _
  | worker =>
    cases held : s.holding with
    | none => simp [leave, held]
    | some message =>
      simp only [leave, held]
      exact events_subset_finish { s with holding := none } message ending

theorem deadLetters_subset_leave : s.deadLetters ⊆ (s.leave owner ending).deadLetters := by
  cases owner with
  | api => exact List.Subset.refl _
  | worker =>
    cases held : s.holding with
    | none => simp [leave, held]
    | some message =>
      simp only [leave, held]
      exact deadLetters_subset_finish { s with holding := none } message ending

/-- A process that lets go of its message does not take another one. -/
theorem holding_of_leave (held : (s.leave owner ending).holding = some message) : s.holding = some message := by
  cases owner with
  | api => exact held
  | worker =>
    cases before : s.holding with
    | none => simp [leave, before] at held
    | some other => simp [leave, before] at held

/-- The message of an interrupted decision point of the worker becomes a dead letter. -/
theorem deadLetter_mem_leave {count : ℕ} (held : s.holding = some message) :
    message.deadLetter ∈ (s.leave .worker (.raised count)).deadLetters := by
  simp [leave, held, finish]

end Projections

end System

@[simp] theorem OrdersMessage.deadLetter_taskId (message : OrdersMessage) :
    message.deadLetter.taskId = some message.taskId := by
  cases message <;> rfl

theorem Ending.performed_subset {α : Type} (ending : Ending) (effects : List α) :
    ending.performed effects ⊆ effects := by
  cases ending with
  | done => exact List.Subset.refl _
  | raised count | died count => exact List.take_subset count effects

/-- What each label of the system can do. -/
inductive SystemStep (deployment : Deployment) (s : System) : SystemLabel → System → Prop
  | created (request : CreateOrderRequest) (now : Timestamp) :
      SystemStep deployment s (.createOrder request now)
        { s with service := s.service.createOrder deployment request now }
  | rejected (message : OrdersMessage) (redelivered : Bool) (draw : Draw) (ending : Ending)
      (error : OrdersError) (idle : s.service.points .worker = .closed) (present : message ∈ s.events)
      (failed : s.service.db.handle deployment.config message redelivered draw = .error error) :
      SystemStep deployment s (.consume message redelivered draw ending)
        { s with events := s.events.erase message, deadLetters := s.deadLetters ++ [message.deadLetter] }
  | opened (message : OrdersMessage) (redelivered : Bool) (draw : Draw) (ending : Ending)
      (handled : Handled) (idle : s.service.points .worker = .closed) (present : message ∈ s.events)
      (success : s.service.db.handle deployment.config message redelivered draw = .ok handled)
      (opens : handled.decisionRequired = true) :
      SystemStep deployment s (.consume message redelivered draw ending)
        { s with
          service := s.service.consume deployment message redelivered draw
          events := s.events.erase message
          holding := some message }
  | handled (message : OrdersMessage) (redelivered : Bool) (draw : Draw) (ending : Ending)
      (handled : Handled) (idle : s.service.points .worker = .closed) (present : message ∈ s.events)
      (success : s.service.db.handle deployment.config message redelivered draw = .ok handled)
      (quiet : handled.decisionRequired = false) :
      SystemStep deployment s (.consume message redelivered draw ending)
        (({ s with
            service := s.service.consume deployment message redelivered draw
            events := s.events.erase message
          }.emit (ending.performed handled.effects)).finish message ending)
  | built (owner : DecisionOwner) (seen : Observation) (task : TaskId) (state : SystemState)
      (opened : s.service.points owner = .opened task)
      (success : s.service.db.build deployment.config task seen = .ok state) :
      SystemStep deployment s (.build owner seen) { s with service := s.service.setPoint owner (.built state) }
  | unbuilt (owner : DecisionOwner) (seen : Observation) (task : TaskId) (error : OrdersError)
      (opened : s.service.points owner = .opened task)
      (failed : s.service.db.build deployment.config task seen = .error error) :
      SystemStep deployment s (.build owner seen)
        ({ s with service := s.service.setPoint owner .closed }.leave owner (.raised 0))
  | decided (owner : DecisionOwner) (output : EngineOutput) (decisionId : DecisionId) (draw : Draw)
      (ending : Ending) (state : SystemState) (decision : Decision) (db : OrdersDb)
      (result : ExecutionResult) (effects : List Effect)
      (built : s.service.points owner = .built state)
      (resolved : deployment.validator.decision? state output = some decision)
      (success : s.service.db.execute deployment.config state.taskId decisionId draw decision =
        .ok (db, result, effects)) :
      SystemStep deployment s (.decide owner output decisionId draw ending)
        (({ s with
            service := s.service.decide deployment owner state output decisionId draw
          }.emit (ending.performed effects)).leave owner ending)
  | undecided (owner : DecisionOwner) (output : EngineOutput) (decisionId : DecisionId) (draw : Draw)
      (ending : Ending) (state : SystemState) (decision : Decision) (error : OrdersError)
      (built : s.service.points owner = .built state)
      (resolved : deployment.validator.decision? state output = some decision)
      (failed : s.service.db.execute deployment.config state.taskId decisionId draw decision = .error error) :
      SystemStep deployment s (.decide owner output decisionId draw ending)
        ({ s with service := s.service.decide deployment owner state output decisionId draw }.leave owner
          (.raised 0))
  | unresolved (owner : DecisionOwner) (output : EngineOutput) (decisionId : DecisionId) (draw : Draw)
      (ending : Ending) (state : SystemState) (built : s.service.points owner = .built state)
      (raises : deployment.validator.decision? state output = none) :
      SystemStep deployment s (.decide owner output decisionId draw ending)
        ({ s with service := s.service.setPoint owner .closed }.leave owner (.raised 0))
  | stopped (owner : DecisionOwner) (ending : Ending) (busy : s.service.points owner ≠ .closed)
      (ends : ending ≠ .done) :
      SystemStep deployment s (.stop owner ending)
        ({ s with service := s.service.setPoint owner .closed }.leave owner ending)
  | lettered (letter : DeadLetter) (now : Timestamp) (present : letter ∈ s.deadLetters) :
      SystemStep deployment s (.deadLetter letter now)
        { s with service := s.service.deadLetter letter now, deadLetters := s.deadLetters.erase letter }
  | repeatedEvent (message : OrdersMessage) (present : message ∈ s.events) :
      SystemStep deployment s (.repeatEvent message) { s with events := s.events ++ [message] }
  | repeatedRequest (request : RoutedRequest) (present : request ∈ s.requests) :
      SystemStep deployment s (.repeatRequest request) { s with requests := s.requests ++ [request] }
  | refused (request : RoutedRequest) (draw : Draw) (injected : Option FailureReason)
      (error : InventoryError) (present : request ∈ s.requests) (idle : s.answering request.route = none)
      (failed : s.inventory.processReservationRequest request.envelope draw injected = .error error) :
      SystemStep deployment s (.reserve request draw injected)
        { s with requests := s.requests.erase request, deadLetters := s.deadLetters ++ [request.deadLetter] }
  | reserved (request : RoutedRequest) (draw : Draw) (injected : Option FailureReason)
      (inventory : InventoryDb) (outcome : RequestOutcome) (reply : MessageEnvelope)
      (present : request ∈ s.requests) (idle : s.answering request.route = none)
      (success : s.inventory.processReservationRequest request.envelope draw injected =
        .ok (inventory, outcome, reply)) :
      SystemStep deployment s (.reserve request draw injected)
        { s with
          inventory, answering := Function.update s.answering request.route (some ⟨request, reply⟩) }
  | answered (route : Target) (ending : Ending) (answer : Answer)
      (answering : s.answering route = some answer) :
      SystemStep deployment s (.answer route ending) (s.publish answer ending)

/-- Every step of the system is one of the cases. -/
theorem system_step_cases {deployment : Deployment} {s t : System} {label : SystemLabel}
    (step : s.step deployment label = some t) : SystemStep deployment s label t := by
  cases label with
  | createOrder request now =>
    cases step
    exact .created request now
  | consume message redelivered draw ending =>
    simp only [System.step] at step
    split_ifs at step with enabled
    obtain rfl := Option.some.inj step
    cases ran : s.service.db.handle deployment.config message redelivered draw with
    | error error =>
      have same : s.service.consume deployment message redelivered draw = s.service := by
        simp only [OrdersService.consume, ran]
      simp only [System.consume, ran, same]
      exact .rejected message redelivered draw ending error enabled.1 enabled.2 ran
    | ok handled =>
      simp only [System.consume, ran]
      cases opens : handled.decisionRequired with
      | true => exact .opened message redelivered draw ending handled enabled.1 enabled.2 ran opens
      | false => exact .handled message redelivered draw ending handled enabled.1 enabled.2 ran opens
  | build owner seen =>
    simp only [System.step] at step
    split at step
    · next task opened =>
      obtain rfl := Option.some.inj step
      cases ran : s.service.db.build deployment.config task seen with
      | error error =>
        simp only [System.build, OrdersService.build, ran]
        exact .unbuilt owner seen task error opened ran
      | ok state =>
        simp only [System.build, OrdersService.build, ran]
        exact .built owner seen task state opened ran
    · cases step
  | decide owner output decisionId draw ending =>
    simp only [System.step] at step
    split at step
    · next state built =>
      obtain rfl := Option.some.inj step
      cases resolved : deployment.validator.decision? state output with
      | none =>
        simp only [System.decide, OrdersService.decide, resolved]
        exact .unresolved owner output decisionId draw ending state built resolved
      | some decision =>
        cases ran : s.service.db.execute deployment.config state.taskId decisionId draw decision with
        | error error =>
          simp only [System.decide, resolved, ran]
          exact .undecided owner output decisionId draw ending state decision error built resolved ran
        | ok result =>
          obtain ⟨db, result, effects⟩ := result
          simp only [System.decide, resolved, ran]
          exact .decided owner output decisionId draw ending state decision db result effects built resolved ran
    · cases step
  | stop owner ending =>
    simp only [System.step] at step
    split_ifs at step with disabled
    obtain rfl := Option.some.inj step
    exact .stopped owner ending (fun closed => disabled (.inl closed)) fun done => disabled (.inr done)
  | deadLetter letter now =>
    simp only [System.step] at step
    split_ifs at step with present
    obtain rfl := Option.some.inj step
    exact .lettered letter now present
  | repeatEvent message =>
    simp only [System.step] at step
    split_ifs at step with present
    obtain rfl := Option.some.inj step
    exact .repeatedEvent message present
  | repeatRequest request =>
    simp only [System.step] at step
    split_ifs at step with present
    obtain rfl := Option.some.inj step
    exact .repeatedRequest request present
  | reserve request draw injected =>
    simp only [System.step] at step
    split_ifs at step with enabled
    obtain rfl := Option.some.inj step
    cases ran : s.inventory.processReservationRequest request.envelope draw injected with
    | error error =>
      simp only [System.reserve, ran]
      exact .refused request draw injected error enabled.1 enabled.2 ran
    | ok result =>
      obtain ⟨inventory, outcome, reply⟩ := result
      simp only [System.reserve, ran]
      exact .reserved request draw injected inventory outcome reply enabled.1 enabled.2 ran
  | answer route ending =>
    simp only [System.step, Option.map_eq_some_iff] at step
    obtain ⟨answer, answering, rfl⟩ := step
    exact .answered route ending answer answering

/-! ## The orders-service within the system -/

/-- The step the orders-service takes. -/
def SystemLabel.orders? : SystemLabel → Option OrdersLabel
  | .createOrder request now => some (.createOrder request now)
  | .consume message redelivered draw _ => some (.consume message redelivered draw)
  | .build owner seen => some (.build owner seen)
  | .decide owner output decisionId draw _ => some (.decide owner output decisionId draw)
  | .stop owner _ => some (.raise owner)
  | .deadLetter letter now => some (.deadLetter letter now)
  | .repeatEvent _ | .repeatRequest _ | .reserve .. | .answer .. => none

/-- A step of the system is one of the orders-service, or leaves it alone. -/
theorem SystemStep.service {deployment : Deployment} {s t : System} {label : SystemLabel}
    (step : SystemStep deployment s label t) :
    (label.orders? = none ∧ t.service = s.service) ∨
      ∃ own, label.orders? = some own ∧ (ordersMachine deployment).step s.service own = some t.service := by
  cases step with
  | repeatedEvent | repeatedRequest | refused | reserved => exact .inl ⟨rfl, rfl⟩
  | answered => exact .inl ⟨rfl, by simp⟩
  | created request now => exact .inr ⟨_, rfl, rfl⟩
  | lettered letter now => exact .inr ⟨_, rfl, rfl⟩
  | rejected message redelivered draw ending error idle present failed =>
    refine .inr ⟨_, rfl, ?_⟩
    simp [ordersMachine, OrdersService.step, idle, OrdersService.consume, failed]
  | opened message redelivered draw ending handled idle =>
    exact .inr ⟨_, rfl, by simp [ordersMachine, OrdersService.step, idle]⟩
  | handled message redelivered draw ending handled idle =>
    exact .inr ⟨_, rfl, by simp [ordersMachine, OrdersService.step, idle]⟩
  | built owner seen task state opened success =>
    exact .inr ⟨_, rfl, by simp [ordersMachine, OrdersService.step, opened, OrdersService.build, success]⟩
  | unbuilt owner seen task error opened failed =>
    exact .inr ⟨_, rfl, by simp [ordersMachine, OrdersService.step, opened, OrdersService.build, failed]⟩
  | decided owner output decisionId draw ending state decision db result effects built =>
    exact .inr ⟨_, rfl, by simp [ordersMachine, OrdersService.step, built]⟩
  | undecided owner output decisionId draw ending state decision error built =>
    exact .inr ⟨_, rfl, by simp [ordersMachine, OrdersService.step, built]⟩
  | unresolved owner output decisionId draw ending state built raises =>
    exact .inr ⟨_, rfl, by simp [ordersMachine, OrdersService.step, built, OrdersService.decide, raises]⟩
  | stopped owner ending busy =>
    exact .inr ⟨_, rfl, by simp [ordersMachine, OrdersService.step, busy]⟩

end OrchLab
