import OrchLab.Machine.Relabelling
import OrchLab.Soundness.Orders.Reasons
import OrchLab.Soundness.System.Steps

/-! # Engines that choose the same

Two engines that choose the same action and target at every decision point, each with whatever reason can be recorded,
cannot be told apart by anything the two services do: any run of one is a run of the other, message by message, and
ends with the same rows, the same queues and the same stock, but for the reasons in the rows of aborts.
-/

namespace OrchLab

/-- The same decision for the same task, but for its reason. -/
structure Execution.SameChoice (one two : Execution) : Prop where
  taskId : two.taskId = one.taskId
  phase : two.phase = one.phase
  decisionId : two.decisionId = one.decisionId
  decision : one.decision.SameChoice two.decision

/-- The orders-service in the same state, but for the reasons of aborts. -/
structure OrdersService.SameButReasons (one two : OrdersService) : Prop where
  db : one.db.SameButAborts two.db
  points : two.points = one.points
  received : two.received = one.received
  sent : two.sent = one.sent
  executed : List.Forall₂ Execution.SameChoice one.executed two.executed

/-- Both services and the broker in the same state, but for the reasons of aborts. -/
structure System.SameButReasons (one two : System) : Prop where
  service : one.service.SameButReasons two.service
  inventory : two.inventory = one.inventory
  events : two.events = one.events
  holding : two.holding = one.holding
  requests : two.requests = one.requests
  answering : two.answering = one.answering
  deadLetters : two.deadLetters = one.deadLetters

/-- The same step, or the same decision point with an output that chooses the same. -/
inductive SystemLabel.SameChoice : SystemLabel → SystemLabel → Prop
  | same (label : SystemLabel) : SameChoice label label
  | decide (owner : DecisionOwner) (one two : EngineOutput) (decisionId : DecisionId) (draw : Draw) (ending : Ending)
      (chosen : one.SameChoice two) :
      SameChoice (.decide owner one decisionId draw ending) (.decide owner two decisionId draw ending)

/-! ## The orders-service -/

theorem Decision.SameChoice.refl (decision : Decision) : decision.SameChoice decision := ⟨rfl, rfl⟩

namespace OrdersService.SameButReasons

variable {deployment : Deployment} {one two : OrdersService}

theorem setPoint (same : one.SameButReasons two) (owner : DecisionOwner) (point : DecisionPoint) :
    (one.setPoint owner point).SameButReasons (two.setPoint owner point) :=
  { same with points := by simp only [OrdersService.setPoint, same.points] }

theorem createOrder (same : one.SameButReasons two) (request : CreateOrderRequest) (now : Timestamp) :
    (one.createOrder deployment request now).SameButReasons (two.createOrder deployment request now) := by
  rw [OrdersService.createOrder, OrdersService.createOrder]
  rcases (same.db.createOrderWithTask deployment.executionId (canonicalJson request.items) now).cases with
    ⟨error, first, second⟩ | ⟨⟨db, task⟩, ⟨db', task'⟩, first, second, related, number⟩
  · rw [first, second]
    exact same
  · obtain rfl : task' = task := number
    rw [first, second]
    have stored : OrdersService.SameButReasons { one with db } { two with db := db' } := { same with db := related }
    exact stored.setPoint _ _

theorem deadLetter (same : one.SameButReasons two) (letter : DeadLetter) (now : Timestamp) :
    (one.deadLetter letter now).SameButReasons (two.deadLetter letter now) := by
  rw [OrdersService.deadLetter, OrdersService.deadLetter]
  rcases (same.db.handleDeadLetter now letter).cases with
    ⟨error, first, second⟩ | ⟨⟨db, changed⟩, ⟨db', changed'⟩, first, second, related, -⟩
  · rw [first, second]
    exact same
  · rw [first, second]
    exact { same with db := related }

theorem freshMessage (same : one.SameButReasons two) {message : MessageId} (fresh : one.freshMessage message) :
    two.freshMessage message := by
  rw [OrdersService.freshMessage, OrdersService.requests, same.sent, same.received]
  exact fresh

theorem undecided (same : one.SameButReasons two) {decisionId : DecisionId}
    (fresh : ∀ execution ∈ one.executed, execution.decisionId ≠ decisionId) :
    ∀ execution ∈ two.executed, execution.decisionId ≠ decisionId := by
  have ids : two.executed.map (·.decisionId) = one.executed.map (·.decisionId) := by
    refine (List.forall₂_eq_eq_eq ▸ List.forall₂_map_left_iff.mpr (List.forall₂_map_right_iff.mpr ?_)).symm
    exact same.executed.imp fun _ _ chosen => chosen.decisionId.symm
  intro execution member
  obtain ⟨other, here, named⟩ := List.mem_map.mp (ids ▸ List.mem_map_of_mem member)
  exact named ▸ fresh other here

theorem consume (same : one.SameButReasons two) {message : OrdersMessage} {redelivered : Bool} {draw : Draw}
    {handled handled' : Handled}
    (first : one.db.handle deployment.config message redelivered draw = .ok handled)
    (second : two.db.handle deployment.config message redelivered draw = .ok handled')
    (related : handled.db.SameButAborts handled'.db) (opens : handled'.decisionRequired = handled.decisionRequired)
    (effects : handled'.effects = handled.effects) :
    (one.consume deployment message redelivered draw).SameButReasons
      (two.consume deployment message redelivered draw) := by
  rw [consume_of_ok first, consume_of_ok second, opens]
  have received : two.receive message = one.receive message := by
    rw [receive_eq, receive_eq, same.received]
  have handled : OrdersService.SameButReasons
      { one with db := handled.db, received := one.receive message, sent := one.sent ++ handled.effects }
      { two with db := handled'.db, received := two.receive message, sent := two.sent ++ handled'.effects } :=
    ⟨related, same.points, received, by simp only [same.sent, effects], same.executed⟩
  exact handled.setPoint _ _

theorem build (same : one.SameButReasons two) (deployment : Deployment) (owner : DecisionOwner) (task : TaskId)
    (seen : Observation) :
    (one.build deployment owner task seen).SameButReasons (two.build deployment owner task seen) := by
  rw [OrdersService.build, OrdersService.build, same.db.build]
  cases one.db.build deployment.config task seen with
  | error error => exact same.setPoint owner .closed
  | ok state => exact same.setPoint owner (.built state)

theorem decide (same : one.SameButReasons two) (owner : DecisionOwner) {state : SystemState}
    {output output' : EngineOutput} (decisionId : DecisionId) (draw : Draw) {decision decision' : Decision}
    (first : deployment.validator.decision? state output = some decision)
    (second : deployment.validator.decision? state output' = some decision') (chosen : decision.SameChoice decision') :
    (one.decide deployment owner state output decisionId draw).SameButReasons
      (two.decide deployment owner state output' decisionId draw) := by
  have executed : List.Forall₂ Execution.SameChoice (one.executed ++ [Execution.of state decision decisionId])
      (two.executed ++ [Execution.of state decision' decisionId]) :=
    List.rel_append same.executed (.cons ⟨rfl, rfl, rfl, chosen⟩ .nil)
  rcases (same.db.execute deployment.config state.taskId decisionId draw chosen).cases with
    ⟨error, failed, failed'⟩ | ⟨⟨db, result, effects⟩, ⟨db', result', effects'⟩, ran, ran', related, equal⟩
  · have declined : OrdersService.SameButReasons
        { one with executed := one.executed ++ [Execution.of state decision decisionId] }
        { two with executed := two.executed ++ [Execution.of state decision' decisionId] } :=
      { same with executed }
    simp only [OrdersService.decide, first, second, failed, failed']
    exact declined.setPoint _ _
  · obtain ⟨rfl, rfl⟩ : result' = result ∧ effects' = effects := by simpa using equal
    have moved : OrdersService.SameButReasons
        { one with
          db, executed := one.executed ++ [Execution.of state decision decisionId], sent := one.sent ++ effects' }
        { two with
          db := db', executed := two.executed ++ [Execution.of state decision' decisionId]
          sent := two.sent ++ effects' } :=
      ⟨related, same.points, same.received, by simp only [same.sent], executed⟩
    simp only [OrdersService.decide, first, second, ran, ran']
    exact moved.setPoint _ _

end OrdersService.SameButReasons

/-! ## Both services -/

namespace System.SameButReasons

variable {deployment : Deployment} {one two : System}

theorem refl (s : System) : s.SameButReasons s where
  service := ⟨.refl _, rfl, rfl, rfl, List.forall₂_same.mpr fun _ _ => ⟨rfl, rfl, rfl, .refl _⟩⟩
  inventory := rfl
  events := rfl
  holding := rfl
  requests := rfl
  answering := rfl
  deadLetters := rfl

theorem withService (same : one.SameButReasons two) {first second : OrdersService}
    (service : first.SameButReasons second) :
    System.SameButReasons { one with service := first } { two with service := second } :=
  { same with service }

theorem take (same : one.SameButReasons two) (message : OrdersMessage) :
    System.SameButReasons { one with events := one.events.erase message }
      { two with events := two.events.erase message } :=
  { same with events := by simp only [same.events] }

theorem hold (same : one.SameButReasons two) (holding : Option OrdersMessage) :
    System.SameButReasons { one with holding } { two with holding } :=
  { same with holding := rfl }

theorem putLetters (same : one.SameButReasons two) (deadLetters : List DeadLetter) :
    System.SameButReasons { one with deadLetters } { two with deadLetters } :=
  { same with deadLetters := rfl }

theorem putEvents (same : one.SameButReasons two) (events : List OrdersMessage) :
    System.SameButReasons { one with events } { two with events } :=
  { same with events := rfl }

theorem putRequests (same : one.SameButReasons two) (requests : List RoutedRequest) :
    System.SameButReasons { one with requests } { two with requests } :=
  { same with requests := rfl }

theorem emit (same : one.SameButReasons two) (effects : List Effect) :
    (one.emit effects).SameButReasons (two.emit effects) :=
  { same with
    events := by simp only [System.emit, same.events]
    requests := by simp only [System.emit, same.requests] }

theorem finish (same : one.SameButReasons two) (message : OrdersMessage) (ending : Ending) :
    (one.finish message ending).SameButReasons (two.finish message ending) := by
  cases ending with
  | done => exact same
  | raised count => exact { same with deadLetters := by simp only [System.finish, same.deadLetters] }
  | died count => exact { same with events := by simp only [System.finish, same.events] }

theorem leave (same : one.SameButReasons two) (owner : DecisionOwner) (ending : Ending) :
    (one.leave owner ending).SameButReasons (two.leave owner ending) := by
  cases owner with
  | api => exact same
  | worker =>
    have holding := same.holding
    cases held : one.holding with
    | none =>
      rw [held] at holding
      simp only [System.leave, held, holding]
      exact same
    | some message =>
      rw [held] at holding
      simp only [System.leave, held, holding]
      exact (same.hold none).finish message ending

theorem consume (same : one.SameButReasons two) (message : OrdersMessage) (redelivered : Bool) (draw : Draw)
    (ending : Ending) : (one.consume deployment message redelivered draw ending).SameButReasons
      (two.consume deployment message redelivered draw ending) := by
  rw [System.consume, System.consume]
  rcases (same.service.db.handle deployment.config message redelivered draw).cases with
    ⟨error, first, second⟩ | ⟨handled, handled', first, second, related, opens, effects⟩
  · have unconsumed : ∀ s : OrdersService, s.db.handle deployment.config message redelivered draw = .error error →
        s.consume deployment message redelivered draw = s := fun s raises => by rw [OrdersService.consume, raises]
    simp only [first, second, unconsumed _ first, unconsumed _ second]
    exact (same.take message).finish message _
  · have consumed := same.service.consume first second related opens effects
    simp only [first, second, opens, effects]
    split_ifs
    · exact ((same.withService consumed).take message).hold (some message)
    · exact (((same.withService consumed).take message).emit _).finish message ending

theorem build (same : one.SameButReasons two) (owner : DecisionOwner) (task : TaskId) (seen : Observation) :
    (one.build deployment owner task seen).SameButReasons (two.build deployment owner task seen) := by
  have built := same.service.build deployment owner task seen
  rw [System.build, System.build, same.service.db.build]
  cases one.service.db.build deployment.config task seen with
  | error error => exact (same.withService built).leave owner _
  | ok state => exact same.withService built

theorem decide (same : one.SameButReasons two) (owner : DecisionOwner) (state : SystemState)
    {output output' : EngineOutput} (decisionId : DecisionId) (draw : Draw) (ending : Ending)
    (resolves : Option.Rel Decision.SameChoice (deployment.validator.decision? state output)
      (deployment.validator.decision? state output')) :
    (one.decide deployment owner state output decisionId draw ending).SameButReasons
      (two.decide deployment owner state output' decisionId draw ending) := by
  rcases OptionRel.cases resolves with ⟨first, second⟩ | ⟨decision, decision', first, second, chosen⟩
  · simp only [System.decide, OrdersService.decide, first, second]
    exact (same.withService (same.service.setPoint owner .closed)).leave owner _
  · have decided := same.service.decide owner decisionId draw first second chosen
    rw [System.decide, System.decide]
    simp only [first, second]
    rcases (same.service.db.execute deployment.config state.taskId decisionId draw chosen).cases with
      ⟨error, failed, failed'⟩ | ⟨⟨db, result, effects⟩, ⟨db', result', effects'⟩, ran, ran', related, equal⟩
    · simp only [failed, failed']
      exact (same.withService decided).leave owner _
    · obtain ⟨rfl, rfl⟩ : result' = result ∧ effects' = effects := by simpa using equal
      simp only [ran, ran']
      exact ((same.withService decided).emit _).leave owner ending

theorem reserve (same : one.SameButReasons two) (request : RoutedRequest) (draw : Draw)
    (injected : Option FailureReason) :
    (one.reserve request draw injected).SameButReasons (two.reserve request draw injected) := by
  rw [System.reserve, System.reserve, same.inventory]
  cases one.inventory.processReservationRequest request.envelope draw injected with
  | error error =>
    exact ⟨same.service, rfl, same.events, same.holding, by simp only [same.requests], same.answering,
      by simp only [same.deadLetters]⟩
  | ok result =>
    obtain ⟨inventory, outcome, reply⟩ := result
    exact ⟨same.service, rfl, same.events, same.holding, same.requests, by simp only [same.answering],
      same.deadLetters⟩

theorem publish (same : one.SameButReasons two) (answer : Answer) (ending : Ending) :
    (one.publish answer ending).SameButReasons (two.publish answer ending) := by
  cases ending <;>
    exact { same with
      events := by simp only [System.publish, same.events]
      requests := by simp only [System.publish, same.requests]
      answering := by simp only [System.publish, same.answering]
      deadLetters := by simp only [System.publish, same.deadLetters] }

theorem freshMessage (same : one.SameButReasons two) {message : MessageId} (fresh : one.freshMessage message) :
    two.freshMessage message := by
  refine ⟨same.service.freshMessage fresh.1, ?_⟩
  rw [System.responses, same.inventory]
  exact fresh.2

/-- Every step has its counterpart under a label that chooses the same. -/
theorem step (same : one.SameButReasons two) {label label' : SystemLabel} (chosen : label.SameChoice label')
    {t : System} (step : one.step deployment label = some t) :
    ∃ t', two.step deployment label' = some t' ∧ t.SameButReasons t' := by
  have points := same.service.points
  cases chosen with
  | decide owner output output' decisionId draw ending chosen =>
    cases point : one.service.points owner with
    | closed | opened => simp [System.step, point] at step
    | built state =>
      simp only [System.step, point] at step
      obtain rfl := Option.some.inj step
      refine ⟨two.decide deployment owner state output' decisionId draw ending, ?_, ?_⟩
      · simp only [System.step, points, point]
      · exact same.decide owner state decisionId draw ending (chosen.decision? _ _)
  | same =>
    cases label with
    | createOrder request now =>
      obtain rfl := Option.some.inj step
      exact ⟨_, rfl, same.withService (same.service.createOrder request now)⟩
    | consume message redelivered draw ending =>
      simp only [System.step] at step
      split_ifs at step with enabled
      obtain rfl := Option.some.inj step
      exact ⟨_, by rw [System.step, points, same.events, if_pos enabled], same.consume message redelivered draw ending⟩
    | build owner seen =>
      cases point : one.service.points owner with
      | closed | built => simp [System.step, point] at step
      | opened task =>
        simp only [System.step, point] at step
        obtain rfl := Option.some.inj step
        exact ⟨_, by simp only [System.step, points, point], same.build owner task seen⟩
    | decide owner output decisionId draw ending =>
      cases point : one.service.points owner with
      | closed | opened => simp [System.step, point] at step
      | built state =>
        simp only [System.step, point] at step
        obtain rfl := Option.some.inj step
        refine ⟨two.decide deployment owner state output decisionId draw ending, ?_, ?_⟩
        · simp only [System.step, points, point]
        · refine same.decide owner state decisionId draw ending ?_
          cases deployment.validator.decision? state output with
          | none => exact .none
          | some decision => exact .some (.refl decision)
    | stop owner ending =>
      simp only [System.step] at step
      split_ifs at step with disabled
      obtain rfl := Option.some.inj step
      exact ⟨_, by rw [System.step, points, if_neg disabled],
        (same.withService (same.service.setPoint owner .closed)).leave owner ending⟩
    | deadLetter letter now =>
      simp only [System.step] at step
      split_ifs at step with present
      obtain rfl := Option.some.inj step
      refine ⟨_, by rw [System.step, same.deadLetters, if_pos present], ?_⟩
      exact (same.withService (same.service.deadLetter letter now)).putLetters _
    | repeatEvent message =>
      simp only [System.step] at step
      split_ifs at step with present
      obtain rfl := Option.some.inj step
      exact ⟨_, by rw [System.step, same.events, if_pos present], same.putEvents _⟩
    | repeatRequest request =>
      simp only [System.step] at step
      split_ifs at step with present
      obtain rfl := Option.some.inj step
      exact ⟨_, by rw [System.step, same.requests, if_pos present], same.putRequests _⟩
    | reserve request draw injected =>
      simp only [System.step] at step
      split_ifs at step with enabled
      obtain rfl := Option.some.inj step
      exact ⟨_, by rw [System.step, same.requests, same.answering, if_pos enabled],
        same.reserve request draw injected⟩
    | answer route ending =>
      simp only [System.step, Option.map_eq_some_iff] at step
      obtain ⟨answer, answering, rfl⟩ := step
      exact ⟨_, by rw [System.step, same.answering, answering, Option.map_some], same.publish answer ending⟩

theorem admissible (same : one.SameButReasons two) {label label' : SystemLabel} (chosen : label.SameChoice label')
    (offered : one.admissible label) : two.admissible label' := by
  cases chosen with
  | decide => exact ⟨same.service.undecided offered.1, same.freshMessage offered.2⟩
  | same =>
    cases label with
    | consume | reserve => exact same.freshMessage offered
    | decide => exact ⟨same.service.undecided offered.1, same.freshMessage offered.2⟩
    | createOrder | build | stop | deadLetter | repeatEvent | repeatRequest | answer => trivial

end System.SameButReasons

/-- Any run of the services is a run under engines that choose the same, and ends in the same state but for the
reasons of aborts: the same tables, decision points, queues, stock and answers. -/
theorem engines_indistinguishable {deployment : Deployment} {stock : List String}
    {moments : List (System × SystemLabel)} {s : System}
    (run : (systemMachine deployment stock).Run moments s) {labels : List SystemLabel}
    (chosen : List.Forall₂ SystemLabel.SameChoice (moments.map Prod.snd) labels) :
    ∃ moments' s', (systemMachine deployment stock).Run moments' s' ∧ moments'.map Prod.snd = labels ∧
      s.SameButReasons s' ∧ s.service.db.SameButReasons s'.service.db := by
  have relabels : (systemMachine deployment stock).Relabels System.SameButReasons SystemLabel.SameChoice :=
    ⟨.refl _, fun same chosen offered => same.admissible chosen offered,
      fun same chosen step => same.step chosen step⟩
  obtain ⟨moments', s', run', named, same⟩ := relabels.exists_run run chosen
  exact ⟨moments', s', run', named, same, same.service.db.sameButReasons⟩

/-- An order is placed, and the engine of the API has its task aborted for a reason. -/
def abortingFor (reason : String) : List SystemLabel :=
  [.createOrder .single 0, .build (.api 1) (.calm 1 1),
    .decide (.api 1) ⟨some (.ofTexts (some "ABORT") none (some reason)), none⟩ 1 ⟨10, 2⟩ .done]

/-- Two engines abort the same task, one because the service is overloaded and one because it is unreachable. -/
theorem engines_indistinguishable_pilot : ∃ moments s labels moments' s',
    (systemMachine .pilot ["SKU-001"]).Run moments s ∧ moments.map Prod.snd ≠ labels ∧
    (systemMachine .pilot ["SKU-001"]).Run moments' s' ∧ moments'.map Prod.snd = labels ∧
    s.SameButReasons s' ∧ s.service.db.SameButReasons s'.service.db := by
  obtain ⟨s, run, named⟩ := Machine.exists_run_of_labels (m := systemMachine .pilot ["SKU-001"])
    (abortingFor "OVERLOAD") (by decide +kernel)
  have chosen : List.Forall₂ SystemLabel.SameChoice (abortingFor "OVERLOAD") (abortingFor "UNREACHABLE") :=
    .cons (.same _) (.cons (.same _) (.cons (.decide _ _ _ _ _ _
      ⟨⟨_, _, _, _, rfl, rfl, by decide, by decide⟩, by decide, by decide⟩) .nil))
  have differ : abortingFor "OVERLOAD" ≠ abortingFor "UNREACHABLE" := by
    simp [abortingFor, ProposedDecision.ofTexts, CodePoint.ofString_inj]
  obtain ⟨moments', s', run', named', same⟩ := engines_indistinguishable run (named.symm ▸ chosen)
  exact ⟨_, s, _, moments', s', run, named.symm ▸ differ, run', named', same⟩

end OrchLab
