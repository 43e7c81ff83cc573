import OrchLab.Soundness.Orders.Handlers

/-! # Steps of the service

Every step of the orders-service opens a task, moves one task, or leaves the database alone. `Step` is
that case analysis with all a step does to the rest of the state; a task's own part of the state is its
file, and a property of files that a created file has and every step of a file keeps holds of every
file of a reachable state.
-/

namespace OrchLab

/-- The message finds nothing to do. -/
def OrdersDb.Ignores (db : OrdersDb) : OrdersMessage → Prop
  | .inventoryEvent event => db.isEventProcessed event.messageId = true ∨ db.task? event.taskId = none
  | .timeoutCheck task request => ∀ row, db.task? task = some row → row.status.terminal = false →
      isAwaitingReply (db.trajectory task) request = true →
        timeoutRegistered (db.trajectory task) request = true
  | .dispatchAttempt task _ => ∀ row, db.task? task = some row → row.status ≠ .retrying
  | .reevaluate task waitCount => ∀ row, db.task? task = some row → row.status = .waiting →
      row.waitCount = waitCount → waitFinished (db.trajectory task) waitCount = true

/-- The transaction of a message is nothing or a move of its task. -/
theorem handle_moves {config : ExperimentConfig} {db : OrdersDb} {message : OrdersMessage}
    {redelivered : Bool} {draw : Draw} {handled : Handled}
    (success : db.handle config message redelivered draw = .ok handled) :
    (handled = ⟨db, false, []⟩ ∧ db.Ignores message) ∨
      ∃ row row' columns, row.taskId = message.taskId ∧
        Move config db draw row (.message message) row' columns handled.effects handled.decisionRequired ∧
        Commits db handled.db row (.message message) row' columns := by
  cases message with
  | inventoryEvent event =>
    cases ran : db.handleInventoryEvent draw.now event redelivered with
    | error error => simp [OrdersDb.handle, ran, Except.map] at success
    | ok result =>
      simp only [OrdersDb.handle, ran, Except.map, Except.ok.injEq] at success
      subst success
      rcases handleInventoryEvent_moves ran with ⟨rfl, quiet, ignored⟩ | moved
      · exact .inl ⟨by rw [quiet], ignored⟩
      · exact .inr moved
  | timeoutCheck task request =>
    cases ran : db.registerTimeout draw.now task request with
    | error error => simp [OrdersDb.handle, ran, Except.map] at success
    | ok result =>
      simp only [OrdersDb.handle, ran, Except.map, Except.ok.injEq] at success
      subst success
      rcases registerTimeout_moves ran with ⟨rfl, quiet, ignored⟩ | moved
      · exact .inl ⟨by rw [quiet], ignored⟩
      · exact .inr moved
  | dispatchAttempt task decisionId =>
    cases ran : db.dispatchScheduledAttempt config task decisionId draw with
    | error error => simp [OrdersDb.handle, ran, Except.map] at success
    | ok result =>
      simp only [OrdersDb.handle, ran, Except.map, Except.ok.injEq] at success
      subst success
      rcases dispatchScheduledAttempt_moves ran with ⟨rfl, quiet, ignored⟩ | moved
      · exact .inl ⟨by rw [quiet], ignored⟩
      · exact .inr moved
  | reevaluate task waitCount =>
    cases ran : db.finishWait draw.now task waitCount with
    | error error => simp [OrdersDb.handle, ran, Except.map] at success
    | ok result =>
      simp only [OrdersDb.handle, ran, Except.map, Except.ok.injEq] at success
      subst success
      rcases finishWait_moves ran with ⟨rfl, quiet, ignored⟩ | moved
      · exact .inl ⟨by rw [quiet], ignored⟩
      · exact .inr moved

/-- What `create_order_with_task` does to the database. -/
structure Creates (db db' : OrdersDb) (number : TaskId) (executionId itemsJson : String)
    (now : Timestamp) : Prop where
  absent : db.task? number = none
  unordered : db.order? number = none
  task? : ∀ task, db'.task? task =
    if task = number then some (.created number executionId now) else db.task? task
  order? : ∀ order, db'.order? order =
    if order = number then some ⟨number, executionId, .pending, itemsJson, now, now⟩ else db.order? order
  rows : db'.taskEvents.rows = db.taskEvents.rows ++
    numbered db.taskEvents.rows.length [OrdersDb.taskCreatedColumns number executionId now]
  processed : ∀ message, db'.isEventProcessed message = db.isEventProcessed message

theorem Creates.trajectory {db db' : OrdersDb} {number : TaskId} {executionId itemsJson : String}
    {now : Timestamp} (creates : Creates db db' number executionId itemsJson now) (task : TaskId) :
    db'.trajectory task = if task = number then
        db.trajectory task ++
          numbered db.taskEvents.rows.length [OrdersDb.taskCreatedColumns number executionId now]
      else db.trajectory task :=
  OrdersDb.trajectory_of_rows creates.rows (by simp [OrdersDb.taskCreatedColumns]) task

theorem createOrderWithTask_creates {db db' : OrdersDb} {executionId itemsJson : String}
    {now : Timestamp} {task : TaskId}
    (success : db.createOrderWithTask executionId itemsJson now = .ok (db', task)) :
    task = db.nextOrderNumber ∧ Creates db db' task executionId itemsJson now := by
  simp only [OrdersDb.createOrderWithTask] at success
  cases ordered : db.orders.insert? ⟨db.nextOrderNumber, executionId, .pending, itemsJson, now, now⟩ with
  | none => simp [ordered] at success
  | some orders =>
    cases added : db.tasks.insert? (.created db.nextOrderNumber executionId now) with
    | none => simp [ordered, added] at success
    | some tasks =>
      have here : ({ db with orders, tasks } : OrdersDb).task? db.nextOrderNumber =
          some (.created db.nextOrderNumber executionId now) :=
        (Table.find?_of_insert? added _).trans (if_pos rfl)
      simp only [ordered, added, OrdersDb.recordEvent_of_found (OrdersDb.taskCreatedColumns
        db.nextOrderNumber executionId now) here, Except.map, Except.ok.injEq, Prod.mk.injEq] at success
      obtain ⟨rfl, rfl⟩ := success
      refine ⟨rfl, (Table.insert?_eq_some_iff.mp added).1, (Table.insert?_eq_some_iff.mp ordered).1,
        fun task => ?_, fun order => ?_, rfl, fun _ => rfl⟩
      · refine (Table.find?_of_insert? added task).trans ?_
        simp only [TaskRow.created, eq_comm]
        rfl
      · refine (Table.find?_of_insert? ordered order).trans ?_
        simp only [eq_comm]
        rfl

/-! ## The cases of a step -/

/-- What each label can do. -/
inductive Step (deployment : Deployment) (s : OrdersService) : OrdersLabel → OrdersService → Prop
  | created (request : CreateOrderRequest) (now : Timestamp) (db : OrdersDb) (number : TaskId)
      (creates : Creates s.db db number deployment.executionId (canonicalJson request.items) now) :
      Step deployment s (.createOrder request now)
        ({ s with db }.setPoint (.api number) (.opened number))
  | uncreated (request : CreateOrderRequest) (now : Timestamp) :
      Step deployment s (.createOrder request now) s
  | consumed (message : OrdersMessage) (redelivered : Bool) (draw : Draw) (db : OrdersDb)
      (row row' : TaskRow) (columns : List EventColumns) (effects : List Effect) (opens : Bool)
      (idle : s.points .worker = .closed) (task : row.taskId = message.taskId)
      (move : Move deployment.config s.db draw row (.message message) row' columns effects opens)
      (commits : Commits s.db db row (.message message) row' columns)
      (success : s.db.handle deployment.config message redelivered draw = .ok ⟨db, opens, effects⟩) :
      Step deployment s (.consume message redelivered draw)
        ({ s with db, received := s.receive message, sent := s.sent ++ effects }.setPoint .worker
          (if opens then .opened message.taskId else .closed))
  | ignored (message : OrdersMessage) (redelivered : Bool) (draw : Draw)
      (idle : s.points .worker = .closed) (ignores : s.db.Ignores message) :
      Step deployment s (.consume message redelivered draw)
        ({ s with received := s.receive message }.setPoint .worker .closed)
  | unconsumed (message : OrdersMessage) (redelivered : Bool) (draw : Draw) (error : OrdersError)
      (raises : s.db.handle deployment.config message redelivered draw = .error error) :
      Step deployment s (.consume message redelivered draw) s
  | built (owner : DecisionOwner) (seen : Observation) (task : TaskId) (state : SystemState)
      (row : TaskRow) (opened : s.points owner = .opened task) (found : s.db.task? task = some row)
      (builds : s.db.build deployment.config task seen = .ok state)
      (describes : state.Describes deployment.config row) (valid : state.valid = true) :
      Step deployment s (.build owner seen) (s.setPoint owner (.built state))
  | unbuilt (owner : DecisionOwner) (seen : Observation) (task : TaskId) (error : OrdersError)
      (opened : s.points owner = .opened task)
      (raises : s.db.build deployment.config task seen = .error error) :
      Step deployment s (.build owner seen) (s.setPoint owner .closed)
  | decided (owner : DecisionOwner) (output : EngineOutput) (decisionId : DecisionId) (draw : Draw)
      (state : SystemState) (decision : Decision) (db : OrdersDb) (row row' : TaskRow)
      (columns : List EventColumns) (effects : List Effect) (built : s.points owner = .built state)
      (task : row.taskId = state.taskId)
      (resolved : deployment.validator.decision? state output = some decision)
      (approved : state.Approves decision ∨ decision.action = .abort)
      (move : Move deployment.config s.db draw row (.decision decision decisionId) row' columns effects
        false)
      (commits : Commits s.db db row (.decision decision decisionId) row' columns)
      (result : ExecutionResult) (success : s.db.execute deployment.config state.taskId decisionId draw decision =
        .ok (db, result, effects)) :
      Step deployment s (.decide owner output decisionId draw)
        ({ s with
            db, sent := s.sent ++ effects
            executed := s.executed ++ [Execution.of state decision decisionId]
          }.setPoint owner .closed)
  | declined (owner : DecisionOwner) (output : EngineOutput) (decisionId : DecisionId) (draw : Draw)
      (state : SystemState) (decision : Decision) (built : s.points owner = .built state)
      (resolved : deployment.validator.decision? state output = some decision)
      (approved : state.Approves decision ∨ decision.action = .abort)
      (refused : (∃ error, s.db.execute deployment.config state.taskId decisionId draw decision =
          .error error) ∨ ∀ row, s.db.task? state.taskId = some row → row.status.terminal = true) :
      Step deployment s (.decide owner output decisionId draw)
        ({ s with
            executed := s.executed ++ [Execution.of state decision decisionId]
          }.setPoint owner .closed)
  | unresolved (owner : DecisionOwner) (output : EngineOutput) (decisionId : DecisionId) (draw : Draw)
      (state : SystemState) (built : s.points owner = .built state)
      (raises : deployment.validator.decision? state output = none) :
      Step deployment s (.decide owner output decisionId draw) (s.setPoint owner .closed)
  | raised (owner : DecisionOwner) (busy : s.points owner ≠ .closed) :
      Step deployment s (.raise owner) (s.setPoint owner .closed)
  | lettered (letter : DeadLetter) (now : Timestamp) (db : OrdersDb) (row row' : TaskRow)
      (columns : List EventColumns) (task : letter.taskId = some row.taskId)
      (move : Move deployment.config s.db ⟨0, now⟩ row (.deadLetter letter) row' columns [] false)
      (commits : Commits s.db db row (.deadLetter letter) row' columns) :
      Step deployment s (.deadLetter letter now) { s with db }
  | unlettered (letter : DeadLetter) (now : Timestamp)
      (unknown : ∀ task, letter.taskId = some task → s.db.task? task = none) :
      Step deployment s (.deadLetter letter now) s

/-- Every step is one of the cases. -/
theorem step_cases {deployment : Deployment} {s t : OrdersService} {label : OrdersLabel}
    (step : (ordersMachine deployment).step s label = some t) : Step deployment s label t := by
  change OrdersService.step deployment s label = some t at step
  cases label with
  | createOrder request now =>
    simp only [OrdersService.step, OrdersService.createOrder, Option.some_inj] at step
    split at step
    · subst step
      exact .uncreated request now
    · rename_i db task success
      subst step
      exact .created request now db task (createOrderWithTask_creates success).2
  | consume message redelivered draw =>
    simp only [OrdersService.step] at step
    split_ifs at step with idle
    simp only [OrdersService.consume, Option.some_inj] at step
    cases ran : s.db.handle deployment.config message redelivered draw with
    | error error =>
      simp only [ran] at step
      subst step
      exact .unconsumed message redelivered draw error ran
    | ok handled =>
      simp only [ran] at step
      subst step
      rcases handle_moves ran with ⟨rfl, ignores⟩ | ⟨row, row', columns, task, move, commits⟩
      · have same : Step deployment s _ _ := .ignored message redelivered draw idle ignores
        simpa only [List.append_nil, Bool.false_eq_true, ↓reduceIte] using same
      · exact .consumed message redelivered draw handled.db row row' columns handled.effects
          handled.decisionRequired idle task move commits ran
  | build owner seen =>
    simp only [OrdersService.step] at step
    split at step
    · rename_i task opened
      simp only [OrdersService.build, Option.some_inj] at step
      cases ran : s.db.build deployment.config task seen with
      | error error =>
        simp only [ran] at step
        subst step
        exact .unbuilt owner seen task error opened ran
      | ok state =>
        simp only [ran] at step
        subst step
        obtain ⟨row, found, describes, valid⟩ := OrdersDb.build_eq_ok ran
        exact .built owner seen task state row opened found ran describes valid
    · cases step
  | decide owner output decisionId draw =>
    simp only [OrdersService.step] at step
    split at step
    · rename_i state built
      cases resolved : deployment.validator.decision? state output with
      | none =>
        simp only [OrdersService.decide, resolved, Option.some_inj] at step
        subst step
        exact .unresolved owner output decisionId draw state built resolved
      | some decision =>
        have approved := DecisionValidator.approves_of_resolve? (DecisionValidator.resolve?_of_decision? resolved)
        simp only [OrdersService.decide, resolved, Option.some_inj] at step
        cases ran : s.db.execute deployment.config state.taskId decisionId draw decision with
        | error error =>
          simp only [ran] at step
          subst step
          exact .declined owner output decisionId draw state decision built resolved approved
            (.inl ⟨error, ran⟩)
        | ok result =>
          obtain ⟨db, result, effects⟩ := result
          simp only [ran] at step
          subst step
          cases found : s.db.task? state.taskId with
          | none =>
            obtain ⟨rfl, rfl⟩ := execute_of_absent found ran
            have same := Step.declined owner output decisionId draw state decision built resolved approved
              (.inr (by rw [found]; simp))
            simpa only [List.append_nil] using same
          | some row =>
            rcases execute_moves found ran with ⟨rfl, rfl, settled⟩ | ⟨row', columns, move, commits⟩
            · have same := Step.declined owner output decisionId draw state decision built resolved approved
                (.inr (by rw [found]; rintro _ ⟨⟩; exact settled))
              simpa only [List.append_nil] using same
            · exact .decided owner output decisionId draw state decision db row row' columns effects built
                (OrdersDb.taskId_of_task? found) resolved approved move commits result ran
    · cases step
  | raise owner =>
    simp only [OrdersService.step] at step
    split_ifs at step with idle
    cases step
    exact .raised owner idle
  | deadLetter letter now =>
    simp only [OrdersService.step, OrdersService.deadLetter, Option.some_inj] at step
    obtain ⟨db, changed, ran, ⟨rfl, unknown⟩ | ⟨row, row', columns, task, move, commits⟩⟩ :=
      handleDeadLetter_moves deployment.config s.db ⟨0, now⟩ letter
    · simp only [ran] at step
      subst step
      exact .unlettered letter now unknown
    · simp only [ran] at step
      subst step
      exact .lettered letter now db row row' columns task move commits

namespace OrdersService

variable {deployment : Deployment} {s t : OrdersService} {message : OrdersMessage} {redelivered : Bool}
  {draw : Draw} {handled : Handled}

theorem consume_of_ok (success : s.db.handle deployment.config message redelivered draw = .ok handled) :
    s.consume deployment message redelivered draw =
      { s with db := handled.db, received := s.receive message, sent := s.sent ++ handled.effects }.setPoint
        .worker (if handled.decisionRequired then .opened message.taskId else .closed) := by
  rw [consume, success]

theorem db_of_consume (success : s.db.handle deployment.config message redelivered draw = .ok handled)
    (step : (ordersMachine deployment).step s (.consume message redelivered draw) = some t) :
    t.db = handled.db := by
  change s.step deployment (.consume message redelivered draw) = some t at step
  rw [OrdersService.step] at step
  split_ifs at step
  rw [consume_of_ok success] at step
  rw [← Option.some_inj.mp step]
  rfl

end OrdersService

end OrchLab
