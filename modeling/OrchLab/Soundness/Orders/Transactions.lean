import OrchLab.Model.Orders.Transactions
import OrchLab.Soundness.Orders.Steps

/-! # The cases of a transaction

A transaction of `orders.db` creates a task, moves one, or leaves the database as it is; the database of
a reachable service is the outcome of a run of transactions. The converse is not assumed: a run may give
any transaction any message, decision and clock, so what holds of every run of transactions holds of the
service with any engine, any snapshot and any queues.
-/

namespace OrchLab

/-- The effects a transaction schedules. -/
def Returned.effects : Returned → List Effect
  | .dispatched _ effects | .executed _ effects => effects
  | .created _ | .handled _ | .registered _ | .finished _ | .deadLettered _ | .raised _ => []

namespace Transaction

/-- Why the task of a transaction would move. -/
def cause? : Transaction → Option Cause
  | .createOrder _ _ _ => none
  | .inventoryEvent event _ _ => some (.message (.inventoryEvent event))
  | .timeoutCheck task request _ => some (.message (.timeoutCheck task request))
  | .dispatchAttempt task decisionId _ => some (.message (.dispatchAttempt task decisionId))
  | .reevaluate task waitCount _ => some (.message (.reevaluate task waitCount))
  | .execute _ decisionId decision _ => some (.decision decision decisionId)
  | .deadLetter letter _ => some (.deadLetter letter)

/-- What a transaction draws; only a request takes an identifier. -/
def draw : Transaction → Draw
  | .createOrder _ _ now | .inventoryEvent _ _ now | .timeoutCheck _ _ now | .reevaluate _ _ now
  | .deadLetter _ now => ⟨0, now⟩
  | .dispatchAttempt _ _ draw | .execute _ _ _ draw => draw

/-- The task a transaction is about; an order gets its number from the database. -/
def task? : Transaction → Option TaskId
  | .createOrder _ _ _ => none
  | .inventoryEvent event _ _ => some event.taskId
  | .timeoutCheck task _ _ | .dispatchAttempt task _ _ | .reevaluate task _ _ | .execute task _ _ _ => some task
  | .deadLetter letter _ => letter.taskId

end Transaction

/-- What each transaction can do. -/
inductive Performs (config : ExperimentConfig) (db : OrdersDb) : Transaction → OrdersDb → Returned → Prop
  | created (executionId itemsJson : String) (now : Timestamp) (db' : OrdersDb) (number : TaskId)
      (creates : Creates db db' number executionId itemsJson now) :
      Performs config db (.createOrder executionId itemsJson now) db' (.created number)
  | unchanged (transaction : Transaction) (returned : Returned) (quiet : returned.effects = []) :
      Performs config db transaction db returned
  | moved (transaction : Transaction) (cause : Cause) (row row' : TaskRow) (columns : List EventColumns)
      (opens : Bool) (db' : OrdersDb) (returned : Returned) (caused : transaction.cause? = some cause)
      (task : transaction.task? = some row.taskId)
      (move : Move config db transaction.draw row cause row' columns returned.effects opens)
      (commits : Commits db db' row cause row' columns) : Performs config db transaction db' returned

/-- Every transaction is one of the cases. -/
theorem perform_cases (config : ExperimentConfig) (db : OrdersDb) (transaction : Transaction) :
    Performs config db transaction (db.perform config transaction).1 (db.perform config transaction).2 := by
  cases transaction with
  | createOrder executionId itemsJson now =>
    rw [OrdersDb.perform]
    cases ran : db.createOrderWithTask executionId itemsJson now with
    | error error => exact .unchanged _ _ rfl
    | ok result => exact .created _ _ _ _ _ (createOrderWithTask_creates ran).2
  | inventoryEvent event redelivered now =>
    rw [OrdersDb.perform]
    cases ran : db.handleInventoryEvent now event redelivered with
    | error error => exact .unchanged _ _ rfl
    | ok result =>
      rcases @handleInventoryEvent_moves config _ _ ⟨0, now⟩ _ _ _ ran with
        ⟨same, -⟩ | ⟨row, row', columns, task, move, commits⟩
      · rw [OrdersDb.settle, same]
        exact .unchanged _ _ rfl
      · exact .moved _ _ _ _ _ _ _ _ rfl (congrArg some task.symm) move commits
  | timeoutCheck task request now =>
    rw [OrdersDb.perform]
    cases ran : db.registerTimeout now task request with
    | error error => exact .unchanged _ _ rfl
    | ok result =>
      rcases @registerTimeout_moves config _ _ _ ⟨0, now⟩ _ _ ran with
        ⟨same, -⟩ | ⟨row, row', columns, task, move, commits⟩
      · rw [OrdersDb.settle, same]
        exact .unchanged _ _ rfl
      · exact .moved _ _ _ _ _ _ _ _ rfl (congrArg some task.symm) move commits
  | dispatchAttempt task decisionId draw =>
    rw [OrdersDb.perform]
    cases ran : db.dispatchScheduledAttempt config task decisionId draw with
    | error error => exact .unchanged _ _ rfl
    | ok result =>
      obtain ⟨db', applied, effects⟩ := result
      rcases dispatchScheduledAttempt_moves ran with
        ⟨rfl, rfl, -⟩ | ⟨row, row', columns, task, move, commits⟩
      · exact .unchanged _ _ rfl
      · exact .moved _ _ _ _ _ _ _ _ rfl (congrArg some task.symm) move commits
  | reevaluate task waitCount now =>
    rw [OrdersDb.perform]
    cases ran : db.finishWait now task waitCount with
    | error error => exact .unchanged _ _ rfl
    | ok result =>
      rcases @finishWait_moves config _ _ _ ⟨0, now⟩ _ _ ran with
        ⟨same, -⟩ | ⟨row, row', columns, task, move, commits⟩
      · rw [OrdersDb.settle, same]
        exact .unchanged _ _ rfl
      · exact .moved _ _ _ _ _ _ _ _ rfl (congrArg some task.symm) move commits
  | execute task decisionId decision draw =>
    rw [OrdersDb.perform]
    cases ran : db.execute config task decisionId draw decision with
    | error error => exact .unchanged _ _ rfl
    | ok returned =>
      obtain ⟨db', result, effects⟩ := returned
      cases found : db.task? task with
      | none =>
        obtain ⟨rfl, rfl⟩ := execute_of_absent found ran
        exact .unchanged _ _ rfl
      | some row =>
        rcases execute_moves found ran with ⟨rfl, rfl, -⟩ | ⟨row', columns, move, commits⟩
        · exact .unchanged _ _ rfl
        · exact .moved _ _ _ _ _ _ _ _ rfl (congrArg some (OrdersDb.taskId_of_task? found).symm) move commits
  | deadLetter letter now =>
    obtain ⟨db', changed, ran, ⟨rfl, -⟩ | ⟨row, row', columns, task, move, commits⟩⟩ :=
      handleDeadLetter_moves config db ⟨0, now⟩ letter
    · rw [OrdersDb.perform, ran]
      exact .unchanged _ _ rfl
    · rw [OrdersDb.perform, ran]
      exact .moved _ _ _ _ _ _ _ _ rfl task move commits

/-- What every transaction keeps holds after every run of transactions. -/
theorem OrdersDb.performAll_invariant {config : ExperimentConfig} {P : OrdersDb → Prop} {db : OrdersDb}
    (kept : ∀ db transaction, P db → P (db.perform config transaction).1) (before : P db)
    (transactions : List Transaction) : P (db.performAll config transactions).1 := by
  induction transactions generalizing db with
  | nil => exact before
  | cons transaction rest ih => exact ih (kept db transaction before)

/-! ## Transactions of the service -/

/-- A step of the service runs at most one transaction. -/
theorem step_transactions {deployment : Deployment} {s t : OrdersService} {label : OrdersLabel}
    (step : s.step deployment label = some t) :
    ∃ transactions, (s.db.performAll deployment.config transactions).1 = t.db := by
  have one : ∀ transaction, (s.db.perform deployment.config transaction).1 = t.db →
      ∃ transactions, (s.db.performAll deployment.config transactions).1 = t.db :=
    fun transaction same => ⟨[transaction], same⟩
  cases label with
  | createOrder request now =>
    obtain rfl := Option.some.inj step
    refine one (.createOrder deployment.executionId (canonicalJson request.items) now) ?_
    simp only [OrdersDb.perform, OrdersService.createOrder]
    cases s.db.createOrderWithTask deployment.executionId (canonicalJson request.items) now <;> rfl
  | consume message redelivered draw =>
    simp only [OrdersService.step] at step
    split_ifs at step
    obtain rfl := Option.some.inj step
    cases message with
    | inventoryEvent event =>
      refine one (.inventoryEvent event redelivered draw.now) ?_
      simp only [OrdersDb.perform, OrdersService.consume, OrdersDb.handle]
      cases s.db.handleInventoryEvent draw.now event redelivered <;> rfl
    | timeoutCheck task request =>
      refine one (.timeoutCheck task request draw.now) ?_
      simp only [OrdersDb.perform, OrdersService.consume, OrdersDb.handle]
      cases s.db.registerTimeout draw.now task request <;> rfl
    | dispatchAttempt task decisionId =>
      refine one (.dispatchAttempt task decisionId draw) ?_
      simp only [OrdersDb.perform, OrdersService.consume, OrdersDb.handle]
      cases s.db.dispatchScheduledAttempt deployment.config task decisionId draw <;> rfl
    | reevaluate task waitCount =>
      refine one (.reevaluate task waitCount draw.now) ?_
      simp only [OrdersDb.perform, OrdersService.consume, OrdersDb.handle]
      cases s.db.finishWait draw.now task waitCount <;> rfl
  | build owner seen =>
    refine ⟨[], ?_⟩
    simp only [OrdersService.step] at step
    split at step
    · obtain rfl := Option.some.inj step
      simp only [OrdersService.build]
      cases s.db.build deployment.config _ seen <;> rfl
    · cases step
  | decide owner output decisionId draw =>
    simp only [OrdersService.step] at step
    split at step
    · next state built =>
      obtain rfl := Option.some.inj step
      simp only [OrdersService.decide]
      cases deployment.validator.decision? state output with
      | none => exact ⟨[], rfl⟩
      | some decision =>
        refine ⟨[.execute state.taskId decisionId decision draw], ?_⟩
        simp only [OrdersDb.performAll, OrdersDb.perform]
        cases s.db.execute deployment.config state.taskId decisionId draw decision <;> rfl
    · cases step
  | raise owner =>
    simp only [OrdersService.step] at step
    split_ifs at step
    obtain rfl := Option.some.inj step
    exact ⟨[], rfl⟩
  | deadLetter letter now =>
    obtain rfl := Option.some.inj step
    refine one (.deadLetter letter now) ?_
    simp only [OrdersDb.perform, OrdersService.deadLetter]
    cases s.db.handleDeadLetter now letter <;> rfl

/-- The database of a reachable service is the outcome of a run of transactions. -/
theorem exists_performAll_of_reachable {deployment : Deployment} {s : OrdersService}
    (reachable : (ordersMachine deployment).Reachable s) :
    ∃ transactions, (OrdersDb.empty.performAll deployment.config transactions).1 = s.db := by
  refine Machine.Reachable.invariant (P := fun s =>
    ∃ transactions, (OrdersDb.empty.performAll deployment.config transactions).1 = s.db) ⟨[], rfl⟩ ?_ reachable
  rintro s label t - ⟨earlier, same⟩ - step
  obtain ⟨later, next⟩ := step_transactions step
  exact ⟨earlier ++ later, by rw [OrdersDb.performAll_append, same, next]⟩

end OrchLab
