import OrchLab.Model.Orders.Handlers

/-! # Transactions of `orders.db`

Everything the orders-service does to its database, one transaction at a time, with what each of them
returns to its caller. An error rolls the transaction back. Lists of transactions are the runs of the
database whatever the queues, the decision points and the engine do around it.
-/

namespace OrchLab

/-- A transaction with all it is given. -/
inductive Transaction where
  | createOrder (executionId itemsJson : String) (now : Timestamp)
  | inventoryEvent (event : MessageEnvelope) (redelivered : Bool) (now : Timestamp)
  | timeoutCheck (task : TaskId) (requestMessageId : MessageId) (now : Timestamp)
  | dispatchAttempt (task : TaskId) (decisionId : DecisionId) (draw : Draw)
  | reevaluate (task : TaskId) (waitCount : ℕ) (now : Timestamp)
  | execute (task : TaskId) (decisionId : DecisionId) (decision : Decision) (draw : Draw)
  | deadLetter (letter : DeadLetter) (now : Timestamp)
deriving DecidableEq

/-- What a transaction returns: the value of the function that ran it and the effects it schedules. -/
inductive Returned where
  | created (task : TaskId)
  | handled (outcome : EventOutcome)
  | registered (timeout : Bool)
  | dispatched (applied : Bool) (effects : List Effect)
  | finished (wait : Bool)
  | executed (result : ExecutionResult) (effects : List Effect)
  | deadLettered (changed : Bool)
  | raised (error : OrdersError)
deriving DecidableEq

namespace OrdersDb

/-- Commit, or roll back. -/
def settle {α : Type} (db : OrdersDb) (returns : α → Returned) :
    Except OrdersError (OrdersDb × α) → OrdersDb × Returned
  | .ok (committed, value) => (committed, returns value)
  | .error error => (db, .raised error)

/-- One transaction. -/
def perform (config : ExperimentConfig) (db : OrdersDb) : Transaction → OrdersDb × Returned
  | .createOrder executionId itemsJson now =>
    db.settle .created (db.createOrderWithTask executionId itemsJson now)
  | .inventoryEvent event redelivered now => db.settle .handled (db.handleInventoryEvent now event redelivered)
  | .timeoutCheck task request now => db.settle .registered (db.registerTimeout now task request)
  | .dispatchAttempt task decisionId draw =>
    db.settle (fun returned => .dispatched returned.1 returned.2)
      (db.dispatchScheduledAttempt config task decisionId draw)
  | .reevaluate task waitCount now => db.settle .finished (db.finishWait now task waitCount)
  | .execute task decisionId decision draw =>
    db.settle (fun returned => .executed returned.1 returned.2)
      (db.execute config task decisionId draw decision)
  | .deadLetter letter now => db.settle .deadLettered (db.handleDeadLetter now letter)

/-- A run of transactions, with what each of them returned. -/
def performAll (config : ExperimentConfig) (db : OrdersDb) : List Transaction → OrdersDb × List Returned
  | [] => (db, [])
  | transaction :: rest =>
    let (next, returned) := db.perform config transaction
    let (final, later) := next.performAll config rest
    (final, returned :: later)

theorem performAll_append (config : ExperimentConfig) (db : OrdersDb) (earlier later : List Transaction) :
    (db.performAll config (earlier ++ later)).1 =
      ((db.performAll config earlier).1.performAll config later).1 := by
  induction earlier generalizing db with
  | nil => rfl
  | cons transaction rest ih => exact ih (db.perform config transaction).1

end OrdersDb

end OrchLab
