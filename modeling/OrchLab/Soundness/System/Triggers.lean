import OrchLab.Soundness.Orders.Dispatches
import OrchLab.Soundness.Orders.Timeouts
import OrchLab.Soundness.System.Network

/-! # What acts on a task

A message in flight is a trigger of its task when the guards of its transaction let it act: open a
decision point, complete the task, or dispatch the attempt of a retry. The latest request is one while no
reply to it has been processed.
-/

namespace OrchLab

namespace OrdersDb

/-- A task that has not ended. -/
def alive (db : OrdersDb) (task : TaskId) : Bool := (db.task? task).any fun row => !row.status.terminal

/-- The guards of the transaction of a message let it act. -/
def accepts (db : OrdersDb) : OrdersMessage → Bool
  | .inventoryEvent event => db.alive event.taskId && !db.isEventProcessed event.messageId &&
      (decide (event.eventType = .stockReservationSucceeded) ||
        decide (event.eventType = .stockReservationFailed) && db.isCurrent event)
  | .timeoutCheck task request => db.alive task && isAwaitingReply (db.trajectory task) request &&
      !timeoutRegistered (db.trajectory task) request
  | .dispatchAttempt task _ => (db.task? task).any fun row => row.status = .retrying
  | .reevaluate task waitCount =>
    ((db.task? task).any fun row => row.status = .waiting && row.waitCount = waitCount) &&
      !waitFinished (db.trajectory task) waitCount

variable {config : ExperimentConfig} {db db' : OrdersDb} {row : TaskRow}

/-- A message that finds nothing to do is not accepted. -/
theorem not_accepts_of_ignores {message : OrdersMessage} (ignores : db.Ignores message) :
    db.accepts message = false := by
  cases message with
  | inventoryEvent event =>
    rcases ignores with processed | absent
    · simp [accepts, processed]
    · simp [accepts, alive, absent]
  | timeoutCheck task request =>
    cases found : db.task? task with
    | none => simp [accepts, alive, found]
    | some row =>
      cases settled : row.status.terminal with
      | true => simp [accepts, alive, found, settled]
      | false =>
        cases awaiting : isAwaitingReply (db.trajectory task) request with
        | false => simp [accepts, awaiting]
        | true => simp [accepts, ignores row found settled awaiting]
  | dispatchAttempt task decisionId =>
    cases found : db.task? task with
    | none => simp [accepts, found]
    | some row => simpa [accepts, found] using ignores row found
  | reevaluate task waitCount =>
    cases found : db.task? task with
    | none => simp [accepts, found]
    | some row =>
      by_cases waits : row.status = .waiting ∧ row.waitCount = waitCount
      · simp [accepts, ignores row found waits.1 waits.2]
      · simp [accepts, found, waits]

end OrdersDb

namespace OrdersService

/-- The latest request of a task, while no reply to it has been processed. -/
def unanswered (s : OrdersService) (task : TaskId) (request : MessageEnvelope) : Prop :=
  (s.requestsFor task).getLast? = some request ∧
    ∀ event ∈ s.received, event.taskId = task → event.eventSeq ≠ request.eventSeq

instance (s : OrdersService) (task : TaskId) (request : MessageEnvelope) :
    Decidable (s.unanswered task request) := inferInstanceAs (Decidable (_ ∧ _))

end OrdersService

end OrchLab
