import OrchLab.Soundness.Orders.Ladder
import OrchLab.Soundness.Orders.Latency
import OrchLab.Soundness.Orders.Checks
import OrchLab.Soundness.Orders.Bounds

/-! # Escalation under the rules

One task is decided by the rules engine alone. Its snapshots are taken in time, with both queues served and
short, and each of its requests ends by its timeout, by a transient failure or by a success, before the inventory
says anything else about the task. Other tasks do what they like. Whatever the mix, the task climbs the ladder of
its attempts, and stops where a request succeeds.
-/

namespace OrchLab

/-! ## The environment -/

/-- A snapshot taken in time, with both queues served and the queue of the task short. -/
structure Observation.Untroubled (config : ExperimentConfig) (row : TaskRow) (seen : Observation) : Prop where
  started : row.createdAt ≤ seen.now
  early : (seen.now - row.createdAt).toNat < config.messaging.taskDeadlineMs
  served : 0 < seen.targetStats.consumerCount
  available : 0 < seen.fallbackStats.consumerCount
  short : seen.targetStats.messageCount < config.messaging.queueHighWatermark

instance (config : ExperimentConfig) (row : TaskRow) (seen : Observation) :
    Decidable (seen.Untroubled config row) :=
  decidable_of_iff (row.createdAt ≤ seen.now ∧ (seen.now - row.createdAt).toNat < config.messaging.taskDeadlineMs ∧
      0 < seen.targetStats.consumerCount ∧ 0 < seen.fallbackStats.consumerCount ∧
      seen.targetStats.messageCount < config.messaging.queueHighWatermark)
    ⟨fun ⟨started, early, served, available, short⟩ => ⟨started, early, served, available, short⟩,
      fun untroubled => ⟨untroubled.started, untroubled.early, untroubled.served, untroubled.available,
        untroubled.short⟩⟩

/-- What was seen without trouble shows none. -/
theorem OrdersDb.untroubled_of_build {db : OrdersDb} {config : ExperimentConfig} {task : TaskId}
    {seen : Observation} {state : SystemState} (built : db.build config task seen = .ok state)
    (untroubled : ∀ row ∈ db.task? task, seen.Untroubled config row) : state.Untroubled config := by
  obtain ⟨row, latency, found, -, -, rfl⟩ := exists_snapshot_of_build built
  have calm := untroubled row found
  refine ⟨calm.early, ?_, calm.short, decide_eq_true calm.available⟩
  simp only [snapshot, serviceStatus, if_neg calm.served.ne']
  split_ifs <;> rintro ⟨⟩

/-- A reply that ends an attempt: a success, or a transient failure. -/
def MessagePayload.endsAttempt : MessagePayload → Bool
  | .requested _ => false
  | .succeeded _ => true
  | .failed payload => payload.failureReason = .transientError

namespace OrdersService

/-- The task exists and has not ended. -/
def live (s : OrdersService) (task : TaskId) : Prop := ∃ row ∈ s.db.task? task, row.status.terminal = false

instance (s : OrdersService) (task : TaskId) : Decidable (s.live task) :=
  inferInstanceAs (Decidable (∃ row ∈ s.db.task? task, _))

/-- What the environment and the rules engine offer to the task that escalates. -/
def escalates (deployment : Deployment) (task : TaskId) (s : OrdersService) : OrdersLabel → Prop
  | .consume (.inventoryEvent event) _ _ => event.taskId = task → s.live task →
      ∃ request ∈ s.requestsFor task, s.timeoutApplies task request ∧ event.Answers request ∧
        event.payload.endsAttempt = true
  | .consume _ _ _ | .createOrder _ _ => True
  | .build owner seen => s.points owner = .opened task →
      ∀ row ∈ s.db.task? task, seen.Untroubled deployment.config row
  | .decide owner output decisionId draw => (s.points owner).task? = some task →
      s.rulesDecide deployment (.decide owner output decisionId draw)
  | .raise owner => (s.points owner).task? ≠ some task
  | .deadLetter letter _ => letter.taskId ≠ some task

instance (deployment : Deployment) (task : TaskId) (s : OrdersService) :
    ∀ label, Decidable (s.escalates deployment task label)
  | .consume (.inventoryEvent event) _ _ => by unfold escalates; infer_instance
  | .consume (.timeoutCheck ..) _ _ => inferInstanceAs (Decidable True)
  | .consume (.dispatchAttempt ..) _ _ => inferInstanceAs (Decidable True)
  | .consume (.reevaluate ..) _ _ => inferInstanceAs (Decidable True)
  | .createOrder .. => inferInstanceAs (Decidable True)
  | .build .. => by unfold escalates; infer_instance
  | .decide .. => by unfold escalates; infer_instance
  | .raise .. => by unfold escalates; infer_instance
  | .deadLetter .. => by unfold escalates; infer_instance

end OrdersService

/-- The orders-service while one of its tasks escalates. -/
def escalationMachine (deployment : Deployment) (task : TaskId) : Machine OrdersService OrdersLabel :=
  (ordersMachine deployment).restrict (OrdersService.escalates deployment task)

instance (deployment : Deployment) (task : TaskId) (s : OrdersService) (label : OrdersLabel) :
    Decidable ((escalationMachine deployment task).admissible s label) :=
  inferInstanceAs (Decidable (_ ∧ _))

/-! ## What was decided and published -/

/-- The queue a request is published to, and the attempt it carries. -/
def Effect.publication? : Effect → Option (Target × ℕ)
  | .publish envelope route => some (route, envelope.attemptNumber)
  | _ => none

namespace OrdersService

/-- The executed decisions of a task, by action and reason. -/
def stepsFor (s : OrdersService) (task : TaskId) : List (Action × String) :=
  (s.executedFor task).map fun execution => (execution.decision.action, execution.decision.reasonCode)

/-- The published requests of a task, by route and attempt. -/
def publicationsFor (s : OrdersService) (task : TaskId) : List (Target × ℕ) :=
  (s.sentFor task).filterMap Effect.publication?

end OrdersService

namespace TaskFile

def steps (file : TaskFile) : List (Action × String) :=
  file.executed.map fun execution => (execution.decision.action, execution.decision.reasonCode)

def publications (file : TaskFile) : List (Target × ℕ) := file.sent.filterMap Effect.publication?

section After

variable (file : TaskFile) (n : ℕ) (row' : TaskRow) (columns : List EventColumns) (point : DecisionPoint)
  (received : List MessageEnvelope) (effects : List Effect) (executed : List Execution)

theorem steps_after : (file.after n row' columns point received effects executed).steps = file.steps ++
    executed.map fun execution => (execution.decision.action, execution.decision.reasonCode) :=
  List.map_append

theorem publications_after : (file.after n row' columns point received effects executed).publications =
    file.publications ++ effects.filterMap Effect.publication? :=
  List.filterMap_append

end After

/-- The latest request has its reply or its timeout. -/
def attemptOver (file : TaskFile) : Prop :=
  ∀ request, file.requests.getLast? = some request →
    (∃ event ∈ file.received, event.eventSeq = request.eventSeq) ∨
      timeoutRegistered file.events request.messageId = true

end TaskFile

section Files

variable {s : OrdersService} {task : TaskId} {file : TaskFile}

theorem OrdersService.stepsFor_eq (found : s.file? task = some file) : s.stepsFor task = file.steps := by
  rw [stepsFor, executedFor, TaskFile.steps, (file?_eq_some_iff.mp found).2.2.2.2.2.2]

theorem OrdersService.publicationsFor_eq (found : s.file? task = some file) :
    s.publicationsFor task = file.publications := by
  rw [publicationsFor, sentFor, TaskFile.publications, (file?_eq_some_iff.mp found).2.2.2.2.2.1]

/-- Every publication is of one request. -/
theorem TaskFile.length_publications (file : TaskFile) : file.publications.length = file.requests.length := by
  rw [publications, requests]
  generalize file.sent = sent
  induction sent with
  | nil => rfl
  | cons effect rest ih =>
    rw [List.filterMap_cons, List.filterMap_cons]
    cases effect with
    | publish envelope route => exact congrArg Nat.succ ih
    | scheduleTimeoutCheck | scheduleDispatch | scheduleReevaluation => exact ih

/-- The request that awaits a reply is the latest one. -/
theorem exists_last_of_awaiting {deployment : Deployment} (reachable : (ordersMachine deployment).Reachable s)
    (found : s.file? task = some file) {request : MessageId}
    (awaiting : isAwaitingReply (s.db.trajectory task) request = true) :
    ∃ last, file.requests.getLast? = some last ∧ last.messageId = request := by
  obtain ⟨row, latest, names, -⟩ := isAwaitingReply_iff.mp awaiting
  rw [← (file?_eq_some_iff.mp found).2.2.1] at latest
  obtain ⟨last, asked, key⟩ := (reachable_requested reachable found).exists_last latest
  exact ⟨last, asked, Option.some_inj.mp ((congrArg RequestKey.messageId key).symm.trans names)⟩

/-- A timeout applies to no request when the latest one is over. -/
theorem not_timeoutApplies_of_over (found : s.file? task = some file) (attemptOver : file.attemptOver)
    (request : MessageEnvelope) : ¬s.timeoutApplies task request := by
  rintro ⟨-, last, unanswered, unregistered⟩
  obtain ⟨-, -, events, -, received, -⟩ := file?_eq_some_iff.mp found
  rw [OrdersService.requestsFor_eq found] at last
  rcases attemptOver request last with ⟨event, member, same⟩ | registered
  · rw [received, List.mem_filter, decide_eq_true_eq] at member
    exact unanswered event member.1 member.2 same
  · rw [events, unregistered] at registered
    cases registered

/-- A request that was just published is not over. -/
theorem not_over_of_asks {deployment : Deployment} (reachable : (ordersMachine deployment).Reachable s)
    (found : s.file? task = some file) {config : ExperimentConfig} {draw : Draw} {row' : TaskRow}
    {columns : List EventColumns} {effects : List Effect} {executed : List Execution} {n : ℕ}
    (asks : Asks config draw file.row row' columns effects) (fresh : s.freshMessage draw.messageId) :
    ¬(file.after n row' columns .closed [] effects executed).attemptOver := by
  have seq := asks.eventSeq
  obtain ⟨decisionId, items, route, first, -, rfl, rfl, internal⟩ := asks.request
  intro attemptOver
  have last : (file.after n row' (first ++ [requestColumns row' decisionId draw items]) .closed []
      (requestEffects config row' decisionId draw items route) executed).requests.getLast? =
        some (requestOf row' decisionId draw items) := by
    rw [TaskFile.requests_after_of_request]
    exact List.getLast?_concat
  rcases attemptOver _ last with ⟨event, member, same⟩ | registered
  · rw [TaskFile.after, List.append_nil] at member
    have before := OrdersService.eventSeq_le_of_received reachable found event member
    rw [same] at before
    exact absurd before (Nat.not_le_of_lt seq)
  · obtain ⟨event, member, timedOut⟩ := timeoutRegistered_iff.mp registered
    rcases List.mem_append.mp member with old | new
    · obtain ⟨asked, logged, names⟩ := (reachable_timedOut reachable found).requested event old _ timedOut
      rw [(file?_eq_some_iff.mp found).2.2.1, OrdersDb.mem_trajectory] at logged
      rcases (reachable_ledger reachable).logged asked logged.1 _ names with
        ⟨other, sent, same, -⟩ | ⟨other, heard, same, -⟩
      · exact fresh.1 other sent same
      · exact fresh.2 other heard same
    · have type : event.eventType ≠ .inventoryTimeout := by
        rcases List.mem_append.mp (mem_of_mem_numbered new) with noted | published
        · rw [internal _ noted]
          rintro ⟨⟩
        · rw [List.mem_singleton.mp published]
          rintro ⟨⟩
      rw [EventColumns.timedOut?, if_neg type] at timedOut
      cases timedOut

end Files

end OrchLab
