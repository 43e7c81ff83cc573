import OrchLab.Soundness.Orders.Bounds
import OrchLab.Soundness.System.Coverage
import Mathlib.Algebra.BigOperators.Ring.Finset
import Mathlib.Algebra.Order.BigOperators.Group.Finset

/-! # The work that is left

A message, an open decision point, a dead letter and a route that waits for a process each stand for a few
steps, and what is left of a task's budget stands for the messages its decisions may still send. Every step
of a process that survives lowers the total, unless it places an order or delivers a message once more.
-/

namespace OrchLab

/-- The decisions a row still allows: the first dispatch, the retries, the waits and the fallback. -/
def TaskRow.budgetLeft (config : ExperimentConfig) (row : TaskRow) : ℕ :=
  row.currentTarget.isNone.toNat + (config.messaging.maxAttempts - row.attemptNumber) +
    (config.messaging.maxWaits - row.waitCount) + (!row.fallbackUsed).toNat

/-- A snapshot, a decision, and a dead letter when one of them raises. -/
def DecisionPoint.work : DecisionPoint → ℕ
  | .closed => 0
  | .opened _ => 3
  | .built _ => 2

@[simp] theorem DecisionPoint.work_closed : DecisionPoint.closed.work = 0 := rfl

/-- A message may open a decision point; a scheduled dispatch publishes a request with its timeout. -/
def OrdersMessage.work : OrdersMessage → ℕ
  | .dispatchAttempt .. => 13
  | _ => 4

@[simp] theorem OrdersMessage.work_timeoutCheck (task : TaskId) (request : MessageId) :
    (OrdersMessage.timeoutCheck task request).work = 4 := rfl

@[simp] theorem OrdersMessage.work_dispatchAttempt (task : TaskId) (decisionId : DecisionId) :
    (OrdersMessage.dispatchAttempt task decisionId).work = 13 := rfl

@[simp] theorem OrdersMessage.work_reevaluate (task : TaskId) (waitCount : ℕ) :
    (OrdersMessage.reevaluate task waitCount).work = 4 := rfl

/-- A request is processed, its reply is sent, and it may become a dead letter. -/
def Effect.work : Effect → ℕ
  | .publish .. => 7
  | .scheduleDispatch .. => 13
  | _ => 4

namespace OrdersService

variable (config : ExperimentConfig) (s : OrdersService)

def taskIds : Finset TaskId := (s.db.tasks.rows.map (·.taskId)).toFinset

/-- The budget of a task and the decision point the API has open on it. -/
def taskWork (task : TaskId) : ℕ :=
  13 * (s.db.task? task).elim 0 (·.budgetLeft config) + (s.points (.api task)).work

def work : ℕ := (s.points .worker).work + ∑ task ∈ s.taskIds, s.taskWork config task

end OrdersService

/-- Both routes, the queues, and what the orders-service has to do. -/
def System.work (config : ExperimentConfig) (s : System) : ℕ :=
  s.service.work config + (s.events.map (·.work)).sum + 7 * s.requests.length + s.deadLetters.length +
    (s.answering .inventoryPrimary).isNone.toNat + (s.answering .inventoryFallback).isNone.toNat

/-- A sum follows the one term that changes. -/
private theorem sum_add_of_eq_off {ι : Type*} [DecidableEq ι] {terms : Finset ι} {f g : ι → ℕ} {i : ι} {a b : ℕ}
    (member : i ∈ terms) (others : ∀ j, j ≠ i → g j = f j) (own : g i + a = f i + b) :
    ∑ j ∈ terms, g j + a = ∑ j ∈ terms, f j + b := by
  have same : ∑ j ∈ terms.erase i, g j = ∑ j ∈ terms.erase i, f j :=
    Finset.sum_congr rfl fun j off => others j (Finset.ne_of_mem_erase off)
  rw [← Finset.add_sum_erase _ _ member, ← Finset.add_sum_erase _ _ member, same]
  omega

/-! ## The orders-service -/

namespace Move

variable {config : ExperimentConfig} {db : OrdersDb} {draw : Draw} {row row' : TaskRow} {cause : Cause}
  {columns : List EventColumns} {effects : List Effect} {opens : Bool}

theorem budgetLeft_le (move : Move config db draw row cause row' columns effects opens) :
    row'.budgetLeft config ≤ row.budgetLeft config := by
  cases move with
  | continued decision decisionId items action status target =>
    simp [TaskRow.budgetLeft, TaskRow.bumpSeq, TaskRow.dispatchTo]
  | retried =>
    simp only [TaskRow.budgetLeft, TaskRow.bumpSeq, TaskRow.retry]
    omega
  | waited =>
    simp only [TaskRow.budgetLeft, TaskRow.bumpSeq, TaskRow.wait]
    omega
  | fellBack decision decisionId items route action target live unused =>
    simp only [TaskRow.budgetLeft, TaskRow.bumpSeq, TaskRow.fallBack, unused, Option.isNone_some, Bool.toNat_false,
      Bool.not_true, Bool.not_false, Bool.toNat_true]
    omega
  | _ => exact le_rfl

/-- A decision pays for what it sends out of its task's budget. -/
theorem work_of_decision {decision : Decision} {decisionId : DecisionId}
    (move : Move config db draw row (.decision decision decisionId) row' columns effects opens)
    (permits : Permits config row decision) :
    (effects.map Effect.work).sum + 13 * row'.budgetLeft config ≤ 13 * row.budgetLeft config := by
  rw [Permits] at permits
  cases move with
  | continued decision decisionId items action status target =>
    simp only [TaskRow.budgetLeft, TaskRow.bumpSeq, TaskRow.dispatchTo, requestEffects, Effect.work, target,
      List.map_cons, List.map_nil, List.sum_cons, List.sum_nil, Option.isNone_none, Option.isNone_some,
      Bool.toNat_true, Bool.toNat_false]
    omega
  | retried decision decisionId action =>
    simp only [action] at permits
    simp only [TaskRow.budgetLeft, TaskRow.bumpSeq, TaskRow.retry, Effect.work, List.map_cons, List.map_nil,
      List.sum_cons, List.sum_nil]
    omega
  | waited decision decisionId action =>
    simp only [action] at permits
    simp only [TaskRow.budgetLeft, TaskRow.bumpSeq, TaskRow.wait, Effect.work, List.map_cons, List.map_nil,
      List.sum_cons, List.sum_nil]
    omega
  | fellBack decision decisionId items route action target live unused =>
    simp only [TaskRow.budgetLeft, TaskRow.bumpSeq, TaskRow.fallBack, requestEffects, Effect.work, unused,
      List.map_cons, List.map_nil, List.sum_cons, List.sum_nil, Option.isNone_some, Bool.toNat_true,
      Bool.toNat_false, Bool.not_true, Bool.not_false]
    omega
  | aborted => simp [TaskRow.budgetLeft, TaskRow.bumpSeq, TaskRow.setStatus]

/-- A message sends less than it stands for. -/
theorem work_of_message {message : OrdersMessage}
    (move : Move config db draw row (.message message) row' columns effects opens) :
    (effects.map Effect.work).sum + 2 ≤ message.work := by
  cases move <;> simp [OrdersMessage.work, requestEffects, Effect.work]

end Move

namespace OrdersService

variable {config : ExperimentConfig} {s t : OrdersService}

theorem mem_taskIds {task : TaskId} : task ∈ s.taskIds ↔ s.db.task? task ≠ none := by
  rw [taskIds, List.mem_toFinset, Table.mem_map_key, OrdersDb.task?]

theorem work_congr (tasks : ∀ task, t.db.task? task = s.db.task? task) (points : t.points = s.points) :
    t.work config = s.work config := by
  have same : t.taskIds = s.taskIds := by
    ext task
    rw [mem_taskIds, mem_taskIds, tasks]
  simp only [work, taskWork, same, points, tasks]

/-- A commit changes the budget of one task. -/
theorem work_of_edits (config : ExperimentConfig) {db : OrdersDb} {row row' : TaskRow} {columns : List EventColumns}
    (edits : Edits s.db db row row' columns) :
    OrdersService.work config { s with db } + 13 * row.budgetLeft config =
      s.work config + 13 * row'.budgetLeft config := by
  have same : OrdersService.taskIds { s with db } = s.taskIds := by
    ext task
    rw [mem_taskIds, mem_taskIds]
    change db.task? task ≠ none ↔ _
    rw [edits.task?]
    split_ifs with own
    · rw [own, edits.found]
      simp
    · rfl
  have member : row.taskId ∈ s.taskIds := by
    rw [mem_taskIds, edits.found]
    exact Option.some_ne_none _
  have others : ∀ task, task ≠ row.taskId →
      OrdersService.taskWork config { s with db } task = s.taskWork config task := by
    intro task other
    simp only [taskWork, edits.task?, other, if_false]
  have own : OrdersService.taskWork config { s with db } row.taskId + 13 * row.budgetLeft config =
      s.taskWork config row.taskId + 13 * row'.budgetLeft config := by
    simp only [taskWork, edits.task?, if_true, edits.found, Option.elim_some]
    omega
  have total := sum_add_of_eq_off member others own
  simp only [work, same]
  omega

/-- Opening or closing a decision point changes its own work. -/
theorem work_setPoint (config : ExperimentConfig) (owner : DecisionOwner) (point : DecisionPoint)
    (known : ∀ task, owner = .api task → s.db.task? task ≠ none) :
    (s.setPoint owner point).work config + (s.points owner).work = s.work config + point.work := by
  have same : (s.setPoint owner point).taskIds = s.taskIds := rfl
  cases owner with
  | worker =>
    have others : ∀ task, (s.setPoint .worker point).taskWork config task = s.taskWork config task := by
      intro task
      simp only [taskWork, setPoint_points, reduceCtorEq, if_false]
      rfl
    simp only [work, same, others, setPoint_points, if_true]
    omega
  | api named =>
    have member : named ∈ s.taskIds := mem_taskIds.mpr (known named rfl)
    have others : ∀ task, task ≠ named →
        (s.setPoint (.api named) point).taskWork config task = s.taskWork config task := by
      intro task other
      simp only [taskWork, setPoint_points, DecisionOwner.api.injEq, other, if_false]
      rfl
    have own : (s.setPoint (.api named) point).taskWork config named + (s.points (.api named)).work =
        s.taskWork config named + point.work := by
      simp only [taskWork, setPoint_points, if_true]
      change 13 * (s.db.task? named).elim 0 _ + _ + _ = _
      omega
    have total := sum_add_of_eq_off member others own
    simp only [work, same, setPoint_points, reduceCtorEq, if_false]
    omega

end OrdersService

section Service

variable {deployment : Deployment} {s : OrdersService} {owner : DecisionOwner} {draw : Draw}

/-- The API opens decision points on tasks it knows. -/
theorem Coherent.known_of_busy (coherent : Coherent deployment s) (busy : s.points owner ≠ .closed) (task : TaskId)
    (named : owner = .api task) : s.db.task? task ≠ none := by
  subst named
  cases about : (s.points (.api task)).task? with
  | none =>
    cases opened : s.points (.api task) with
    | closed => exact absurd opened busy
    | opened | built => simp [opened, DecisionPoint.task?] at about
  | some own =>
    have same := coherent.own task own about
    exact same ▸ coherent.known (.api task) own about

namespace OrdersService

/-- A message that is processed opens a decision point or leaves less to do than it stands for. -/
theorem work_consume {message : OrdersMessage} {redelivered : Bool} {handled : Handled}
    (success : s.db.handle deployment.config message redelivered draw = .ok handled) :
    (s.consume deployment message redelivered draw).work deployment.config ≤
      s.work deployment.config + (if handled.decisionRequired then 3 else 0) ∧
      (handled.effects.map Effect.work).sum + 2 ≤ message.work := by
  have points : ∀ db : OrdersDb, (s.consume deployment message redelivered draw).db = db →
      (s.consume deployment message redelivered draw).work deployment.config ≤
        OrdersService.work deployment.config { s with db } + (if handled.decisionRequired then 3 else 0) := by
    rintro db rfl
    rw [consume_of_ok success]
    have set := work_setPoint
      (s := { s with db := handled.db, received := s.receive message, sent := s.sent ++ handled.effects })
      deployment.config .worker (if handled.decisionRequired then .opened message.taskId else .closed) (by simp)
    have same : OrdersService.work deployment.config { s with
        db := handled.db, received := s.receive message, sent := s.sent ++ handled.effects } =
        OrdersService.work deployment.config { s with db := handled.db } := work_congr (fun _ => rfl) rfl
    refine le_trans (Nat.le_add_right _ _) (set.trans_le ?_)
    rw [same]
    split_ifs <;> exact le_rfl
  have db : (s.consume deployment message redelivered draw).db = handled.db := by
    rw [consume_of_ok success]
    rfl
  rcases handle_moves success with ⟨rfl, -⟩ | ⟨row, row', columns, -, move, commits⟩
  · refine ⟨points s.db db, ?_⟩
    cases message <;> simp [OrdersMessage.work]
  · have spent := work_of_edits deployment.config commits.toEdits
    have less := move.budgetLeft_le
    have opened := points _ db
    exact ⟨by omega, move.work_of_message⟩

/-- A decision that is executed closes its point and pays for what it sends. -/
theorem work_decide {state : SystemState} {output : EngineOutput} {decisionId : DecisionId} {decision : Decision}
    {db : OrdersDb} {result : ExecutionResult} {effects : List Effect} (coherent : Coherent deployment s)
    (built : s.points owner = .built state)
    (resolved : deployment.validator.decision? state output = some decision)
    (success : s.db.execute deployment.config state.taskId decisionId draw decision = .ok (db, result, effects)) :
    (s.decide deployment owner state output decisionId draw).work deployment.config +
      (effects.map Effect.work).sum + 2 ≤ s.work deployment.config := by
  have busy : s.points owner ≠ .closed := by simp [built]
  have closed := work_setPoint deployment.config owner .closed (coherent.known_of_busy busy)
  rw [built] at closed
  have same : (s.decide deployment owner state output decisionId draw).work deployment.config =
      OrdersService.work deployment.config { s.setPoint owner .closed with db } := by
    rw [decide_of_ok resolved success]
    exact work_congr (fun _ => rfl) rfl
  rw [same]
  simp only [DecisionPoint.work] at closed
  have quiet : db = s.db → effects = [] →
      OrdersService.work deployment.config { s.setPoint owner .closed with db } +
        (effects.map Effect.work).sum + 2 ≤ s.work deployment.config := by
    rintro rfl rfl
    have unchanged : OrdersService.work deployment.config { s.setPoint owner .closed with db := s.db } =
        (s.setPoint owner .closed).work deployment.config := work_congr (fun _ => rfl) rfl
    simp only [unchanged, List.map_nil, List.sum_nil]
    omega
  cases found : s.db.task? state.taskId with
  | none =>
    obtain ⟨same, none⟩ := execute_of_absent found success
    exact quiet same none
  | some row =>
    rcases execute_moves found success with ⟨same, none, -⟩ | ⟨row', columns, move, commits⟩
    · exact quiet same none
    · have describes := (coherent.built owner state built row found).resolve_left (by simp [move.alive_of_decision])
      have paid := move.work_of_decision
        (permits_of_describes describes
          (DecisionValidator.approves_of_resolve? (DecisionValidator.resolve?_of_decision? resolved)))
      have spent : OrdersService.work deployment.config { s.setPoint owner .closed with db } +
          13 * row.budgetLeft deployment.config = (s.setPoint owner .closed).work deployment.config +
            13 * row'.budgetLeft deployment.config := work_of_edits _ commits.toEdits
      omega

/-- A dead letter leaves no more to do. -/
theorem work_deadLetter (deployment : Deployment) (s : OrdersService) (letter : DeadLetter) (now : Timestamp) :
    (s.deadLetter letter now).work deployment.config ≤ s.work deployment.config := by
  obtain ⟨db, changed, ran, moves⟩ := handleDeadLetter_moves deployment.config s.db ⟨0, now⟩ letter
  have same : s.deadLetter letter now = { s with db } := by simp only [deadLetter, ran]
  rw [same]
  rcases moves with ⟨rfl, -⟩ | ⟨row, row', columns, -, move, commits⟩
  · exact le_rfl
  · have spent := work_of_edits deployment.config commits.toEdits
    have less := move.budgetLeft_le
    omega

end OrdersService

end Service

/-! ## The broker and the routes -/

/-- A process that does not die. -/
theorem Ending.survives_cases {ending : Ending} (survives : ending.survives = true) :
    ending = .done ∨ ∃ count, ending = .raised count := by
  cases ending with
  | done => exact .inl rfl
  | raised count => exact .inr ⟨count, rfl⟩
  | died => cases survives

/-- What is performed is no more than what was to be. -/
theorem Ending.work_performed (ending : Ending) (effects : List Effect) :
    ((ending.performed effects).map Effect.work).sum ≤ (effects.map Effect.work).sum := by
  cases ending with
  | done => exact le_rfl
  | raised count | died count => exact ((List.take_sublist count effects).map _).sum_le_sum fun _ _ => Nat.zero_le _

namespace System

variable {config : ExperimentConfig} {s : System}

theorem work_emit (effects : List Effect) :
    (s.emit effects).work config = s.work config + (effects.map Effect.work).sum := by
  have published : ((effects.filterMap Effect.message?).map (·.work)).sum +
      7 * (effects.filterMap Effect.routed?).length = (effects.map Effect.work).sum := by
    induction effects with
    | nil => rfl
    | cons effect rest ih =>
      cases effect <;>
        simp only [List.filterMap_cons, Effect.message?, Effect.routed?, List.map_cons, List.sum_cons,
          List.length_cons, Effect.work, OrdersMessage.work_timeoutCheck, OrdersMessage.work_dispatchAttempt,
          OrdersMessage.work_reevaluate] <;>
        omega
  simp only [work, emit_service, emit_events, emit_requests, emit_deadLetters, emit_answering, List.map_append,
    List.sum_append, List.length_append]
  omega

theorem work_finish {message : OrdersMessage} {ending : Ending} (survives : ending.survives = true) :
    (s.finish message ending).work config ≤ s.work config + 1 := by
  rcases Ending.survives_cases survives with rfl | ⟨count, rfl⟩
  · exact Nat.le_succ _
  · simp only [work, finish, List.length_append, List.length_singleton]
    omega

theorem work_leave {owner : DecisionOwner} {ending : Ending} (survives : ending.survives = true) :
    (s.leave owner ending).work config ≤ s.work config + 1 := by
  cases owner with
  | api => exact Nat.le_succ _
  | worker =>
    cases held : s.holding with
    | none => simp [leave, held]
    | some message =>
      simp only [leave, held]
      exact work_finish (s := { s with holding := none }) survives

theorem work_of_service (config : ExperimentConfig) (s : System) (service : OrdersService) :
    System.work config { s with service } + s.service.work config = s.work config + service.work config := by
  simp only [work]
  omega

end System

end OrchLab
