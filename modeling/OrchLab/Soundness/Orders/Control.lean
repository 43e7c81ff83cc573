import OrchLab.Soundness.Orders.Files

/-! # What a task row can be

The columns of a task move together: the route fixes which statuses are possible and whether the fallback
is used, an attempt is counted only after a dispatch, the counters stay within the configuration although
no `UPDATE` checks them, and the order follows the task.
-/

namespace OrchLab

/-- The statuses a task can have on each route. -/
inductive Stage : Option Target → TaskStatus → Prop
  | settled {target : Option Target} {status : TaskStatus} (terminal : status.terminal = true) :
      Stage target status
  | pending : Stage none .pending
  | waiting {target : Option Target} : Stage target .waiting
  | dispatched : Stage (some .inventoryPrimary) .dispatched
  | retrying : Stage (some .inventoryPrimary) .retrying
  | fallbackProcessing : Stage (some .inventoryFallback) .fallbackProcessing

theorem orderStatusFor_eq_completed {status : TaskStatus} :
    orderStatusFor status = .completed ↔ status = .completed := by
  cases status <;> decide

/-- The items the API accepts are those of a valid request. -/
theorem CreateOrderRequest.payload_valid (request : CreateOrderRequest) (order : OrderId) :
    ReservationRequestPayload.valid ⟨order, request.items⟩ = true := by
  rw [ReservationRequestPayload.valid, Bool.and_eq_true, List.all_eq_true]
  exact ⟨by simpa using request.nonempty, request.valid⟩

/-- The order of a task: its status follows the task, and its items are those of a valid request. -/
structure OrderOf (row : TaskRow) (order : OrderRow) : Prop where
  status : order.status = orderStatusFor row.status
  items : ∃ items, loadsItems order.itemsJson = some items ∧
    ReservationRequestPayload.valid ⟨row.orderId, items⟩ = true

structure Controlled (deployment : Deployment) (row : TaskRow) (order : Option OrderRow) : Prop where
  orderId : row.orderId = row.taskId
  executionId : row.executionId = deployment.executionId
  stage : Stage row.currentTarget row.status
  fallbackUsed : row.fallbackUsed = decide (row.currentTarget = some .inventoryFallback)
  undispatched : row.currentTarget = none → row.attemptNumber = 1
  attempt_pos : 1 ≤ row.attemptNumber
  attempt_le : row.attemptNumber ≤ deployment.config.messaging.maxAttempts
  waits_le : row.waitCount ≤ deployment.config.messaging.maxWaits
  eventSeq_pos : 1 ≤ row.currentEventSeq
  order : ∃ placed, order = some placed ∧ OrderOf row placed

namespace Controlled

variable {deployment : Deployment} {row row' : TaskRow} {order : Option OrderRow}

theorem created {number : TaskId} {now : Timestamp} (request : CreateOrderRequest) :
    Controlled deployment (.created number deployment.executionId now)
      (some ⟨number, deployment.executionId, .pending, canonicalJson request.items, now, now⟩) where
  orderId := rfl
  executionId := rfl
  stage := .pending
  fallbackUsed := rfl
  undispatched _ := rfl
  attempt_pos := le_rfl
  attempt_le := deployment.config.messaging.maxAttempts_pos
  waits_le := Nat.zero_le _
  eventSeq_pos := le_rfl
  order := ⟨_, rfl, rfl, request.items, loadsItems_canonicalJson request.items, request.payload_valid number⟩

/-- The order after a move still follows its task. -/
private theorem order_move {config : ExperimentConfig} {db : OrdersDb} {draw : Draw} {cause : Cause}
    {columns : List EventColumns} {effects : List Effect} {opens : Bool}
    (move : Move config db draw row cause row' columns effects opens)
    (holds : ∃ placed, order = some placed ∧ OrderOf row placed) :
    ∃ placed, (if row'.status.terminal ≠ row.status.terminal then
      order.map (·.setStatus (orderStatusFor row'.status) row'.updatedAt) else order) = some placed ∧
        OrderOf row' placed := by
  obtain ⟨placed, rfl, status, items⟩ := holds
  rw [← move.keeps.orderId] at items
  split_ifs with ends
  · exact ⟨_, rfl, rfl, items⟩
  · exact ⟨placed, rfl, status.trans (move.orderStatusFor_eq (not_not.mp ends)).symm, items⟩

/-- Only an attempt on the primary route is retried. -/
theorem route_of_retrying (holds : Controlled deployment row order) (retrying : row.status = .retrying) :
    row.currentTarget = some .inventoryPrimary := by
  have stage := holds.stage
  rw [retrying] at stage
  generalize row.currentTarget = route at stage
  cases stage with
  | settled terminal => cases terminal
  | retrying => rfl

/-- A move that respects the limits of its decision keeps the row controlled. -/
theorem move {db : OrdersDb} {draw : Draw} {cause : Cause} {columns : List EventColumns}
    {effects : List Effect} {opens : Bool} (holds : Controlled deployment row order)
    (move : Move deployment.config db draw row cause row' columns effects opens)
    (permitted : ∀ decision id, cause = .decision decision id →
      Permits deployment.config row decision) :
    Controlled deployment row' (if row'.status.terminal ≠ row.status.terminal then
      order.map (·.setStatus (orderStatusFor row'.status) row'.updatedAt) else order) := by
  have follows := order_move move holds.order
  have later : ∀ {n : ℕ}, row.currentEventSeq ≤ n → 1 ≤ n := holds.eventSeq_pos.trans
  cases move with
  | repeated | inert | failed | timedOut | waitOver | deadLetterLogged =>
    exact ⟨holds.orderId, holds.executionId, holds.stage, holds.fallbackUsed, holds.undispatched,
      holds.attempt_pos, holds.attempt_le, holds.waits_le, later (by simp [TaskRow.bumpSeq,
        TaskRow.setLastResult]), follows⟩
  | completed | aborted | deadLettered =>
    exact ⟨holds.orderId, holds.executionId, .settled rfl, holds.fallbackUsed, holds.undispatched,
      holds.attempt_pos, holds.attempt_le, holds.waits_le, Nat.succ_pos _, follows⟩
  | retryDispatched decisionId items route retrying target =>
    refine ⟨holds.orderId, holds.executionId, ?_, holds.fallbackUsed, holds.undispatched,
      holds.attempt_pos, holds.attempt_le, holds.waits_le, Nat.succ_pos _, follows⟩
    change Stage row.currentTarget .dispatched
    rw [holds.route_of_retrying retrying]
    exact .dispatched
  | continued decision decisionId items action status target =>
    refine ⟨holds.orderId, holds.executionId, .dispatched, ?_, by rintro ⟨⟩, holds.attempt_pos, holds.attempt_le,
      holds.waits_le, Nat.succ_pos _, follows⟩
    exact holds.fallbackUsed.trans (by rw [target]; rfl)
  | retried decision decisionId action =>
    obtain ⟨primary, below⟩ : row.currentTarget = some .inventoryPrimary ∧
        row.attemptNumber < deployment.config.messaging.maxAttempts := by
      simpa only [Permits, action] using permitted decision decisionId rfl
    refine ⟨holds.orderId, holds.executionId, ?_, holds.fallbackUsed, fun none => ?_, Nat.succ_pos _, below,
      holds.waits_le, Nat.succ_pos _, follows⟩
    · change Stage row.currentTarget .retrying
      rw [primary]
      exact .retrying
    · change row.currentTarget = Option.none at none
      rw [primary] at none
      cases none
  | waited decision decisionId action =>
    have below : row.waitCount < deployment.config.messaging.maxWaits := by
      simpa only [Permits, action] using permitted decision decisionId rfl
    exact ⟨holds.orderId, holds.executionId, .waiting, holds.fallbackUsed, holds.undispatched,
      holds.attempt_pos, holds.attempt_le, below, Nat.succ_pos _, follows⟩
  | fellBack decision decisionId items route action target =>
    obtain ⟨-, toFallback⟩ : row.fallbackUsed = false ∧ decision.target = some .inventoryFallback := by
      simpa only [Permits, action] using permitted decision decisionId rfl
    obtain rfl : route = .inventoryFallback := by simpa [target] using toFallback
    exact ⟨holds.orderId, holds.executionId, .fallbackProcessing, rfl, by rintro ⟨⟩, holds.attempt_pos,
      holds.attempt_le, holds.waits_le, Nat.succ_pos _, follows⟩

end Controlled

/-- The permission of the decision that moves a task. -/
theorem Happens.permitted {deployment : Deployment} {s : OrdersService} {row : TaskRow} {opens : Bool}
    {label : OrdersLabel} {draw : Draw} {cause : Cause} {point point' : DecisionPoint}
    {executed : List Execution} (happens : Happens deployment s row opens label draw cause point point' executed) :
    ∀ decision id, cause = .decision decision id → Permits deployment.config row decision := by
  rintro decision id rfl
  cases happens with
  | decision _ _ _ _ _ _ _ _ _ _ permits => exact permits

/-- Every row of a reachable state is controlled. -/
theorem reachable_controlled {deployment : Deployment} {s : OrdersService}
    (reachable : (ordersMachine deployment).Reachable s) {task : TaskId} {file : TaskFile}
    (found : s.file? task = some file) : Controlled deployment file.row file.order := by
  refine reachable_file (P := fun file => Controlled deployment file.row file.order) ?_ ?_ reachable task
    file found
  · rintro task _ now n ⟨request, rfl⟩
    exact .created request
  · intro s label task file file' reachable found holds step
    cases step with
    | same | closed | built | noted | declined => exact holds
    | moved draw cause row' columns effects opens point executed move happens =>
      exact holds.move move happens.permitted

/-! ## Orders and their tasks -/

/-- An order has a task of its number. -/
theorem exists_task_of_order {deployment : Deployment} {s : OrdersService}
    (reachable : (ordersMachine deployment).Reachable s) :
    ∀ order, s.db.order? order ≠ none → s.db.task? order ≠ none := by
  have moved : ∀ {s : OrdersService} {db : OrdersDb} {row row' : TaskRow} {cause : Cause}
      {columns : List EventColumns}, (∀ order, s.db.order? order ≠ none → s.db.task? order ≠ none) →
        Commits s.db db row cause row' columns → ∀ order, db.order? order ≠ none → db.task? order ≠ none := by
    intro s db row row' cause columns holds commits order
    rw [commits.order?, commits.task?]
    split_ifs with ends here
    · simp
    · intro placed
      refine holds order fun none => placed ?_
      rw [none, Option.map_none]
    · simp
    · exact holds order
  refine Machine.Reachable.invariant (P := fun s => ∀ order, s.db.order? order ≠ none →
    s.db.task? order ≠ none) ?_ ?_ reachable
  · intro order placed
    exact absurd rfl placed
  · intro s label t _ holds _ step
    cases step_cases step with
    | uncreated | ignored | unconsumed | built | unbuilt | declined | unresolved | raised | unlettered => exact holds
    | created request now db number creates =>
      intro order
      change db.order? order ≠ none → db.task? order ≠ none
      rw [creates.order?, creates.task?]
      split_ifs
      · simp
      · exact holds order
    | consumed message redelivered draw db row row' columns effects opens idle task move commits =>
      exact moved holds commits
    | decided owner output decisionId draw state decision db row row' columns effects built task resolved
        approved move commits => exact moved holds commits
    | lettered letter now db row row' columns task move commits => exact moved holds commits

/-- Only a success completes a task. -/
theorem Move.completes {config : ExperimentConfig} {db : OrdersDb} {draw : Draw} {row row' : TaskRow}
    {cause : Cause} {columns : List EventColumns} {effects : List Effect} {opens : Bool}
    (move : Move config db draw row cause row' columns effects opens) (completed : row'.status = .completed) :
    row.status = .completed ∨ ∃ event payload, cause = .message (.inventoryEvent event) ∧
      event.payload = .succeeded payload := by
  cases move with
  | repeated | inert | failed | timedOut | waitOver | deadLetterLogged => exact .inl completed
  | completed event payload redelivered task fresh type => exact .inr ⟨event, payload, rfl, type⟩
  | retryDispatched | continued | retried | waited | fellBack | aborted | deadLettered => cases completed

/-- A completed task has received a success. -/
theorem exists_success_of_completed {deployment : Deployment} {s : OrdersService}
    (reachable : (ordersMachine deployment).Reachable s) {task : TaskId} {file : TaskFile}
    (found : s.file? task = some file) (completed : file.row.status = .completed) :
    ∃ event ∈ file.received, ∃ payload, event.payload = .succeeded payload := by
  refine reachable_file (P := fun file => file.row.status = .completed →
    ∃ event ∈ file.received, ∃ payload, event.payload = .succeeded payload) ?_ ?_ reachable task file
      found completed
  · intro task itemsJson now n _ completed
    cases completed
  · intro s label task file file' _ _ holds step completed
    cases step with
    | same | closed | built | declined => exact holds completed
    | noted event =>
      obtain ⟨success, member, payload⟩ := holds completed
      exact ⟨success, List.mem_append_left _ member, payload⟩
    | moved draw cause row' columns effects opens point executed move happens =>
      rcases move.completes completed with before | ⟨event, payload, rfl, type⟩
      · obtain ⟨success, member, payload⟩ := holds before
        exact ⟨success, List.mem_append_left _ member, payload⟩
      · exact ⟨event, List.mem_append_right _ (List.mem_singleton_self _), payload, type⟩

end OrchLab
