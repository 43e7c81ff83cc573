import OrchLab.Soundness.Orders.Conducting
import OrchLab.Soundness.Orders.Items

/-! # A request for an order that fails

The order is committed before its first decision point, and the decision before its effects. An exception in between
is answered with an error and leaves the task as it is: no message is about to move it, and no dead letter closes it.
-/

namespace OrchLab

/-- Nothing of the decision point raises: the decision is recorded, its transaction commits, and the queues take
every effect of its action. -/
def Surroundings.Serves (around : Surroundings) (deployment : Deployment) (engine : EngineName) (db : OrdersDb)
    (task : TaskId) : Prop :=
  ∃ state report decision, around.Records deployment engine db task state report decision ∧
    around.commits = true ∧ ∀ kind ∈ decision.action.effects, around.accepts kind = true

/-- A request that was answered with an error left nothing, or a task that has ended with its order; and a task that
has not ended has an effect that will act on it. -/
structure Conducted.NothingHalfMade (posted : Conducted) (db : OrdersDb) : Prop where
  failed : posted.outcome = none → posted.db = db ∨ ∃ row placed,
    posted.db.task? db.nextOrderNumber = some row ∧ row.status.terminal = true ∧
    posted.db.order? db.nextOrderNumber = some placed ∧ placed.status = .failed
  acted : ∀ row, posted.db.task? db.nextOrderNumber = some row → row.status.terminal = false →
    ∃ effect ∈ posted.sent, effect.taskId = db.nextOrderNumber

/-! ## The decision point of a live task -/

section DecisionPoint

variable {deployment : Deployment} {s : OrdersService} {task : TaskId} {row : TaskRow} {around : Surroundings}
  {engine : EngineName}

/-- A decision point in which nothing raises returns, and sends something unless it aborts. -/
theorem returns_of_serves (reachable : (ordersMachine deployment).Reachable s) (found : s.db.task? task = some row)
    (alive : row.status.terminal = false) (serves : around.Serves deployment engine s.db task) :
    (around.handleDecisionPoint deployment engine s.db task).outcome ≠ none ∧
      ∀ row', (around.handleDecisionPoint deployment engine s.db task).db.task? task = some row' →
        row'.status.terminal = false →
          ∃ effect ∈ (around.handleDecisionPoint deployment engine s.db task).sent, effect.taskId = task := by
  obtain ⟨state, report, decision, records, commits, accepted⟩ := serves
  obtain ⟨seen, -, built⟩ := records.built
  obtain ⟨after, result, effects, moved, columns, ran, move, changes⟩ :=
    exists_move_of_resolved reachable built found alive records.resolved around.decisionId around.draw
  have taken : ∀ effect ∈ effects, around.accepts effect.kind = true := by
    intro effect member
    apply accepted
    rw [← move.kinds_of_decision]
    exact List.mem_map_of_mem member
  have all : effects.all (around.accepts ·.kind) = true := List.all_eq_true.mpr taken
  rw [Surroundings.handleDecisionPoint_of_records records]
  simp only [Surroundings.concluded, Surroundings.execute_of_commit around ran commits, all, ↓reduceIte,
    Option.map_some, ne_eq, reduceCtorEq, not_false_eq_true, true_and, List.takeWhile_eq_self_iff.mpr taken]
  intro row' found' alive'
  have own := OrdersDb.taskId_of_task? found
  have same : moved = row' := by
    have here := changes.task?_self
    rw [own, found'] at here
    exact (Option.some_inj.mp here).symm
  have continues : decision.action ≠ .abort := by
    intro abort
    rw [← same, move.terminal_of_decision, abort] at alive'
    cases alive'
  have sends : effects ≠ [] := by
    rintro rfl
    have none := move.kinds_of_decision
    cases action : decision.action <;> simp [action, Action.effects] at none continues
  obtain ⟨effect, member⟩ := List.exists_mem_of_ne_nil effects sends
  exact ⟨effect, member, (move.effects_taskId effect member).trans own⟩

/-- A decision point that returns has met no exception. -/
theorem serves_of_returns (reachable : (ordersMachine deployment).Reachable s)
    (found : s.db.task? task = some row) (alive : row.status.terminal = false)
    (returns : (around.handleDecisionPoint deployment engine s.db task).outcome ≠ none) :
    around.Serves deployment engine s.db task := by
  rcases around.handleDecisionPoint_cases deployment engine s.db task with
    ⟨states, raised⟩ | ⟨state, report, decision, records, concludes⟩
  · exact absurd (by rw [raised]; rfl) returns
  · rw [concludes] at returns
    obtain ⟨seen, -, built⟩ := records.built
    obtain ⟨after, result, effects, moved, columns, ran, move, -⟩ :=
      exists_move_of_resolved reachable built found alive records.resolved around.decisionId around.draw
    cases commits : around.commits with
    | false =>
      simp only [Surroundings.concluded, Surroundings.execute_of_rollback deployment.config commits] at returns
      exact absurd rfl returns
    | true =>
      simp only [Surroundings.concluded, Surroundings.execute_of_commit around ran commits] at returns
      refine ⟨state, report, decision, records, commits, ?_⟩
      split_ifs at returns with all
      · intro kind member
        rw [← move.kinds_of_decision] at member
        obtain ⟨effect, here, rfl⟩ := List.mem_map.mp member
        exact List.all_eq_true.mp all effect here
      · exact absurd rfl returns

/-- A decision point that raises leaves its task alive. -/
theorem alive_of_raises (reachable : (ordersMachine deployment).Reachable s) (found : s.db.task? task = some row)
    (alive : row.status.terminal = false)
    (raises : (around.handleDecisionPoint deployment engine s.db task).outcome = none) :
    ∃ row', (around.handleDecisionPoint deployment engine s.db task).db.task? task = some row' ∧
      row'.status.terminal = false := by
  rcases around.handleDecisionPoint_cases deployment engine s.db task with
    ⟨states, raised⟩ | ⟨state, report, decision, records, concludes⟩
  · rw [raised]
    exact ⟨row, found, alive⟩
  · rw [concludes] at raises ⊢
    obtain ⟨seen, -, built⟩ := records.built
    obtain ⟨after, result, effects, moved, columns, ran, move, changes⟩ :=
      exists_move_of_resolved reachable built found alive records.resolved around.decisionId around.draw
    cases commits : around.commits with
    | false =>
      simp only [Surroundings.concluded, Surroundings.execute_of_rollback deployment.config commits]
      exact ⟨row, found, alive⟩
    | true =>
      simp only [Surroundings.concluded, Surroundings.execute_of_commit around ran commits] at raises ⊢
      refine ⟨moved, ?_, ?_⟩
      · rw [← OrdersDb.taskId_of_task? found]
        exact changes.task?_self
      · -- An abort has no effect that could raise.
        rw [move.terminal_of_decision, decide_eq_false_iff_not]
        intro abort
        have none := move.kinds_of_decision
        rw [abort, Action.effects, List.map_eq_nil_iff] at none
        simp [none] at raises

end DecisionPoint

/-- A request leaves nothing half-made exactly when its order is not persisted, or nothing of its first decision
point raises. -/
theorem nothing_half_made_iff {deployment : Deployment} {s : OrdersService}
    (reachable : (ordersMachine deployment).Reachable s) (engine : EngineName) (around : Surroundings)
    (persists : Bool) (request : CreateOrderRequest) (now : Timestamp) :
    (around.createOrder deployment engine persists s.db request now).NothingHalfMade s.db ↔
      persists = false ∨
        around.Serves deployment engine (s.createOrder deployment request now).db s.db.nextOrderNumber := by
  obtain ⟨created, success⟩ := exists_createOrderWithTask reachable deployment.executionId
    (canonicalJson request.items) now
  have creates := createOrder_succeeds reachable request now
  have later : (ordersMachine deployment).Reachable (s.createOrder deployment request now) :=
    reachable.snoc (l := .createOrder request now) trivial rfl
  have found : (s.createOrder deployment request now).db.task? s.db.nextOrderNumber =
      some (.created s.db.nextOrderNumber deployment.executionId now) := (creates.task? _).trans (if_pos rfl)
  have posted : around.createOrder deployment engine persists s.db request now =
      if persists then around.handleDecisionPoint deployment engine (s.createOrder deployment request now).db
        s.db.nextOrderNumber else .unchanged s.db := by
    simp only [Surroundings.createOrder, OrdersService.createOrder, success]
    rfl
  rw [posted]
  cases persists with
  | false =>
    refine iff_of_true ⟨fun _ => .inl rfl, fun row here => ?_⟩ (.inl rfl)
    cases creates.absent.symm.trans here
  | true =>
    simp only [↓reduceIte, reduceCtorEq, false_or]
    constructor
    · intro whole
      apply serves_of_returns later found rfl
      intro raises
      obtain ⟨row, here, alive⟩ := alive_of_raises later found rfl raises
      rcases whole.failed raises with same | ⟨row', -, here', settled, -⟩
      · rw [same, creates.absent] at here
        cases here
      · cases here.symm.trans here'
        simp [settled] at alive
    · intro serves
      obtain ⟨returns, acted⟩ := returns_of_serves later found rfl serves
      exact ⟨fun raises => absurd raises returns, acted⟩

/-! ## A queue that refuses the request -/

/-- The rules decide on an idle broker, and no request can be published. -/
def Surroundings.unpublished : Surroundings :=
  { Surroundings.calm (.calm 1 1) 1 ⟨10, 2⟩ with
    engine := fun state => (RulesDecisionEngine.ofConfig .pilot).decide? state |>.map fun output =>
      ⟨output, none, none, none, none⟩
    accepts := (· ≠ .publication) }

/-- An order whose first request cannot be published is answered with an error and stays dispatched. -/
theorem not_nothing_half_made : ¬∀ (deployment : Deployment) (s : OrdersService) (engine : EngineName)
    (around : Surroundings) (persists : Bool) (request : CreateOrderRequest) (now : Timestamp),
    (ordersMachine deployment).Reachable s →
      (around.createOrder deployment engine persists s.db request now).NothingHalfMade s.db := by
  intro claim
  have whole := claim .pilot .initial .rules .unpublished true .single 0 (ordersMachine .pilot).reachable_initial
  have dispatched : (Surroundings.unpublished.createOrder .pilot .rules true .empty .single 0).outcome = none ∧
      ((Surroundings.unpublished.createOrder .pilot .rules true .empty .single 0).db.task? 1).map (·.status) =
        some .dispatched := by
    decide +kernel
  rcases whole.failed dispatched.1 with same | ⟨row, -, here, settled, -⟩
  · have left := dispatched.2
    change ((Surroundings.unpublished.createOrder .pilot .rules true .empty .single 0).db = .empty) at same
    rw [same] at left
    cases left
  · have left := dispatched.2
    change ((Surroundings.unpublished.createOrder .pilot .rules true .empty .single 0).db.task? 1) = some row at here
    rw [here, Option.map_some, Option.some_inj] at left
    rw [left] at settled
    cases settled

/-- The equivalence for the first order of a deployment. -/
theorem nothing_half_made_iff_pilot :
    (Surroundings.unpublished.createOrder .pilot .rules true OrdersService.initial.db .single 0).NothingHalfMade
        OrdersService.initial.db ↔
      true = false ∨ Surroundings.unpublished.Serves .pilot .rules
        (OrdersService.initial.createOrder .pilot .single 0).db OrdersService.initial.db.nextOrderNumber :=
  nothing_half_made_iff (ordersMachine .pilot).reachable_initial .rules .unpublished true .single 0

end OrchLab
