import OrchLab.Soundness.Orders.Requests

/-! # What the validator approves can be executed

The validator, the contract of a decision and the guards of the updates are three sets of rules. On a
snapshot of a reachable row they agree: an approved proposal is a decision whose guard passes, and its
request is a valid envelope.
-/

namespace OrchLab

/-- The guard of the update an action starts with. -/
def OrdersDb.guardPasses (db : OrdersDb) (task : TaskId) (decision : Decision) (now : Timestamp) : Bool :=
  match decision.action with
  | .continueFlow => (db.startFirstDispatch task .inventoryPrimary now).isSome
  | .retry => (db.startRetry task now).isSome
  | .wait => (db.enterWait task now).isSome
  | .fallback => (db.startFallback task decision.target now).isSome
  | .abort => (db.abortTask task now).isSome

/-! ## Executing on a controlled row -/

namespace OrdersDb

variable {deployment : Deployment} {config : ExperimentConfig} {db : OrdersDb} {task : TaskId}
  {row : TaskRow} {decision : Decision} {decisionId : DecisionId} {draw : Draw}

variable (config decisionId draw) in
/-- A dispatched row with a readable order publishes its request. -/
theorem publishRequest_succeeds {placed : OrderRow} {route : Target}
    (found : db.task? task = some row) (target : row.currentTarget = some route)
    (order : db.order? row.orderId = some placed)
    (items : ∃ items, loadsItems placed.itemsJson = some items ∧
      ReservationRequestPayload.valid ⟨row.orderId, items⟩ = true)
    (executionId : isExecutionId row.executionId = true) (attempt : 1 ≤ row.attemptNumber) :
    ∃ db' effects, db.publishRequest config task decisionId draw = .ok (db', effects) := by
  obtain ⟨items, read, valid⟩ := items
  have loads : db.itemsOf? row = some items := by rw [itemsOf?, order, Option.bind_some, read]
  refine ⟨_, _, publishRequest_of_found found target loads ?_⟩
  simp only [MessageEnvelope.valid, requestOf, TaskRow.bumpSeq, executionId, valid, Bool.and_eq_true,
    Bool.and_true, true_and]
  exact ⟨decide_eq_true (Nat.succ_pos _), decide_eq_true attempt⟩

private theorem startFirstDispatch_of_permits (found : db.task? task = some row)
    (stage : Stage row.currentTarget row.status) (alive : row.status.terminal = false)
    (permits : row.currentTarget = none) (now : Timestamp) :
    db.startFirstDispatch task .inventoryPrimary now = some (db.modifyTask task
      (TaskRow.dispatchTo .inventoryPrimary now) (TaskRow.dispatchTo_taskId .inventoryPrimary now)) := by
  have status : row.status = .pending ∨ row.status = .waiting := by
    rw [permits] at stage
    generalize row.status = status at stage alive
    cases stage with
    | settled terminal => simp [terminal] at alive
    | pending => exact .inl rfl
    | waiting => exact .inr rfl
  rw [startFirstDispatch, updateTask?_of_found found, if_pos]
  simpa [permits] using status

variable (decisionId draw) in
/-- A permitted decision on a live row passes its guard and is executed. -/
theorem execute_of_permits (found : db.task? task = some row)
    (holds : Controlled deployment row (db.order? task)) (executionId : isExecutionId row.executionId = true)
    (alive : row.status.terminal = false) (permits : Permits config row decision) :
    db.guardPasses task decision draw.now = true ∧ ∃ db' messages effects,
      db.execute config task decisionId draw decision =
        .ok (db', ⟨decision.action, true, messages⟩, effects) := by
  obtain ⟨placed, order, follows⟩ := holds.order
  have same : row.orderId = task := holds.orderId.trans (taskId_of_task? found)
  have moved : ∀ (f : TaskRow → TaskRow) keeps, (db.modifyTask task f keeps).task? task = some (f row) :=
    fun f keeps => by rw [task?_modifyTask, if_pos rfl, found, Option.map_some]
  rw [guardPasses, execute]
  rw [Permits] at permits
  cases action : decision.action with
  | continueFlow =>
    simp only [action] at permits
    simp only [executeContinue, startFirstDispatch_of_permits found holds.stage alive permits]
    obtain ⟨db', effects, published⟩ := publishRequest_succeeds config decisionId draw
      (moved (TaskRow.dispatchTo .inventoryPrimary draw.now) (TaskRow.dispatchTo_taskId _ _)) rfl
      (by rw [order?_modifyTask]; exact (congrArg db.order? same).trans order) follows.items executionId
      holds.attempt_pos
    exact ⟨rfl, db', _, effects, by rw [published]; rfl⟩
  | retry =>
    simp only [action] at permits
    have guard : (row.currentTarget.isSome && !row.status.terminal) = true := by simp [permits.1, alive]
    simp only [executeRetry, startRetry, updateTask?_of_found found, guard, ↓reduceIte, Option.bind_some,
      moved, Option.map_some, recordInternalEvent_of_found (moved _ _)]
    exact ⟨rfl, _, _, _, rfl⟩
  | wait =>
    simp only [executeWait, enterWait, updateTask?_of_found found, alive, Bool.not_false, ↓reduceIte,
      Option.bind_some, moved, Option.map_some, recordInternalEvent_of_found (moved _ _)]
    exact ⟨rfl, _, _, _, rfl⟩
  | fallback =>
    simp only [action] at permits
    simp only [executeFallback, startFallback, updateTask?_of_found found, permits.1, alive, Bool.not_false,
      Bool.and_self, ↓reduceIte, recordInternalEvent_of_found (moved _ _)]
    have noted := (Edits.of_internal (moved (TaskRow.fallBack decision.target draw.now)
      (TaskRow.fallBack_taskId _ _)) .fallbackScheduled (some (.fallbackScheduled decisionId))
        draw.now).task?_self
    rw [TaskRow.fallBack_taskId, taskId_of_task? found] at noted
    obtain ⟨db', effects, published⟩ := publishRequest_succeeds config decisionId draw noted permits.2
      (by
        rw [order?_appendEvent, order?_modifyTask, order?_modifyTask]
        exact (congrArg db.order? same).trans order) follows.items executionId holds.attempt_pos
    exact ⟨rfl, db', _, effects, by rw [published]; rfl⟩
  | abort =>
    have ended : ((db.modifyTask task (TaskRow.setStatus .aborted draw.now)
        (TaskRow.setStatus_taskId .aborted draw.now)).setOrderStatus row.orderId
          (orderStatusFor .aborted) draw.now).task? task = some (row.setStatus .aborted draw.now) :=
      moved _ (TaskRow.setStatus_taskId .aborted draw.now)
    simp only [executeAbort, abortTask, finishTask_of_found found, alive, Bool.false_eq_true, ↓reduceIte,
      recordInternalEvent_of_found ended]
    exact ⟨rfl, _, _, _, rfl⟩

/-- An abort changes nothing of a task that has ended. -/
theorem execute_abort_of_terminal (found : db.task? task = some row) (settled : row.status.terminal = true)
    (action : decision.action = .abort) :
    db.execute config task decisionId draw decision = .ok (db, ⟨.abort, false, []⟩, []) := by
  rw [execute, action]
  simp only [executeAbort, abortTask, finishTask_of_found found, settled, ↓reduceIte]

end OrdersDb

/-- The output of an engine on the snapshot is carried out: an approved proposal passes its guard and changes the
task, and a rejected one ends a task that is not over. -/
def OrdersDb.CarriesOut (deployment : Deployment) (db : OrdersDb) (task : TaskId) (state : SystemState)
    (output : EngineOutput) (decisionId : DecisionId) (draw : Draw) : Prop :=
  ∃ row decision db' result effects, db.task? task = some row ∧
    deployment.validator.resolve? state output = some decision ∧
    db.execute deployment.config task decisionId draw decision = .ok (db', result, effects) ∧
    if deployment.validator.validate output.proposal state
        (output.failure = some llmDecisionTimeout) = .ok then
      output.proposal.bind Decision.modelValidate? = some decision ∧
        db.guardPasses task decision draw.now = true ∧ result.changedState = true ∧ db'.task? task ≠ some row
    else decision.action = .abort ∧ result.changedState = !row.status.terminal ∧
      if row.status.terminal then db' = db else (db'.task? task).map (·.status) = some .aborted

/-- An output that resolves to a decision is carried out on the database it was taken on. -/
theorem carriesOut_of_resolved {deployment : Deployment} {s : OrdersService}
    (reachable : (ordersMachine deployment).Reachable s) {task : TaskId} {seen : Observation}
    {state : SystemState} (built : s.db.build deployment.config task seen = .ok state) {output : EngineOutput}
    {decision : Decision} (resolved : deployment.validator.resolve? state output = some decision)
    (decisionId : DecisionId) (draw : Draw) : s.db.CarriesOut deployment task state output decisionId draw := by
  obtain ⟨row, found, describes, valid⟩ := OrdersDb.build_eq_ok built
  obtain ⟨file, here, rfl, order, -⟩ := file?_of_task? found
  have holds := reachable_controlled reachable here
  rw [order] at holds
  have executionId := state.executionId_of_valid valid
  rw [describes.executionId] at executionId
  rw [OrdersDb.CarriesOut]
  split_ifs with approved
  · obtain ⟨-, raises⟩ | ⟨own, same, -, proposed, approves⟩ := DecisionValidator.resolve?_of_ok approved
    · cases raises.symm.trans resolved
    obtain rfl : decision = own := Option.some_inj.mp (resolved.symm.trans same)
    have alive : file.row.status.terminal = false := describes.phase ▸ approves.1
    obtain ⟨passes, db', messages, effects, executed⟩ := OrdersDb.execute_of_permits decisionId
      draw found holds executionId alive (permits_of_describes describes (.inl approves))
    refine ⟨file.row, decision, db', _, effects, found, resolved, executed, proposed, passes, rfl, ?_⟩
    rcases execute_moves found executed with ⟨-, -, settled⟩ | ⟨row', columns, move, commits⟩
    · simp [settled] at alive
    · rw [← OrdersDb.taskId_of_task? found, commits.task?_self, ne_eq, Option.some_inj]
      exact fun same => absurd (congrArg TaskRow.currentEventSeq same) move.eventSeq_lt_of_decision.ne'
  · obtain ⟨own, same, abort⟩ := DecisionValidator.resolve?_of_not_ok approved
    obtain rfl : decision = own := Option.some_inj.mp (resolved.symm.trans same)
    cases settled : file.row.status.terminal with
    | true =>
      exact ⟨file.row, decision, s.db, _, _, found, resolved,
        OrdersDb.execute_abort_of_terminal found settled abort, abort, by rw [settled]; rfl, by rw [if_pos settled]⟩
    | false =>
      obtain ⟨-, db', messages, effects, executed⟩ := OrdersDb.execute_of_permits decisionId
        draw found holds executionId settled
        (permits_of_describes describes (.inr abort))
      refine ⟨file.row, decision, db', _, effects, found, resolved, executed, abort, by rw [settled]; rfl, ?_⟩
      rcases execute_moves found executed with ⟨-, -, ended⟩ | ⟨row', columns, move, commits⟩
      · simp [settled] at ended
      · rw [if_neg (by simp [settled]), ← OrdersDb.taskId_of_task? found, commits.task?_self, Option.map_some,
          move.status_of_abort abort]

/-- At a decision point that nothing interrupts, the output of an engine is carried out exactly if it is no approved
proposal whose reason has no encoding. -/
theorem decision_executes_iff {deployment : Deployment} {s : OrdersService}
    (reachable : (ordersMachine deployment).Reachable s) {task : TaskId} {seen : Observation}
    {state : SystemState} (built : s.db.build deployment.config task seen = .ok state)
    (output : EngineOutput) (decisionId : DecisionId) (draw : Draw) :
    s.db.CarriesOut deployment task state output decisionId draw ↔
      ¬deployment.validator.Unresolvable state output := by
  rw [← DecisionValidator.resolve?_eq_none_iff]
  constructor
  · rintro ⟨-, decision, -, -, -, -, resolved, -⟩
    simp [resolved]
  · intro resolves
    obtain ⟨decision, resolved⟩ := Option.ne_none_iff_exists'.mp resolves
    exact carriesOut_of_resolved reachable built resolved decisionId draw

/-- After the first request has failed, the output of an engine that retries is approved and carried out. -/
theorem decision_executes_iff_pilot : ∃ s state, (ordersMachine .pilot).Reachable s ∧
    s.db.build Deployment.pilot.config 1 (.calm 101 2) = .ok state ∧
    Deployment.pilot.validator.validate (EngineOutput.proposing .retry (some .inventoryPrimary) .transientRetry).proposal
      state false = .ok ∧
    s.db.CarriesOut .pilot 1 state (.proposing .retry (some .inventoryPrimary) .transientRetry) 2 ⟨12, 102⟩ := by
  obtain ⟨s, reachable, passes⟩ := Machine.exists_reachable_of_replay? (m := ordersMachine .pilot)
    (firstDispatch ++ [.consume (.inventoryEvent (firstReply 20 (.failed ⟨1, .primary, .transientError⟩))) false
      ⟨11, 100⟩])
    (p := fun s => (s.db.build Deployment.pilot.config 1 (.calm 101 2)).toOption.any fun state =>
      Deployment.pilot.validator.validate
        (EngineOutput.proposing .retry (some .inventoryPrimary) .transientRetry).proposal state false = .ok)
    (by decide +kernel)
  cases built : s.db.build Deployment.pilot.config 1 (.calm 101 2) with
  | error error => simp [built, Except.toOption] at passes
  | ok state =>
    have approved : Deployment.pilot.validator.validate
        (EngineOutput.proposing .retry (some .inventoryPrimary) .transientRetry).proposal state false = .ok := by
      simpa [built, Except.toOption] using passes
    refine ⟨s, state, reachable, built, approved, (decision_executes_iff reachable built _ 2 ⟨12, 102⟩).mpr ?_⟩
    rintro ⟨-, proposal, reason, ⟨⟩, ⟨⟩, unencodable⟩
    simp at unencodable

/-- The first snapshot of a task is built. -/
theorem exists_first_snapshot : ∃ s state, (ordersMachine .pilot).Reachable s ∧
    s.db.build Deployment.pilot.config 1 (.calm 1 1) = .ok state := by
  obtain ⟨s, reachable, passes⟩ := Machine.exists_reachable_of_replay? (m := ordersMachine .pilot)
    [.createOrder .single 0]
    (p := fun s => (s.db.build Deployment.pilot.config 1 (.calm 1 1)).toOption.isSome) (by decide +kernel)
  cases built : s.db.build Deployment.pilot.config 1 (.calm 1 1) with
  | error error => simp [built, Except.toOption] at passes
  | ok state => exact ⟨s, state, reachable, built⟩

/-- An abort whose reason is half of a surrogate pair. -/
def EngineOutput.unencodable : EngineOutput :=
  ⟨some ⟨some (CodePoint.ofString "ABORT"), none, some [.surrogate 0]⟩, none⟩

/-- The validator approves an abort whose reason is half of a surrogate pair, and resolving it raises. -/
theorem decision_raises_unencodable : ∃ s state, (ordersMachine .pilot).Reachable s ∧
    s.db.build Deployment.pilot.config 1 (.calm 1 1) = .ok state ∧
    Deployment.pilot.validator.validate EngineOutput.unencodable.proposal state false = .ok ∧
    Deployment.pilot.validator.resolve? state .unencodable = none ∧
    ¬s.db.CarriesOut .pilot 1 state .unencodable 1 ⟨10, 2⟩ := by
  obtain ⟨s, reachable, passes⟩ := Machine.exists_reachable_of_replay? (m := ordersMachine .pilot)
    [.createOrder .single 0]
    (p := fun s => (s.db.build Deployment.pilot.config 1 (.calm 1 1)).toOption.any fun state =>
      Deployment.pilot.validator.validate EngineOutput.unencodable.proposal state false = .ok ∧
        Deployment.pilot.validator.resolve? state .unencodable = none) (by decide +kernel)
  cases built : s.db.build Deployment.pilot.config 1 (.calm 1 1) with
  | error error => simp [built, Except.toOption] at passes
  | ok state =>
    obtain ⟨approved, raises⟩ : Deployment.pilot.validator.validate EngineOutput.unencodable.proposal state false = .ok ∧
        Deployment.pilot.validator.resolve? state .unencodable = none := by
      simpa [built, Except.toOption] using passes
    refine ⟨s, state, reachable, built, approved, raises, ?_⟩
    rintro ⟨-, decision, -, -, -, -, resolved, -⟩
    cases raises.symm.trans resolved

end OrchLab
