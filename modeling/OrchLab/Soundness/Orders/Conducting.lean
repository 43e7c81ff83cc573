import OrchLab.Model.Orders.Orchestrator
import OrchLab.Soundness.Orders.Approval

/-! # What a decision point does

The answer of an engine that measures as it should is recorded once and executed. What is sent goes where the action
says, and only what its transaction committed is sent.
-/

namespace OrchLab

namespace Surroundings

variable {deployment : Deployment} {engine : EngineName} {db : OrdersDb} {task : TaskId} {around : Surroundings}
  {state : SystemState} {report : EngineReport} {decision : Decision}

/-- The surroundings in which the engine gives this answer after this time. -/
def answering (around : Surroundings) (report : EngineReport) (time : ℚ) : Surroundings :=
  { around with engine := fun _ => some report, decisionTimeMs := time }

/-- The record of a measured answer meets its contract. -/
theorem record_valid (valid : state.valid = true) (measures : report.Measures engine)
    (positive : 0 ≤ around.decisionTimeMs) (validator : DecisionValidator) (decision : Decision) :
    (DecisionRecord.of validator state report.toEngineOutput decision around.decisionId
      (around.measured engine report)).valid = true := by
  have executionId := state.executionId_of_valid valid
  simp only [DecisionRecord.valid, DecisionRecord.of, measured, executionId, positive, decide_true, Bool.true_and]
  cases engine with
  | rules => simp [measures.1, measures.2]
  | llm =>
    cases taken : report.llmInferenceMs with
    | none => simp
    | some inference => simp [measures inference taken]

/-- A transaction that commits has its effects performed until one raises. -/
theorem execute_of_commit (around : Surroundings) {config : ExperimentConfig} {after : OrdersDb}
    {result : ExecutionResult} {effects : List Effect}
    (ran : db.execute config task around.decisionId around.draw decision = .ok (after, result, effects))
    (commits : around.commits = true) :
    around.execute config db task decision =
      (after, effects.takeWhile (around.accepts ·.kind),
        if effects.all (around.accepts ·.kind) then some result else none) := by
  simp only [execute, ran, commits, ↓reduceIte]

/-- A transaction that does not commit leaves nothing. -/
theorem execute_of_rollback (config : ExperimentConfig) (raises : around.commits = false) :
    around.execute config db task decision = (db, [], none) := by
  rw [execute]
  split
  · rfl
  · rw [raises]
    rfl

theorem execute_of_error (around : Surroundings) {config : ExperimentConfig} {error : OrdersError}
    (ran : db.execute config task around.decisionId around.draw decision = .error error) :
    around.execute config db task decision = (db, [], none) := by
  rw [execute, ran]

/-- Nothing raises until the decision is recorded: the state is built and recorded, the engine answers, and the record
meets its contract, has an encoding and is written. -/
structure Records (around : Surroundings) (deployment : Deployment) (engine : EngineName) (db : OrdersDb)
    (task : TaskId) (state : SystemState) (report : EngineReport) (decision : Decision) : Prop where
  built : ∃ seen, around.seen = some seen ∧ db.build deployment.config task seen = .ok state
  writesState : around.writesState = true
  answers : around.engine state = some report
  resolved : deployment.validator.resolve? state report.toEngineOutput = some decision
  valid : (DecisionRecord.of deployment.validator state report.toEngineOutput decision around.decisionId
    (around.measured engine report)).valid = true
  encodable : report.encodable = true
  writesDecision : around.writesDecision = true

/-- What is left by a decision that is recorded and executed. -/
def concluded (around : Surroundings) (deployment : Deployment) (engine : EngineName) (db : OrdersDb) (task : TaskId)
    (state : SystemState) (report : EngineReport) (decision : Decision) : Conducted where
  db := (around.execute deployment.config db task decision).1
  states := [.of state]
  decisions := [.of deployment.validator state report.toEngineOutput decision around.decisionId
    (around.measured engine report)]
  sent := (around.execute deployment.config db task decision).2.1
  outcome := (around.execute deployment.config db task decision).2.2.map fun result =>
    { decisionId := around.decisionId
      stateId := state.stateId
      validation := deployment.validator.validate report.proposal state (report.failure = some llmDecisionTimeout)
      executed := decision
      execution := result }

/-- An answer with a text that has no encoding leaves the snapshot alone. -/
theorem conduct_of_unencodable (answers : around.engine state = some report) (unencodable : report.encodable = false) :
    around.conduct deployment engine db task state = { Conducted.unchanged db with states := [.of state] } := by
  simp only [conduct, answers]
  cases deployment.validator.resolve? state report.toEngineOutput with
  | none => rfl
  | some decision =>
    have refused : (DecisionRecord.of deployment.validator state report.toEngineOutput decision around.decisionId
      (around.measured engine report)).encodable = false := unencodable
    simp only [refused, Bool.and_false, Bool.false_and, Bool.false_eq_true, ↓reduceIte]

/-- An answer that resolves is recorded and executed, unless it cannot be written. -/
theorem conduct_of_resolved (answers : around.engine state = some report)
    (resolved : deployment.validator.resolve? state report.toEngineOutput = some decision)
    (valid : state.valid = true) (measures : report.Measures engine) (positive : 0 ≤ around.decisionTimeMs) :
    around.conduct deployment engine db task state =
      if report.encodable && around.writesDecision then around.concluded deployment engine db task state report decision
      else { Conducted.unchanged db with states := [.of state] } := by
  simp only [conduct, answers, resolved, record_valid valid measures positive, Bool.true_and]
  rfl

/-- A decision point raises before its decision is recorded, and then leaves the database, or it concludes. -/
theorem handleDecisionPoint_cases (around : Surroundings) (deployment : Deployment) (engine : EngineName)
    (db : OrdersDb) (task : TaskId) :
    (∃ states, around.handleDecisionPoint deployment engine db task = { Conducted.unchanged db with states }) ∨
      ∃ state report decision, around.Records deployment engine db task state report decision ∧
        around.handleDecisionPoint deployment engine db task =
          around.concluded deployment engine db task state report decision := by
  rw [handleDecisionPoint]
  cases observed : around.seen with
  | none => exact .inl ⟨[], rfl⟩
  | some seen =>
    cases built : db.build deployment.config task seen with
    | error error => exact .inl ⟨[], by simp only [built]; rfl⟩
    | ok state =>
      simp only [built]
      cases writes : around.writesState with
      | false => exact .inl ⟨[], rfl⟩
      | true =>
        simp only [↓reduceIte, conduct]
        cases answers : around.engine state with
        | none => exact .inl ⟨_, rfl⟩
        | some report =>
          simp only
          cases resolved : deployment.validator.resolve? state report.toEngineOutput with
          | none => exact .inl ⟨_, rfl⟩
          | some decision =>
            simp only
            split_ifs with recorded
            · rw [Bool.and_eq_true, Bool.and_eq_true] at recorded
              exact .inr ⟨state, report, decision, ⟨⟨seen, observed, built⟩, writes, answers, resolved,
                recorded.1.1, recorded.1.2, recorded.2⟩, rfl⟩
            · exact .inl ⟨_, rfl⟩

/-- A recorded decision is executed. -/
theorem handleDecisionPoint_of_records
    (records : around.Records deployment engine db task state report decision) :
    around.handleDecisionPoint deployment engine db task =
      around.concluded deployment engine db task state report decision := by
  obtain ⟨⟨seen, observed, built⟩, writes, answers, resolved, valid, encodable, writesDecision⟩ := records
  have encodes : (DecisionRecord.of deployment.validator state report.toEngineOutput decision around.decisionId
    (around.measured engine report)).encodable = true := encodable
  rw [handleDecisionPoint, observed]
  simp only [built, writes, ↓reduceIte, conduct, answers, resolved, valid, encodes, writesDecision, Bool.and_self]
  rfl

/-- What a decision point sends, the transaction of its decision asked for. -/
theorem exists_execute_of_sent {effect : Effect}
    (sent : effect ∈ (around.handleDecisionPoint deployment engine db task).sent) :
    ∃ state report decision after result effects,
      deployment.validator.resolve? state report.toEngineOutput = some decision ∧ around.engine state = some report ∧
      db.execute deployment.config task around.decisionId around.draw decision = .ok (after, result, effects) ∧
      effect ∈ effects := by
  rcases around.handleDecisionPoint_cases deployment engine db task with
    ⟨states, raised⟩ | ⟨state, report, decision, records, concludes⟩
  · rw [raised] at sent
    cases sent
  · rw [concludes] at sent
    change effect ∈ (around.execute deployment.config db task decision).2.1 at sent
    cases ran : db.execute deployment.config task around.decisionId around.draw decision with
    | error error =>
      rw [execute_of_error around ran] at sent
      cases sent
    | ok outcome =>
      obtain ⟨after, result, effects⟩ := outcome
      cases commits : around.commits with
      | false =>
        rw [execute_of_rollback deployment.config commits] at sent
        cases sent
      | true =>
        rw [execute_of_commit around ran commits] at sent
        exact ⟨state, report, decision, after, result, effects, records.resolved, records.answers, ran,
          List.takeWhile_subset _ sent⟩

end Surroundings

/-- A request goes where its action says, with the items of the order. -/
theorem OrdersDb.publishes_as_decided {config : ExperimentConfig} {db after : OrdersDb} {task : TaskId}
    {row : TaskRow} {decision : Decision} {decisionId : DecisionId} {draw : Draw} {result : ExecutionResult}
    {effects : List Effect} (found : db.task? task = some row)
    (ran : db.execute config task decisionId draw decision = .ok (after, result, effects)) {request : MessageEnvelope}
    {route : Target} (published : .publish request route ∈ effects) :
    (decision.action = .continueFlow ∧ route = .inventoryPrimary ∨
      decision.action = .fallback ∧ decision.target = some route) ∧ request.target = some route ∧
      ∃ items, db.itemsOf? row = some items ∧ request.payload = .requested ⟨row.orderId, items⟩ := by
  rcases execute_moves found ran with ⟨-, rfl, -⟩ | ⟨row', columns, move, -⟩
  · cases published
  · cases move with
    | continued _ _ items action _ _ loads =>
      simp only [requestEffects, List.mem_cons, Effect.publish.injEq, reduceCtorEq, List.not_mem_nil, or_false]
        at published
      obtain ⟨rfl, rfl⟩ := published
      exact ⟨.inl ⟨action, rfl⟩, rfl, items, loads, rfl⟩
    | fellBack _ _ items other action target _ _ loads =>
      simp only [requestEffects, List.mem_cons, Effect.publish.injEq, reduceCtorEq, List.not_mem_nil, or_false]
        at published
      obtain ⟨rfl, rfl⟩ := published
      exact ⟨.inr ⟨action, target⟩, rfl, items, loads, rfl⟩
    | retried | waited | aborted => simp at published

/-! ## The move of a decision -/

namespace Move

variable {config : ExperimentConfig} {db : OrdersDb} {draw : Draw} {row row' : TaskRow} {decision : Decision}
  {decisionId : DecisionId} {columns : List EventColumns} {effects : List Effect} {opens : Bool}

/-- The effects of a decision are those of its action. -/
theorem kinds_of_decision
    (move : Move config db draw row (.decision decision decisionId) row' columns effects opens) :
    effects.map Effect.kind = decision.action.effects := by
  cases move with
  | continued _ _ _ action | retried _ _ action | waited _ _ action | fellBack _ _ _ _ action
  | aborted _ _ action =>
    rw [action]
    rfl

/-- A decision ends its task exactly when it aborts. -/
theorem terminal_of_decision
    (move : Move config db draw row (.decision decision decisionId) row' columns effects opens) :
    row'.status.terminal = decide (decision.action = .abort) := by
  cases move with
  | continued _ _ _ action | retried _ _ action | waited _ _ action | fellBack _ _ _ _ action
  | aborted _ _ action =>
    rw [action]
    rfl

end Move

/-- A decision resolved on a snapshot of a live task is executed. -/
theorem exists_move_of_resolved {deployment : Deployment} {s : OrdersService}
    (reachable : (ordersMachine deployment).Reachable s) {task : TaskId} {seen : Observation} {state : SystemState}
    (built : s.db.build deployment.config task seen = .ok state) {row : TaskRow} (found : s.db.task? task = some row)
    (alive : row.status.terminal = false) {output : EngineOutput} {decision : Decision}
    (resolved : deployment.validator.resolve? state output = some decision) (decisionId : DecisionId) (draw : Draw) :
    ∃ after result effects row' columns,
      s.db.execute deployment.config task decisionId draw decision = .ok (after, result, effects) ∧
      Move deployment.config s.db draw row (.decision decision decisionId) row' columns effects false ∧
      Commits s.db after row (.decision decision decisionId) row' columns := by
  obtain ⟨row', decision', after, result, effects, found', resolved', ran, -⟩ :=
    carriesOut_of_resolved reachable built resolved decisionId draw
  obtain rfl : decision = decision' := Option.some_inj.mp (resolved.symm.trans resolved')
  rcases execute_moves found ran with ⟨-, -, settled⟩ | ⟨moved, columns, move, commits⟩
  · simp [settled] at alive
  · exact ⟨after, result, effects, moved, columns, ran, move, commits⟩

/-! ## The steps of a decision point -/

section Steps

variable {deployment : Deployment} (engine : EngineName) {s : OrdersService} {owner : DecisionOwner} {task : TaskId}
  (around : Surroundings)

/-- What a decision point leaves is what steps of the service leave: the decision is one of them if it is committed,
and an exception is one otherwise. What was sent is part of what the service has sent. When the decision point returns,
it is all of it, and the service has executed the decision that is returned. -/
theorem handleDecisionPoint_reached (reachable : (ordersMachine deployment).Reachable s)
    (opened : s.points owner = .opened task)
    (fresh : (∀ execution ∈ s.executed, execution.decisionId ≠ around.decisionId) ∧
      s.freshMessage around.draw.messageId) :
    ∃ t, (ordersMachine deployment).Reachable t ∧ t.points owner = .closed ∧
      t.db = (around.handleDecisionPoint deployment engine s.db task).db ∧
      ∃ later, t.sent = s.sent ++ (around.handleDecisionPoint deployment engine s.db task).sent ++ later ∧
        ∀ outcome, (around.handleDecisionPoint deployment engine s.db task).outcome = some outcome → later = [] ∧
          ∃ execution ∈ t.executed, execution.taskId = task ∧ execution.decisionId = outcome.decisionId ∧
            execution.decision = outcome.executed := by
  have raised : ∀ t, (ordersMachine deployment).Reachable t → t.points owner ≠ .closed →
      (ordersMachine deployment).Reachable (t.setPoint owner .closed) := by
    intro t before busy
    exact before.snoc (l := .raise owner) trivial (if_neg busy)
  rcases around.handleDecisionPoint_cases deployment engine s.db task with
    ⟨states, unchanged⟩ | ⟨state, report, decision, records, concludes⟩
  · rw [unchanged]
    refine ⟨s.setPoint owner .closed, raised s reachable (by simp [opened]), by simp, rfl, [], ?_, ?_⟩
    · simp [Conducted.unchanged, OrdersService.setPoint]
    · rintro outcome ⟨⟩
  · obtain ⟨seen, -, built⟩ := records.built
    obtain ⟨row, found, describes, -⟩ := OrdersDb.build_eq_ok built
    have builds : (ordersMachine deployment).Reachable (s.setPoint owner (.built state)) := by
      refine reachable.snoc (l := .build owner seen) trivial ?_
      change OrdersService.step deployment s (.build owner seen) = _
      simp only [OrdersService.step, opened, OrdersService.build, built]
    rw [concludes]
    cases commits : around.commits with
    | false =>
      have left : around.concluded deployment engine s.db task state report decision =
          { Conducted.unchanged s.db with
            states := [.of state]
            decisions := [.of deployment.validator state report.toEngineOutput decision around.decisionId
              (around.measured engine report)] } := by
        simp [Surroundings.concluded, Surroundings.execute_of_rollback deployment.config commits, Conducted.unchanged]
      rw [left]
      refine ⟨_, raised _ builds (by simp), by simp, rfl, [], ?_, ?_⟩
      · simp [Conducted.unchanged, OrdersService.setPoint]
      · rintro outcome ⟨⟩
    | true =>
      have decides : (ordersMachine deployment).Reachable ((s.setPoint owner (.built state)).decide deployment owner
          state report.toEngineOutput around.decisionId around.draw) := by
        refine builds.snoc (l := .decide owner report.toEngineOutput around.decisionId around.draw) fresh ?_
        change OrdersService.step deployment _ (.decide ..) = _
        simp only [OrdersService.step, OrdersService.setPoint_points, ↓reduceIte]
      have decided : deployment.validator.decision? state report.toEngineOutput = some decision := by
        rw [DecisionValidator.decision?, if_pos records.encodable, records.resolved]
      have own : state.taskId = task := describes.task.trans (OrdersDb.taskId_of_task? found)
      cases ran : s.db.execute deployment.config task around.decisionId around.draw decision with
      | error error =>
        refine ⟨_, decides, ?_, ?_, [], ?_, ?_⟩ <;>
          simp [OrdersService.decide, decided, own, OrdersService.setPoint, ran, Surroundings.concluded,
            Surroundings.execute_of_error around ran]
      | ok outcome =>
        obtain ⟨after, result, effects⟩ := outcome
        have executes := Surroundings.execute_of_commit around ran commits
        refine ⟨_, decides, ?_, ?_, effects.dropWhile (around.accepts ·.kind), ?_, ?_⟩
        · simp [OrdersService.decide, decided, own, OrdersService.setPoint, ran]
        · simp [OrdersService.decide, decided, own, OrdersService.setPoint, ran, Surroundings.concluded,
            executes]
        · simp [OrdersService.decide, decided, own, OrdersService.setPoint, ran, Surroundings.concluded,
            executes, List.takeWhile_append_dropWhile]
        · intro outcome returns
          simp only [Surroundings.concluded, executes] at returns
          split_ifs at returns with all
          · cases returns
            refine ⟨List.dropWhile_eq_nil_iff.mpr (List.all_eq_true.mp all),
              .of state decision around.decisionId, ?_, own, rfl, rfl⟩
            simp [OrdersService.decide, decided, own, OrdersService.setPoint, ran]
          · cases returns

end Steps

/-- The first decision of a new task, and the state of the service that it leaves. -/
theorem handleDecisionPoint_reached_pilot : ∃ s t conducted, (ordersMachine .pilot).Reachable s ∧
    s.points (.api 1) = .opened 1 ∧
    conducted = ((Surroundings.calm (.calm 1 1) 1 ⟨10, 2⟩).answering
      (.saying "CONTINUE" (some "inventory.primary") "NORMAL" 3) 5).handleDecisionPoint .pilot .llm s.db 1 ∧
    conducted.outcome.map (·.executed.action) = some .continueFlow ∧ conducted.sent.length = 2 ∧
    (ordersMachine .pilot).Reachable t ∧ t.points (.api 1) = .closed ∧ t.db = conducted.db ∧
    t.sent = conducted.sent := by
  obtain ⟨s, reachable, passes⟩ := Machine.exists_reachable_of_replay? (m := ordersMachine .pilot)
    [.createOrder .single 0]
    (p := fun s =>
      let conducted := ((Surroundings.calm (.calm 1 1) 1 ⟨10, 2⟩).answering
        (.saying "CONTINUE" (some "inventory.primary") "NORMAL" 3) 5).handleDecisionPoint .pilot .llm s.db 1
      s.points (.api 1) = .opened 1 ∧ s.executed = [] ∧ s.sent = [] ∧ s.freshMessage 10 ∧
        conducted.outcome.map (·.executed.action) = some .continueFlow ∧ conducted.sent.length = 2) (by decide +kernel)
  obtain ⟨opened, executed, silent, unused, action, two⟩ := of_decide_eq_true passes
  obtain ⟨t, left, closed, same, later, sent, returned⟩ := handleDecisionPoint_reached .llm
    ((Surroundings.calm (.calm 1 1) 1 ⟨10, 2⟩).answering (.saying "CONTINUE" (some "inventory.primary") "NORMAL" 3) 5)
    reachable opened ⟨by simp [executed], unused⟩
  obtain ⟨outcome, returns, -⟩ := Option.map_eq_some_iff.mp action
  obtain ⟨rfl, -⟩ := returned outcome returns
  refine ⟨s, t, _, reachable, opened, rfl, action, two, left, closed, same, ?_⟩
  rw [sent, silent, List.nil_append, List.append_nil]

end OrchLab
