import OrchLab.Soundness.Orders.Conducting
import OrchLab.Soundness.Orders.Congruence
import OrchLab.Soundness.Orders.Items

/-! # The reason text carries no authority

Two answers of an engine that choose the same action and target are validated alike. If both have an encoding, they
resolve to decisions of the same action and target, and leave the same database but for the reason of an aborted
task. What is sent is the same, and a request goes where the action says, with the items of the order. A reason
without an encoding is approved as any other, and raises before its decision is recorded.
-/

namespace OrchLab

/-! ## Erasing the reason -/

/-- The payload without the reason of an abort. -/
def EventPayload.withoutReason : EventPayload → EventPayload
  | .taskAborted decisionId _ => .taskAborted decisionId ""
  | payload => payload

def EventColumns.withoutReason (columns : EventColumns) : EventColumns :=
  { columns with payload := columns.payload.map EventPayload.withoutReason }

def TaskEvent.withoutReason (event : TaskEvent) : TaskEvent :=
  { event with toEventColumns := event.toEventColumns.withoutReason }

/-- The tables are the same, but for the reasons in the payloads of aborts. -/
structure OrdersDb.SameButReasons (one two : OrdersDb) : Prop where
  orders : one.orders = two.orders
  tasks : one.tasks = two.tasks
  processedEvents : one.processedEvents = two.processedEvents
  taskEvents : one.taskEvents.rows.map TaskEvent.withoutReason = two.taskEvents.rows.map TaskEvent.withoutReason

theorem OrdersDb.SameButReasons.refl (db : OrdersDb) : db.SameButReasons db := ⟨rfl, rfl, rfl, rfl⟩

/-- Two rows that differ in the reason alone are appended. -/
theorem OrdersDb.SameButReasons.appendEvent (db : OrdersDb) {columns columns' : EventColumns}
    (same : columns.withoutReason = columns'.withoutReason) :
    (db.appendEvent columns).SameButReasons (db.appendEvent columns') where
  orders := rfl
  tasks := rfl
  processedEvents := rfl
  taskEvents := by
    simp only [OrdersDb.appendEvent, EventLog.append, List.map_append, List.map_singleton, TaskEvent.withoutReason,
      same]

/-- Two engines chose the same, both gave a reason, and neither ran out of time. -/
structure EngineReport.SameChoice (one two : EngineReport) : Prop where
  proposals : ∃ action target reason reason', one.proposal = some ⟨action, target, some reason⟩ ∧
    two.proposal = some ⟨action, target, some reason'⟩ ∧ reason ≠ [] ∧ reason' ≠ []
  inTime : one.failure ≠ some llmDecisionTimeout ∧ two.failure ≠ some llmDecisionTimeout

/-! ## Validation and resolution -/

namespace DecisionValidator

variable {state : SystemState} {one two : EngineReport}

/-- The validator reads of a reason only that it is there. -/
theorem firstError_of_sameChoice (validator : DecisionValidator) (action target : Option (List CodePoint))
    {reason reason' : List CodePoint} (given : reason ≠ []) (given' : reason' ≠ []) :
    validator.firstError (some ⟨action, target, some reason⟩) state =
      validator.firstError (some ⟨action, target, some reason'⟩) state := by
  simp only [firstError, checks, Option.getD_some, given, given']

theorem validate_of_sameChoice (validator : DecisionValidator) (state : SystemState) (same : one.SameChoice two) :
    validator.validate one.proposal state (one.failure = some llmDecisionTimeout) =
      validator.validate two.proposal state (two.failure = some llmDecisionTimeout) := by
  obtain ⟨action, target, reason, reason', first, second, given, given'⟩ := same.proposals
  simp only [validate, same.inTime.1, same.inTime.2, first, second,
    firstError_of_sameChoice validator action target given given']

end DecisionValidator

/-- Decisions of the same action and target. -/
def Decision.SameChoice (one two : Decision) : Prop := one.action = two.action ∧ one.target = two.target

theorem Decision.modelValidate?_of_sameChoice (action target : Option (List CodePoint))
    {reason reason' : List CodePoint} (given : reason ≠ []) (given' : reason' ≠ [])
    (encodable : CodePoint.encodable reason = true) (encodable' : CodePoint.encodable reason' = true) :
    Option.Rel Decision.SameChoice (Decision.modelValidate? ⟨action, target, some reason⟩)
      (Decision.modelValidate? ⟨action, target, some reason'⟩) := by
  obtain ⟨said, encoded⟩ := Option.isSome_iff_exists.mp encodable
  obtain ⟨said', encoded'⟩ := Option.isSome_iff_exists.mp encodable'
  have words : ∀ {text said}, text ≠ [] → CodePoint.encode? text = some said → said ≠ "" := by
    rintro text said given encoded rfl
    exact given (CodePoint.encode?_eq_some_iff.mp encoded)
  have spoken := words given encoded
  have spoken' := words given' encoded'
  rw [Decision.modelValidate?, Decision.modelValidate?]
  cases action.bind Action.ofText? with
  | none => exact .none
  | some action =>
    cases Decision.readTarget? target with
    | none => exact .none
    | some target =>
      simp only [Option.bind_some, encoded, encoded', Decision.ofParts?, ne_eq, spoken, spoken', not_false_eq_true,
        true_and]
      split_ifs
      · exact .some ⟨rfl, rfl⟩
      · exact .none

theorem DecisionValidator.resolve?_of_sameChoice (validator : DecisionValidator) (state : SystemState)
    {one two : EngineReport} (same : one.SameChoice two) (encodable : one.encodable = true)
    (encodable' : two.encodable = true) :
    Option.Rel Decision.SameChoice (validator.resolve? state one.toEngineOutput)
      (validator.resolve? state two.toEngineOutput) := by
  rw [resolve?, resolve?, validate_of_sameChoice validator state same]
  generalize validator.validate two.proposal state _ = validation
  obtain ⟨action, target, reason, reason', first, second, given, given'⟩ := same.proposals
  simp only [EngineOutput.encodable, ProposedDecision.encodable, first, second, Option.all_some, Bool.and_eq_true]
    at encodable encodable'
  simp only [resolveAction?, first, second]
  split_ifs
  · exact .some ⟨rfl, rfl⟩
  · exact Decision.modelValidate?_of_sameChoice action target given given' encodable.2 encodable'.2
  · exact .some ⟨rfl, rfl⟩

/-! ## Execution -/

/-- A recorded reason is the one difference an internal event makes. -/
theorem OrdersDb.recordInternalEvent_of_sameChoice (db : OrdersDb) (task : TaskId) (decisionId : DecisionId)
    (reason reason' : String) (now : Timestamp) :
    ExceptRel OrdersDb.SameButReasons
      (db.recordInternalEvent task .taskAborted (some (.taskAborted decisionId reason)) now)
      (db.recordInternalEvent task .taskAborted (some (.taskAborted decisionId reason')) now) := by
  cases found : db.task? task with
  | none =>
    simp only [recordInternalEvent, advanceEventSeq_of_absent found]
    exact .error _
  | some row =>
    rw [recordInternalEvent_of_found found, recordInternalEvent_of_found found]
    exact .ok (.appendEvent _ rfl)

theorem OrdersDb.execute_of_sameChoice (config : ExperimentConfig) (db : OrdersDb) (task : TaskId)
    (decisionId : DecisionId) (draw : Draw) {one two : Decision} (same : one.SameChoice two) :
    ExceptRel (Paired OrdersDb.SameButReasons) (db.execute config task decisionId draw one)
      (db.execute config task decisionId draw two) := by
  have equal : ∀ result : Except OrdersError (OrdersDb × ExecutionResult × List Effect),
      ExceptRel (Paired OrdersDb.SameButReasons) result result := by
    intro result
    cases result with
    | error error => exact .error error
    | ok outcome => exact .ok ⟨.refl _, rfl⟩
  rw [execute, execute, ← same.1, ← same.2]
  cases one.action with
  | continueFlow | retry | wait | fallback => exact equal _
  | abort =>
    simp only [executeAbort]
    cases db.abortTask task draw.now with
    | none => exact equal _
    | some ended =>
      exact (recordInternalEvent_of_sameChoice ended task decisionId _ _ draw.now).map
        fun after after' related => ⟨related, rfl⟩

/-- What is left and returned is the same, but for the reasons. -/
structure Conducted.SameButReasons (one two : Conducted) : Prop where
  db : one.db.SameButReasons two.db
  states : two.states = one.states
  validations : two.decisions.map DecisionRecord.validation = one.decisions.map DecisionRecord.validation
  sent : two.sent = one.sent
  outcome : Option.Rel (fun first second => second.validation = first.validation ∧
    first.executed.SameChoice second.executed ∧ second.execution = first.execution) one.outcome two.outcome

namespace Surroundings

variable {deployment : Deployment} {engine : EngineName} {db : OrdersDb} {task : TaskId} {around : Surroundings}
  {one two : EngineReport} {time time' : ℚ}

theorem execute_of_sameChoice (around : Surroundings) (one two : EngineReport) (time time' : ℚ)
    (config : ExperimentConfig) (db : OrdersDb) (task : TaskId) {decision decision' : Decision}
    (same : decision.SameChoice decision') :
    ((around.answering one time).execute config db task decision).1.SameButReasons
        ((around.answering two time').execute config db task decision').1 ∧
      ((around.answering two time').execute config db task decision').2 =
        ((around.answering one time).execute config db task decision).2 := by
  cases commits : around.commits with
  | false =>
    rw [execute_of_rollback config (show (around.answering one time).commits = false from commits),
      execute_of_rollback config (show (around.answering two time').commits = false from commits)]
    exact ⟨.refl db, rfl⟩
  | true =>
    rcases (OrdersDb.execute_of_sameChoice config db task around.decisionId around.draw same).cases with
      ⟨error, first, second⟩ | ⟨⟨after, result, effects⟩, ⟨after', result', effects'⟩, first, second, related, equal⟩
    · rw [execute_of_error (around.answering one time) first,
        execute_of_error (around.answering two time') second]
      exact ⟨.refl db, rfl⟩
    · cases equal
      rw [execute_of_commit (around.answering one time) first commits,
        execute_of_commit (around.answering two time') second commits]
      exact ⟨related, rfl⟩

/-- Two answers with an encoding are conducted alike. -/
private theorem conduct_of_encodable {state : SystemState} (valid : state.valid = true) (same : one.SameChoice two)
    (encodable : one.encodable = true) (encodable' : two.encodable = true) (measures : one.Measures engine)
    (measures' : two.Measures engine) (positive : 0 ≤ time) (positive' : 0 ≤ time') :
    ((around.answering one time).conduct deployment engine db task state).SameButReasons
      ((around.answering two time').conduct deployment engine db task state) := by
  rcases OptionRel.cases (DecisionValidator.resolve?_of_sameChoice deployment.validator state same encodable
    encodable') with ⟨first, second⟩ | ⟨decision, decision', first, second, chosen⟩
  · simp only [conduct, answering, first, second]
    exact ⟨.refl db, rfl, rfl, rfl, .none⟩
  · have validated := DecisionValidator.validate_of_sameChoice deployment.validator state same
    rw [conduct_of_resolved rfl first valid measures positive,
      conduct_of_resolved rfl second valid measures' positive', encodable, encodable']
    obtain ⟨related, equal⟩ := execute_of_sameChoice around one two time time' deployment.config db task chosen
    change Conducted.SameButReasons (if around.writesDecision then _ else _) (if around.writesDecision then _ else _)
    cases around.writesDecision with
    | false => exact ⟨.refl db, rfl, rfl, rfl, .none⟩
    | true =>
      simp only [↓reduceIte, concluded]
      refine ⟨related, rfl, ?_, congrArg Prod.fst equal, ?_⟩
      · simp [DecisionRecord.of, validated]
      · rw [equal]
        cases ((around.answering one time).execute deployment.config db task decision).2.2 with
        | none => exact .none
        | some result => exact .some ⟨validated.symm, chosen, rfl⟩

/-- Answers of which one has an encoding are conducted alike only if no decision can be written. -/
private theorem conduct_of_encodable_of_unencodable (deployment : Deployment) (db : OrdersDb) (task : TaskId)
    (around : Surroundings) {state : SystemState} (valid : state.valid = true) {report other : EngineReport}
    (encodable : report.encodable = true) (unencodable : other.encodable = false) (measures : report.Measures engine)
    {time : ℚ} (positive : 0 ≤ time) (time' : ℚ) :
    (around.writesDecision = false →
      (around.answering report time).conduct deployment engine db task state =
        (around.answering other time').conduct deployment engine db task state) ∧
      (around.writesDecision = true →
        ((around.answering report time).conduct deployment engine db task state).decisions.length = 1 ∧
          ((around.answering other time').conduct deployment engine db task state).decisions.length = 0) := by
  obtain ⟨decision, resolved⟩ := deployment.validator.exists_resolve? state encodable
  rw [conduct_of_resolved rfl resolved valid measures positive, conduct_of_unencodable rfl unencodable, encodable]
  refine ⟨fun fails => ?_, fun writes => ?_⟩
  · simp [answering, fails]
  · simp [answering, writes, concluded, Conducted.unchanged]

/-- From the snapshot on, the two answers are conducted alike exactly if both or neither have an encoding, or no
decision can be written. -/
theorem conduct_of_sameChoice_iff {state : SystemState} (valid : state.valid = true) (same : one.SameChoice two)
    (measures : one.Measures engine) (measures' : two.Measures engine) (positive : 0 ≤ time) (positive' : 0 ≤ time') :
    ((around.answering one time).conduct deployment engine db task state).SameButReasons
      ((around.answering two time').conduct deployment engine db task state) ↔
        one.encodable = two.encodable ∨ around.writesDecision = false := by
  have differ : ∀ {first second : Conducted}, first.decisions.length ≠ second.decisions.length →
      ¬first.SameButReasons second := by
    intro first second lengths alike
    have equal := congrArg List.length alike.validations
    rw [List.length_map, List.length_map] at equal
    exact lengths equal.symm
  have equal : ∀ {first second : Conducted}, first = second → first.outcome = none → first.SameButReasons second := by
    intro first second same outcome
    subst same
    exact ⟨.refl _, rfl, rfl, rfl, by rw [outcome]; exact .none⟩
  cases encodable : one.encodable <;> cases encodable' : two.encodable
  · refine iff_of_true (equal ?_ ?_) (.inl rfl) <;>
      simp [conduct_of_unencodable (show (around.answering one time).engine state = some one from rfl) encodable,
        conduct_of_unencodable (show (around.answering two time').engine state = some two from rfl) encodable',
        Conducted.unchanged]
  · obtain ⟨unwritten, written⟩ :=
      conduct_of_encodable_of_unencodable deployment db task around valid encodable' encodable measures' positive' time
    cases writes : around.writesDecision with
    | false =>
      refine iff_of_true (equal (unwritten writes).symm ?_) (.inr rfl)
      rw [conduct_of_unencodable rfl encodable]
      rfl
    | true =>
      obtain ⟨recorded, none⟩ := written writes
      exact iff_of_false (differ (by omega)) (by simp)
  · obtain ⟨unwritten, written⟩ :=
      conduct_of_encodable_of_unencodable deployment db task around valid encodable encodable' measures positive time'
    cases writes : around.writesDecision with
    | false =>
      refine iff_of_true (equal (unwritten writes) ?_) (.inr rfl)
      rw [unwritten writes, conduct_of_unencodable rfl encodable']
      rfl
    | true =>
      obtain ⟨recorded, none⟩ := written writes
      exact iff_of_false (differ (by omega)) (by simp)
  · exact iff_of_true (conduct_of_encodable valid same encodable encodable' measures measures' positive positive')
      (.inl rfl)

/-- Nothing raises before the decision is to be recorded: the state is built and recorded, and the record can be
written. -/
def ReachesRecord (around : Surroundings) (deployment : Deployment) (db : OrdersDb) (task : TaskId) : Prop :=
  (∃ seen state, around.seen = some seen ∧ db.build deployment.config task seen = .ok state) ∧
    around.writesState = true ∧ around.writesDecision = true

theorem handleDecisionPoint_of_sameChoice_iff (deployment : Deployment) (engine : EngineName) (db : OrdersDb)
    (task : TaskId) (around : Surroundings) (same : one.SameChoice two) (measures : one.Measures engine)
    (measures' : two.Measures engine) (positive : 0 ≤ time) (positive' : 0 ≤ time') :
    ((around.answering one time).handleDecisionPoint deployment engine db task).SameButReasons
      ((around.answering two time').handleDecisionPoint deployment engine db task) ↔
        one.encodable = two.encodable ∨ ¬around.ReachesRecord deployment db task := by
  have unchanged : (Conducted.unchanged db).SameButReasons (.unchanged db) :=
    ⟨.refl _, rfl, rfl, rfl, .none⟩
  simp only [handleDecisionPoint, show (around.answering one time).seen = around.seen from rfl,
    show (around.answering two time').seen = around.seen from rfl,
    show (around.answering one time).writesState = around.writesState from rfl,
    show (around.answering two time').writesState = around.writesState from rfl]
  cases observed : around.seen with
  | none => exact iff_of_true unchanged (.inr (by simp [ReachesRecord, observed]))
  | some seen =>
    cases built : db.build deployment.config task seen with
    | error error =>
      simp only [built]
      exact iff_of_true unchanged (.inr (by simp [ReachesRecord, observed, built]))
    | ok state =>
      obtain ⟨-, -, -, valid⟩ := OrdersDb.build_eq_ok built
      simp only [built]
      cases writes : around.writesState with
      | false => exact iff_of_true unchanged (.inr (by simp [ReachesRecord, writes]))
      | true =>
        simp only [↓reduceIte]
        rw [conduct_of_sameChoice_iff valid same measures measures' positive positive']
        simp [ReachesRecord, observed, built, writes]

end Surroundings

/-! ## Containment -/

/-- The action of a decision that sends was proposed, and its route is the one the action stands for. -/
theorem DecisionValidator.proposed_route {validator : DecisionValidator} {state : SystemState} {report : EngineReport}
    {decision : Decision} {route : Target}
    (resolved : validator.resolve? state report.toEngineOutput = some decision)
    (goes : decision.action = .continueFlow ∧ route = .inventoryPrimary ∨
      decision.action = .fallback ∧ decision.target = some route) :
    report.proposal.bind (·.action) = some (CodePoint.ofString "CONTINUE") ∧ route = .inventoryPrimary ∨
      report.proposal.bind (·.action) = some (CodePoint.ofString "FALLBACK") ∧ route = .inventoryFallback := by
  by_cases approved : validator.validate report.proposal state (report.failure = some llmDecisionTimeout) = .ok
  · obtain ⟨-, raises⟩ | ⟨other, here, -, proposed, approves⟩ := resolve?_of_ok approved
    · cases raises.symm.trans resolved
    obtain rfl : decision = other := Option.some_inj.mp (resolved.symm.trans here)
    obtain ⟨proposal, given, read⟩ := Option.bind_eq_some_iff.mp proposed
    obtain rfl := Decision.toProposed_of_modelValidate? read
    rw [given, Option.bind_some, Decision.toProposed]
    rcases goes with ⟨action, primary⟩ | ⟨action, target⟩
    · exact .inl ⟨by rw [action]; rfl, primary⟩
    · have fallback := approves.2
      simp only [action] at fallback
      exact .inr ⟨by rw [action]; rfl, Option.some_inj.mp (target.symm.trans fallback.2)⟩
  · obtain ⟨other, here, abort⟩ := resolve?_of_not_ok approved
    obtain rfl : decision = other := Option.some_inj.mp (resolved.symm.trans here)
    rcases goes with ⟨action, -⟩ | ⟨action, -⟩ <;> simp [abort] at action

/-- What the reason of an answer may not decide: two decision points leave the same database but for the reason of an
aborted task, the same validation and the same messages; and a request goes to the primary or the fallback route as the
proposed action says, with the items of the order. -/
def Surroundings.Contains (around : Surroundings) (deployment : Deployment) (engine : EngineName) (db : OrdersDb)
    (task : TaskId) (one two : EngineReport) (time time' : ℚ) : Prop :=
  ((around.answering one time).handleDecisionPoint deployment engine db task).SameButReasons
      ((around.answering two time').handleDecisionPoint deployment engine db task) ∧
    ∀ request route,
      .publish request route ∈ ((around.answering one time).handleDecisionPoint deployment engine db task).sent →
      (one.proposal.bind (·.action) = some (CodePoint.ofString "CONTINUE") ∧ route = .inventoryPrimary ∨
        one.proposal.bind (·.action) = some (CodePoint.ofString "FALLBACK") ∧ route = .inventoryFallback) ∧
      request.target = some route ∧
      ∃ row items, db.task? task = some row ∧ db.itemsOf? row = some items ∧
        request.payload = .requested ⟨row.orderId, items⟩

/-- Two answers that differ in their reasons, raw texts and measurements are contained exactly if both or neither have
an encoding, or if no decision gets to be recorded. -/
theorem reason_carries_no_authority_iff (deployment : Deployment) (engine : EngineName) (db : OrdersDb) (task : TaskId)
    (around : Surroundings) {one two : EngineReport} {time time' : ℚ} (same : one.SameChoice two)
    (measures : one.Measures engine) (measures' : two.Measures engine) (positive : 0 ≤ time) (positive' : 0 ≤ time') :
    around.Contains deployment engine db task one two time time' ↔
      one.encodable = two.encodable ∨ ¬around.ReachesRecord deployment db task := by
  rw [← Surroundings.handleDecisionPoint_of_sameChoice_iff deployment engine db task around same measures measures'
    positive positive']
  refine and_iff_left ?_
  intro request route sent
  obtain ⟨state, report, decision, after, result, effects, resolved, answers, ran, published⟩ :=
    Surroundings.exists_execute_of_sent sent
  obtain rfl : one = report := Option.some_inj.mp answers
  cases found : db.task? task with
  | none =>
    obtain ⟨-, rfl⟩ := execute_of_absent found ran
    cases published
  | some row =>
    obtain ⟨goes, target, items, loads, payload⟩ := OrdersDb.publishes_as_decided found ran published
    exact ⟨DecisionValidator.proposed_route resolved goes, target, row, items, rfl, loads, payload⟩

/-- What a decision point leaves of its first task: the validation, the status of the task and the messages. -/
def Conducted.summary (conducted : Conducted) : Option ValidationResult × Option TaskStatus × List Effect :=
  (conducted.outcome.map (·.validation), (conducted.db.task? 1).map (·.status), conducted.sent)

/-- What surrounds the first decision point of the first task. -/
def Surroundings.first : Surroundings := .calm (.calm 1 1) 1 ⟨10, 2⟩

/-- What the first decision point of the first task leaves when the model gives this answer in five milliseconds. -/
def OrdersService.firstSummary (s : OrdersService) (report : EngineReport) :
    Option ValidationResult × Option TaskStatus × List Effect :=
  ((Surroundings.first.answering report 5).handleDecisionPoint .pilot .llm s.db 1).summary

/-- An abort for this reason, generated in three milliseconds. -/
def EngineReport.aborting (reason : List CodePoint) : EngineReport where
  proposal := some ⟨some (CodePoint.ofString "ABORT"), none, some reason⟩
  failure := none
  llmInferenceMs := some 3
  tokenUsage := none
  rawResponse := none
  doneReason := none

theorem EngineReport.aborting_sameChoice {reason reason' : List CodePoint} (given : reason ≠ [])
    (given' : reason' ≠ []) : (aborting reason).SameChoice (aborting reason') :=
  ⟨⟨_, _, _, _, rfl, rfl, given, given'⟩, by rintro ⟨⟩, by rintro ⟨⟩⟩

theorem EngineReport.aborting_measures (reason : List CodePoint) : (aborting reason).Measures .llm := by
  rintro time ⟨⟩
  decide

/-- Two aborts for different reasons, of the same new task: both are approved and end it, and send nothing. -/
theorem reason_carries_no_authority_iff_pilot : ∃ s one two, (ordersMachine .pilot).Reachable s ∧
    one.proposal ≠ two.proposal ∧ s.firstSummary one = (some .ok, some .aborted, []) ∧
    s.firstSummary two = (some .ok, some .aborted, []) ∧
    Surroundings.first.Contains .pilot .llm s.db 1 one two 5 5 := by
  obtain ⟨s, reachable, passes⟩ := Machine.exists_reachable_of_replay? (m := ordersMachine .pilot)
    [.createOrder .single 0]
    (p := fun s => s.firstSummary (.aborting (CodePoint.ofString "OVERLOAD")) = (some .ok, some .aborted, []) ∧
      s.firstSummary (.aborting (CodePoint.ofString "UNREACHABLE")) = (some .ok, some .aborted, []))
    (by decide +kernel)
  obtain ⟨first, second⟩ := of_decide_eq_true passes
  refine ⟨s, _, _, reachable, by decide, first, second, ?_⟩
  have positive : (0 : ℚ) ≤ 5 := by decide
  have same : (EngineReport.aborting (CodePoint.ofString "OVERLOAD")).SameChoice
      (.aborting (CodePoint.ofString "UNREACHABLE")) := EngineReport.aborting_sameChoice (by decide) (by decide)
  exact (reason_carries_no_authority_iff .pilot .llm s.db 1 _ same (EngineReport.aborting_measures _)
    (EngineReport.aborting_measures _) positive positive).mpr (.inl (by decide))

/-- Of two aborts of a new task that differ in their reasons alone, one ends it; the other is half of a surrogate pair,
raises, and leaves the task as it was. -/
theorem reason_carries_authority_unencodable : ∃ s, (ordersMachine .pilot).Reachable s ∧
    (EngineReport.aborting (CodePoint.ofString "OVERLOAD")).SameChoice (.aborting [.surrogate 0]) ∧
    s.firstSummary (.aborting (CodePoint.ofString "OVERLOAD")) = (some .ok, some .aborted, []) ∧
    s.firstSummary (.aborting [.surrogate 0]) = (none, some .pending, []) ∧
    ¬Surroundings.first.Contains .pilot .llm s.db 1 (.aborting (CodePoint.ofString "OVERLOAD"))
      (.aborting [.surrogate 0]) 5 5 := by
  obtain ⟨s, reachable, passes⟩ := Machine.exists_reachable_of_replay? (m := ordersMachine .pilot)
    [.createOrder .single 0]
    (p := fun s => s.firstSummary (.aborting (CodePoint.ofString "OVERLOAD")) = (some .ok, some .aborted, []) ∧
      s.firstSummary (.aborting [.surrogate 0]) = (none, some .pending, [])) (by decide +kernel)
  obtain ⟨ends, raises⟩ := of_decide_eq_true passes
  refine ⟨s, reachable, EngineReport.aborting_sameChoice (by decide) (by decide), ends, raises, ?_⟩
  rintro ⟨⟨⟨-, tasks, -, -⟩, -⟩, -⟩
  have ended := congrArg (·.2.1) ends
  have left := congrArg (·.2.1) raises
  simp only [OrdersService.firstSummary, Conducted.summary, OrdersDb.task?] at ended left
  rw [tasks, left] at ended
  cases ended

end OrchLab
