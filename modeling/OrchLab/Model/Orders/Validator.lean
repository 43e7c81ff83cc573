import OrchLab.Model.Orders.StateBuilder

/-! # Validating and taking decisions

`validator.py` and `rules_engine.py` of `services/orders/app/orchestration`. The validator reads the
proposal as text and reports the first error in a fixed order; it corrects nothing. The rules engine is
the ordered policy: the first rule that matches decides.
-/

namespace OrchLab

/-! ## The validator -/

structure DecisionValidator where
  taskDeadlineMs : ℕ
deriving DecidableEq, Repr

namespace DecisionValidator

/-- The constructor accepts only `fallback_max_attempts = 1`. -/
def ofConfig? (config : ExperimentConfig) : Option DecisionValidator :=
  if config.messaging.fallbackMaxAttempts = 1 then some ⟨config.messaging.taskDeadlineMs⟩ else none

/-- Membership in `ALLOWED_TARGETS`. -/
def allowedTarget : Option (List CodePoint) → Bool
  | none => true
  | some text => (Target.ofText? text).isSome

/-- The checks of `_first_error` for a known action, in order. -/
def checks (validator : DecisionValidator) (action : Action) (proposal : ProposedDecision)
    (state : SystemState) : List (Bool × ValidationErrorCode) :=
  [(!allowedTarget proposal.target, .unknownTarget),
    (proposal.reasonCode.getD [] = [], .missingReasonCode),
    (validator.taskDeadlineMs ≤ state.task.elapsedMs && action ≠ .abort, .taskDeadlineExceeded),
    (action = .continueFlow && !(proposal.target = none ||
      proposal.target = some Target.inventoryPrimary.text), .invalidContinueTarget),
    (action = .continueFlow && state.task.currentTarget.isSome, .continueAfterDispatch),
    (action = .retry && state.task.maxAttempts ≤ state.task.attemptNumber, .retryLimitExceeded),
    (action = .retry && (proposal.target = none ||
      proposal.target ≠ state.task.currentTarget.map Target.text), .invalidRetryTarget),
    (action = .retry && proposal.target = some Target.inventoryFallback.text, .fallbackRetryLimit),
    (action = .fallback && !state.alternatives.fallbackAvailable, .fallbackNotAvailable),
    (action = .fallback && state.alternatives.fallbackUsed, .fallbackAlreadyUsed),
    (action = .fallback && proposal.target ≠ some Target.inventoryFallback.text,
      .invalidFallbackTarget),
    ((action = .wait || action = .abort) && proposal.target.isSome, .targetNotAllowed),
    (action = .wait && state.task.maxWaits ≤ state.task.waitCount, .waitLimitExceeded),
    (state.task.phase.terminal, .terminalTask)]

/-- `_first_error`. -/
def firstError (validator : DecisionValidator) (proposal : Option ProposedDecision)
    (state : SystemState) : Option ValidationErrorCode :=
  match proposal with
  | none => some .malformedDecision
  | some proposal =>
    match proposal.action.bind Action.ofText? with
    | none => some .unknownAction
    | some action => ((validator.checks action proposal state).find? (·.1)).map (·.2)

def validate (validator : DecisionValidator) (proposal : Option ProposedDecision) (state : SystemState)
    (timedOut : Bool) : ValidationResult :=
  if timedOut then .invalid .llmDecisionTimeout
  else match validator.firstError proposal state with
    | none => .ok
    | some error => .invalid error

/-- The decision `Orchestrator.handle_decision_point` takes from an engine's output. -/
def resolve? (validator : DecisionValidator) (state : SystemState) (output : EngineOutput) :
    Option Decision :=
  resolveAction? output.proposal
    (validator.validate output.proposal state (output.failure = some llmDecisionTimeout))

/-- The decision of an output once it is recorded: it is resolved, and the line of its record can be encoded. -/
def decision? (validator : DecisionValidator) (state : SystemState) (output : EngineOutput) : Option Decision :=
  if output.encodable then validator.resolve? state output else none

end DecisionValidator

/-- What the validator's approval of a decision says about the state it was taken on. -/
def SystemState.Approves (state : SystemState) (decision : Decision) : Prop :=
  state.task.phase.terminal = false ∧
    match decision.action with
    | .continueFlow => state.task.currentTarget = none
    | .retry => state.task.currentTarget = some .inventoryPrimary ∧
        state.task.attemptNumber < state.task.maxAttempts
    | .fallback => state.alternatives.fallbackUsed = false ∧ decision.target = some .inventoryFallback
    | .wait => state.task.waitCount < state.task.maxWaits
    | .abort => True

namespace DecisionValidator

variable {validator : DecisionValidator} {state : SystemState}

/-- A target text the validator allows is the text of a target the contract reads. -/
private theorem readTarget?_of_allowed {text : Option (List CodePoint)} (allowed : allowedTarget text = true) :
    ∃ target, Decision.readTarget? text = some target ∧ text = target.map Target.text := by
  cases text with
  | none => exact ⟨none, rfl, rfl⟩
  | some text =>
    obtain ⟨target, read⟩ := Option.isSome_iff_exists.mp allowed
    exact ⟨some target, by rw [Decision.readTarget?, read, Option.map_some],
      by rw [Option.map_some, Target.ofText?_eq_some_iff.mp read]⟩

/-- A proposal without an error gives a reason, and is a decision the state approves if that reason has an encoding. -/
theorem modelValidate?_of_firstError {proposal : ProposedDecision}
    (first : validator.firstError (some proposal) state = none) :
    ∃ reason, proposal.reasonCode = some reason ∧ reason ≠ [] ∧
      (CodePoint.encodable reason = false → Decision.modelValidate? proposal = none) ∧
      (CodePoint.encodable reason = true →
        ∃ decision, Decision.modelValidate? proposal = some decision ∧ state.Approves decision) := by
  simp only [firstError] at first
  cases read : proposal.action.bind Action.ofText? with
  | none => simp [read] at first
  | some action =>
    simp only [read, Option.map_eq_none_iff, List.find?_eq_none, checks, List.forall_mem_cons,
      Bool.not_eq_true, Bool.not_eq_false', Bool.and_eq_false_imp] at first
    obtain ⟨allowed, named, -, toPrimary, fresh, attempts, same, notFallback, -, unused, toFallback,
      targetless, waits, alive, -⟩ := first
    obtain ⟨target, known, text⟩ := readTarget?_of_allowed allowed
    obtain ⟨reason, given, nonempty⟩ : ∃ reason, proposal.reasonCode = some reason ∧ reason ≠ [] := by
      cases given : proposal.reasonCode with
      | none => simp [given] at named
      | some reason => exact ⟨reason, rfl, by simpa [given] using named⟩
    refine ⟨reason, given, nonempty, fun unencodable => ?_, fun encodable => ?_⟩
    · have unread := Option.not_isSome_iff_eq_none.mp (Bool.eq_false_iff.mp unencodable)
      simp [Decision.modelValidate?, read, known, given, unread]
    obtain ⟨said, encoded⟩ := Option.isSome_iff_exists.mp encodable
    have words : said ≠ "" := by
      rintro rfl
      exact nonempty (CodePoint.encode?_eq_some_iff.mp encoded)
    suffices checked : targetMatchesAction action target = true ∧
        ∀ decision : Decision, decision.action = action → decision.target = target →
          state.Approves decision by
      refine ⟨⟨action, target, said, words, checked.1⟩, ?_, checked.2 _ rfl rfl⟩
      simp [Decision.modelValidate?, read, known, given, encoded, Decision.ofParts?, words, checked.1]
    rw [text] at toPrimary same notFallback toFallback targetless
    cases action with
    | continueFlow =>
      refine ⟨?_, fun decision same _ => ⟨alive, ?_⟩⟩
      · rcases target with _ | target
        · rfl
        · simpa [targetMatchesAction, Target.text_inj] using toPrimary
      · rw [same]
        simpa using fresh
    | retry =>
      obtain ⟨route, rfl⟩ : ∃ route, target = some route := by
        cases target with
        | none => simp at same
        | some route => exact ⟨route, rfl⟩
      refine ⟨rfl, fun decision here _ => ⟨alive, ?_⟩⟩
      rw [here]
      cases current : state.task.currentTarget with
      | none => simp [current] at same
      | some other =>
        obtain rfl : route = other := by simpa [current, Target.text_inj] using same
        cases route with
        | inventoryPrimary => exact ⟨rfl, by simpa using attempts⟩
        | inventoryFallback => simp at notFallback
    | wait =>
      obtain rfl : target = none := by simpa using targetless
      exact ⟨rfl, fun decision here _ => ⟨alive, by rw [here]; simpa using waits⟩⟩
    | fallback =>
      obtain rfl : target = some .inventoryFallback := by
        rcases target with _ | target
        · simp at toFallback
        · simpa [Target.text_inj] using toFallback
      refine ⟨rfl, fun decision here there => ⟨alive, ?_⟩⟩
      rw [here]
      exact ⟨by simpa using unused, there⟩
    | abort =>
      obtain rfl : target = none := by simpa using targetless
      exact ⟨rfl, fun decision here _ => ⟨alive, by rw [here]; trivial⟩⟩

/-- The output is an approved proposal whose reason has no encoding, which the contract of a decision refuses. -/
def Unresolvable (validator : DecisionValidator) (state : SystemState) (output : EngineOutput) : Prop :=
  validator.validate output.proposal state (output.failure = some llmDecisionTimeout) = .ok ∧
    ∃ proposal reason, output.proposal = some proposal ∧ proposal.reasonCode = some reason ∧
      CodePoint.encodable reason = false

/-- An approved output is its own decision, unless that has no encoding. -/
theorem resolve?_of_ok {output : EngineOutput} (approved : validator.validate output.proposal state
    (output.failure = some llmDecisionTimeout) = .ok) :
    (validator.Unresolvable state output ∧ validator.resolve? state output = none) ∨
      ∃ decision, validator.resolve? state output = some decision ∧ ¬validator.Unresolvable state output ∧
        output.proposal.bind Decision.modelValidate? = some decision ∧ state.Approves decision := by
  have checked := approved
  rw [validate] at checked
  split_ifs at checked with timedOut
  · cases checked
  cases first : validator.firstError output.proposal state with
  | some error => simp [first, ValidationResult.ok, ValidationResult.invalid] at checked
  | none =>
    cases proposed : output.proposal with
    | none => simp [proposed, firstError] at first
    | some proposal =>
      rw [proposed] at first
      obtain ⟨reason, given, -, refused, read⟩ := modelValidate?_of_firstError first
      have resolves : validator.resolve? state output = Decision.modelValidate? proposal := by
        rw [resolve?, approved, proposed]
        simp [resolveAction?, ValidationResult.ok]
      cases encodable : CodePoint.encodable reason with
      | false => exact .inl ⟨⟨approved, proposal, reason, proposed, given, encodable⟩, resolves.trans (refused encodable)⟩
      | true =>
        obtain ⟨decision, validated, approves⟩ := read encodable
        refine .inr ⟨decision, resolves.trans validated, ?_, by rw [Option.bind_some, validated], approves⟩
        rintro ⟨-, other, said, here, there, unencodable⟩
        cases proposed.symm.trans here
        cases given.symm.trans there
        cases encodable.symm.trans unencodable

/-- Any other output aborts. -/
theorem resolve?_of_not_ok {output : EngineOutput} (rejected : validator.validate output.proposal state
    (output.failure = some llmDecisionTimeout) ≠ .ok) :
    ∃ decision, validator.resolve? state output = some decision ∧ decision.action = .abort := by
  obtain ⟨error, invalid⟩ : ∃ error, validator.validate output.proposal state
      (output.failure = some llmDecisionTimeout) = .invalid error := by
    rw [validate] at rejected ⊢
    split_ifs at rejected ⊢
    · exact ⟨_, rfl⟩
    · cases first : validator.firstError output.proposal state with
      | some error => exact ⟨error, rfl⟩
      | none => simp [first] at rejected
  rw [resolve?, invalid]
  by_cases timeout : error = .llmDecisionTimeout
  · exact ⟨llmTimeoutAbort, by simp [resolveAction?, ValidationResult.invalid, timeout], rfl⟩
  · refine ⟨invalidDecisionAbort, ?_, rfl⟩
    cases output.proposal <;> simp [resolveAction?, ValidationResult.invalid, timeout]

/-- `resolve_action` raises exactly for an approved proposal whose reason has no encoding. -/
theorem resolve?_eq_none_iff {output : EngineOutput} :
    validator.resolve? state output = none ↔ validator.Unresolvable state output := by
  by_cases approved : validator.validate output.proposal state (output.failure = some llmDecisionTimeout) = .ok
  · rcases resolve?_of_ok approved with ⟨unresolvable, raises⟩ | ⟨decision, resolved, resolvable, -⟩
    · exact iff_of_true raises unresolvable
    · exact iff_of_false (by simp [resolved]) resolvable
  · obtain ⟨decision, resolved, -⟩ := resolve?_of_not_ok approved
    exact iff_of_false (by simp [resolved]) fun unresolvable => approved unresolvable.1

/-- An output whose texts have an encoding resolves to a decision. -/
theorem exists_resolve? (validator : DecisionValidator) (state : SystemState) {output : EngineOutput}
    (encodable : output.encodable = true) : ∃ decision, validator.resolve? state output = some decision := by
  rw [← Option.ne_none_iff_exists', ne_eq, resolve?_eq_none_iff]
  rintro ⟨-, proposal, reason, proposed, given, unencodable⟩
  simp [EngineOutput.encodable, ProposedDecision.encodable, proposed, given, unencodable] at encodable

/-- Just the outputs without an encoding lead to no decision. -/
theorem decision?_eq_none_iff {output : EngineOutput} :
    validator.decision? state output = none ↔ output.encodable = false := by
  cases encodable : output.encodable with
  | false => simp [decision?, encodable]
  | true =>
    obtain ⟨decision, resolved⟩ := validator.exists_resolve? state encodable
    simp [decision?, encodable, resolved]

theorem resolve?_of_decision? {output : EngineOutput} {decision : Decision}
    (decided : validator.decision? state output = some decision) : validator.resolve? state output = some decision := by
  rw [decision?] at decided
  split_ifs at decided
  exact decided

/-- A decision that an output resolves to is one the state approves, or an abort. -/
theorem approves_of_resolve? {output : EngineOutput} {decision : Decision}
    (resolved : validator.resolve? state output = some decision) : state.Approves decision ∨ decision.action = .abort := by
  by_cases approved : validator.validate output.proposal state (output.failure = some llmDecisionTimeout) = .ok
  · rcases resolve?_of_ok approved with ⟨-, raises⟩ | ⟨other, resolved', -, -, approves⟩
    · cases raises.symm.trans resolved
    · cases resolved.symm.trans resolved'
      exact .inl approves
  · obtain ⟨other, resolved', abort⟩ := resolve?_of_not_ok approved
    cases resolved.symm.trans resolved'
    exact .inr abort

end DecisionValidator

/-! ## The rules engine -/

structure RulesDecisionEngine where
  taskDeadlineMs : ℕ
  maxAttempts : ℕ
  maxWaits : ℕ
  queueHighWatermark : ℕ
deriving DecidableEq, Repr

namespace RulesDecisionEngine

def ofConfig (config : ExperimentConfig) : RulesDecisionEngine where
  taskDeadlineMs := config.messaging.taskDeadlineMs
  maxAttempts := config.messaging.maxAttempts
  maxWaits := config.messaging.maxWaits
  queueHighWatermark := config.messaging.queueHighWatermark

/-- The rule that decides, as the arguments of `_decision`. -/
def rule (engine : RulesDecisionEngine) (state : SystemState) : Action × Option Target × ReasonCode :=
  if engine.taskDeadlineMs ≤ state.task.elapsedMs then (.abort, none, .taskDeadlineExceeded)
  else if state.service.lastResult = some .invalidData then (.abort, none, .invalidData)
  else if state.service.lastResult = some .fallbackFailed then (.abort, none, .fallbackFailed)
  else if state.service.status = .unavailable then
    if state.task.waitCount < engine.maxWaits then (.wait, none, .serviceUnavailable)
    else (.abort, none, .serviceUnavailableLimit)
  else if engine.queueHighWatermark ≤ state.messaging.queueSize then
    if state.task.waitCount < engine.maxWaits then (.wait, none, .queuePressure)
    else (.abort, none, .queuePressureLimit)
  else if degradedResult state.service.lastResult then
    if state.task.attemptNumber < engine.maxAttempts then
      (.retry, state.task.currentTarget, .transientRetry)
    else if state.alternatives.fallbackAvailable && !state.alternatives.fallbackUsed then
      (.fallback, some .inventoryFallback, .primaryExhausted)
    else (.abort, none, .attemptsExhausted)
  else if state.task.phase = .pending || state.task.phase = .waiting then
    (.continueFlow, some .inventoryPrimary, .normalFlow)
  else (.abort, none, .unmappedState)

/-- `policy`; `none` is the `ValidationError` of the decision it builds. -/
def policy? (engine : RulesDecisionEngine) (state : SystemState) : Option Decision :=
  let (action, target, reason) := engine.rule state
  Decision.ofParts? action target reason.value

/-- `decide`. -/
def decide? (engine : RulesDecisionEngine) (state : SystemState) : Option EngineOutput :=
  (engine.policy? state).map fun decision => ⟨some decision.toProposed, none⟩

end RulesDecisionEngine

end OrchLab
