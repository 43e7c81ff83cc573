import OrchLab.Model.Shared.Contract
import OrchLab.Text.CodePoints

/-! # Decisions and the state they are taken on

`shared/decision.py` and `shared/system_state.py`. A proposal is text as the engine gave it, a string of code points
that may hold halves of surrogate pairs; a decision is executable and carries the proof that its target matches its
action. The contract bounds the length of the reason of a decision, and so refuses a reason without an encoding. A
system state is the snapshot both engines receive.
-/

namespace OrchLab

/-! ## Decisions -/

/-- `Action`; the constructor of `CONTINUE` avoids the keyword. -/
inductive Action where
  | continueFlow | retry | wait | fallback | abort
deriving DecidableEq, Repr

def Action.value : Action → String
  | .continueFlow => "CONTINUE"
  | .retry => "RETRY"
  | .wait => "WAIT"
  | .fallback => "FALLBACK"
  | .abort => "ABORT"

/-- `Action(text)`. -/
def Action.ofValue? (text : String) : Option Action :=
  if text = "CONTINUE" then some .continueFlow
  else if text = "RETRY" then some .retry
  else if text = "WAIT" then some .wait
  else if text = "FALLBACK" then some .fallback
  else if text = "ABORT" then some .abort
  else none

@[simp] theorem Action.ofValue?_value (action : Action) : Action.ofValue? action.value = some action := by
  cases action <;> rfl

theorem Action.ofValue?_eq_some_iff {text : String} {action : Action} :
    Action.ofValue? text = some action ↔ text = action.value := by
  constructor
  · intro read
    simp only [Action.ofValue?] at read
    split_ifs at read with first second third fourth fifth
    · rw [first, ← Option.some_inj.mp read, Action.value]
    · rw [second, ← Option.some_inj.mp read, Action.value]
    · rw [third, ← Option.some_inj.mp read, Action.value]
    · rw [fourth, ← Option.some_inj.mp read, Action.value]
    · rw [fifth, ← Option.some_inj.mp read, Action.value]
  · rintro rfl
    exact Action.ofValue?_value action

/-- `Action(text)` of a string of code points. -/
def Action.ofText? (text : List CodePoint) : Option Action := (CodePoint.encode? text).bind Action.ofValue?

theorem Action.ofText?_eq_some_iff {text : List CodePoint} {action : Action} :
    Action.ofText? text = some action ↔ text = CodePoint.ofString action.value := by
  rw [Action.ofText?, Option.bind_eq_some_iff]
  constructor
  · rintro ⟨encoded, read, known⟩
    rw [CodePoint.encode?_eq_some_iff.mp read, Action.ofValue?_eq_some_iff.mp known]
  · rintro rfl
    exact ⟨action.value, CodePoint.encode?_ofString _, Action.ofValue?_value action⟩

@[simp] theorem Action.ofText?_value (action : Action) :
    Action.ofText? (CodePoint.ofString action.value) = some action := Action.ofText?_eq_some_iff.mpr rfl

/-- The text of a target. -/
def Target.text (target : Target) : List CodePoint := CodePoint.ofString target.value

/-- A `Target` literal in a string of code points. -/
def Target.ofText? (text : List CodePoint) : Option Target := (CodePoint.encode? text).bind Target.ofValue?

theorem Target.ofText?_eq_some_iff {text : List CodePoint} {target : Target} :
    Target.ofText? text = some target ↔ text = target.text := by
  rw [Target.ofText?, Option.bind_eq_some_iff]
  constructor
  · rintro ⟨encoded, read, known⟩
    rw [CodePoint.encode?_eq_some_iff.mp read, Target.ofValue?_eq_some_iff.mp known, Target.text]
  · rintro rfl
    exact ⟨target.value, CodePoint.encode?_ofString _, Target.ofValue?_eq_some_iff.mpr rfl⟩

@[simp] theorem Target.ofText?_text (target : Target) : Target.ofText? target.text = some target :=
  Target.ofText?_eq_some_iff.mpr rfl

theorem Target.text_inj {target other : Target} : target.text = other.text ↔ target = other := by
  cases target <;> cases other <;> decide

inductive ReasonCode where
  | normalFlow | transientRetry | primaryExhausted | serviceUnavailable | serviceUnavailableLimit
  | queuePressure | queuePressureLimit | attemptsExhausted | fallbackFailed | invalidData
  | taskDeadlineExceeded | unmappedState | invalidDecision | llmDecisionTimeout
deriving DecidableEq, Repr

def ReasonCode.value : ReasonCode → String
  | .normalFlow => "NORMAL_FLOW"
  | .transientRetry => "TRANSIENT_RETRY"
  | .primaryExhausted => "PRIMARY_EXHAUSTED"
  | .serviceUnavailable => "SERVICE_UNAVAILABLE"
  | .serviceUnavailableLimit => "SERVICE_UNAVAILABLE_LIMIT"
  | .queuePressure => "QUEUE_PRESSURE"
  | .queuePressureLimit => "QUEUE_PRESSURE_LIMIT"
  | .attemptsExhausted => "ATTEMPTS_EXHAUSTED"
  | .fallbackFailed => "FALLBACK_FAILED"
  | .invalidData => "INVALID_DATA"
  | .taskDeadlineExceeded => "TASK_DEADLINE_EXCEEDED"
  | .unmappedState => "UNMAPPED_STATE"
  | .invalidDecision => "INVALID_DECISION"
  | .llmDecisionTimeout => "LLM_DECISION_TIMEOUT"

theorem ReasonCode.value_ne_empty (reason : ReasonCode) : reason.value ≠ "" := by
  cases reason <;> decide

theorem ReasonCode.text_ne_nil (reason : ReasonCode) : CodePoint.ofString reason.value ≠ [] :=
  CodePoint.ofString_eq_nil_iff.not.mpr reason.value_ne_empty

inductive ValidationErrorCode where
  | unknownAction | unknownTarget | missingReasonCode | invalidContinueTarget | continueAfterDispatch
  | retryLimitExceeded | invalidRetryTarget | fallbackRetryLimit | fallbackNotAvailable
  | fallbackAlreadyUsed | invalidFallbackTarget | targetNotAllowed | waitLimitExceeded
  | taskDeadlineExceeded | terminalTask | malformedDecision | llmDecisionTimeout
deriving DecidableEq, Repr

/-- What an engine proposed, as it was read. -/
structure ProposedDecision where
  action : Option (List CodePoint)
  target : Option (List CodePoint)
  reasonCode : Option (List CodePoint)
deriving DecidableEq, Repr

namespace ProposedDecision

/-- The proposal of these texts. -/
def ofTexts (action target reasonCode : Option String) : ProposedDecision :=
  ⟨action.map CodePoint.ofString, target.map CodePoint.ofString, reasonCode.map CodePoint.ofString⟩

/-- Every text of the proposal has an encoding. -/
def encodable (proposal : ProposedDecision) : Bool :=
  proposal.action.all CodePoint.encodable && proposal.target.all CodePoint.encodable &&
    proposal.reasonCode.all CodePoint.encodable

@[simp] theorem encodable_ofTexts (action target reasonCode : Option String) :
    (ofTexts action target reasonCode).encodable = true := by
  simp [ofTexts, encodable, Option.all_map]

end ProposedDecision

/-- `Decision._target_matches_action`. -/
def targetMatchesAction (action : Action) (target : Option Target) : Bool :=
  match action with
  | .continueFlow => target = none || target = some .inventoryPrimary
  | .retry | .fallback => target.isSome
  | .wait | .abort => target.isNone

/-- A decision the executor can receive. -/
structure Decision where
  action : Action
  target : Option Target
  reasonCode : String
  reasonCode_ne : reasonCode ≠ ""
  matchesAction : targetMatchesAction action target = true
deriving DecidableEq

namespace Decision

/-- The constructor of the contract: `none` is its `ValidationError`. -/
def ofParts? (action : Action) (target : Option Target) (reasonCode : String) : Option Decision :=
  if checks : reasonCode ≠ "" ∧ targetMatchesAction action target = true then
    some ⟨action, target, reasonCode, checks.1, checks.2⟩
  else none

/-- Reading the target of a proposal: a known route, or the failure of its `Literal`. -/
def readTarget? : Option (List CodePoint) → Option (Option Target)
  | none => some none
  | some text => (Target.ofText? text).map some

/-- `Decision.model_validate(proposal.model_dump())`. -/
def modelValidate? (proposal : ProposedDecision) : Option Decision :=
  (proposal.action.bind Action.ofText?).bind fun action =>
    (readTarget? proposal.target).bind fun target =>
      (proposal.reasonCode.bind CodePoint.encode?).bind fun reason => ofParts? action target reason

/-- `decision.model_dump(mode="json")` read as a proposal. -/
def toProposed (decision : Decision) : ProposedDecision :=
  .ofTexts (some decision.action.value) (decision.target.map Target.value) (some decision.reasonCode)

theorem toProposed_inj {one two : Decision} : one.toProposed = two.toProposed ↔ one = two := by
  constructor
  · intro same
    simp only [toProposed, ProposedDecision.ofTexts, Option.map_some, Option.map_map, ProposedDecision.mk.injEq,
      Option.some_inj, CodePoint.ofString_inj] at same
    obtain ⟨action, target, reason⟩ := same
    have actions := congrArg Action.ofValue? action
    have targets := Option.map_injective (fun _ _ => Target.text_inj.mp) target
    rw [Action.ofValue?_value, Action.ofValue?_value, Option.some_inj] at actions
    cases one
    cases two
    simp only at actions targets reason
    subst actions targets reason
    rfl
  · rintro rfl
    rfl

theorem ofParts?_eq_some {action : Action} {target : Option Target} {reasonCode : String} {decision : Decision}
    (made : ofParts? action target reasonCode = some decision) :
    decision.action = action ∧ decision.target = target ∧ decision.reasonCode = reasonCode := by
  rw [ofParts?] at made
  split_ifs at made
  rw [← Option.some_inj.mp made]
  exact ⟨rfl, rfl, rfl⟩

theorem readTarget?_eq_some {text : Option (List CodePoint)} {target : Option Target}
    (read : readTarget? text = some target) : text = target.map Target.text := by
  cases text with
  | none =>
    rw [← Option.some_inj.mp read]
    rfl
  | some text =>
    obtain ⟨known, parsed, rfl⟩ := Option.map_eq_some_iff.mp read
    rw [Target.ofText?_eq_some_iff.mp parsed, Option.map_some]

/-- A proposal that is a decision is that decision as it was written. -/
theorem toProposed_of_modelValidate? {proposal : ProposedDecision} {decision : Decision}
    (read : modelValidate? proposal = some decision) : proposal = decision.toProposed := by
  obtain ⟨action, named, read⟩ := Option.bind_eq_some_iff.mp read
  obtain ⟨text, given, known⟩ := Option.bind_eq_some_iff.mp named
  obtain ⟨target, targeted, read⟩ := Option.bind_eq_some_iff.mp read
  obtain ⟨reason, reasoned, made⟩ := Option.bind_eq_some_iff.mp read
  obtain ⟨words, said, encoded⟩ := Option.bind_eq_some_iff.mp reasoned
  obtain ⟨rfl, rfl, rfl⟩ := ofParts?_eq_some made
  obtain ⟨action, target, reasonCode⟩ := proposal
  simp only at given targeted said
  rw [given, readTarget?_eq_some targeted, said, Action.ofText?_eq_some_iff.mp known,
    CodePoint.encode?_eq_some_iff.mp encoded, toProposed, ProposedDecision.ofTexts, Option.map_map]
  rfl

end Decision

structure ValidationResult where
  valid : Bool
  error : Option ValidationErrorCode
deriving DecidableEq, Repr

def ValidationResult.ok : ValidationResult := ⟨true, none⟩

def ValidationResult.invalid (error : ValidationErrorCode) : ValidationResult := ⟨false, some error⟩

/-- `INVALID_DECISION_ABORT`. -/
def invalidDecisionAbort : Decision where
  action := .abort
  target := none
  reasonCode := ReasonCode.invalidDecision.value
  reasonCode_ne := by decide
  matchesAction := rfl

/-- `LLM_TIMEOUT_ABORT`. -/
def llmTimeoutAbort : Decision where
  action := .abort
  target := none
  reasonCode := ReasonCode.llmDecisionTimeout.value
  reasonCode_ne := by decide
  matchesAction := rfl

/-- `resolve_action`; `none` is the `ValidationError` of a proposal that is not a decision. -/
def resolveAction? (proposal : Option ProposedDecision) (validation : ValidationResult) :
    Option Decision :=
  if validation.error = some .llmDecisionTimeout then some llmTimeoutAbort
  else match proposal with
    | none => some invalidDecisionAbort
    | some proposal =>
      if validation.valid then Decision.modelValidate? proposal else some invalidDecisionAbort

/-! ## The system state -/

structure TaskView where
  phase : TaskStatus
  currentService : Option String
  currentTarget : Option Target
  attemptNumber : ℕ
  maxAttempts : ℕ
  waitCount : ℕ
  maxWaits : ℕ
  elapsedMs : ℕ
deriving DecidableEq, Repr

inductive ServiceStatus where
  | available | degraded | unavailable
deriving DecidableEq, Repr

structure ServiceView where
  status : ServiceStatus
  latencyMs : Option ℕ
  lastResult : Option TaskResult
deriving DecidableEq, Repr

structure MessagingView where
  queueSize : ℕ
  redelivered : Bool
deriving DecidableEq, Repr

structure AlternativesView where
  fallbackAvailable : Bool
  fallbackUsed : Bool
  alternativeTargets : List Target
deriving DecidableEq, Repr

structure RecentEvent where
  eventType : EventType
  attemptNumber : ℕ
  eventSeq : ℕ
deriving DecidableEq, Repr

structure SystemState where
  executionId : String
  taskId : TaskId
  stateId : StateId
  timestamp : Timestamp
  currentEventSeq : ℕ
  task : TaskView
  service : ServiceView
  messaging : MessagingView
  alternatives : AlternativesView
  recentEvents : List RecentEvent
deriving DecidableEq, Repr

/-- The constraints of the model that its field types do not already carry. -/
def SystemState.valid (state : SystemState) : Bool :=
  isExecutionId state.executionId && 1 ≤ state.currentEventSeq && 1 ≤ state.task.attemptNumber &&
    1 ≤ state.task.maxAttempts &&
    state.recentEvents.all fun event => 1 ≤ event.attemptNumber && 1 ≤ event.eventSeq

theorem SystemState.executionId_of_valid {state : SystemState} (valid : state.valid = true) :
    isExecutionId state.executionId = true := by
  simp only [SystemState.valid, Bool.and_eq_true] at valid
  exact valid.1.1.1.1

/-- What an engine returned at a decision point, without its measurements. -/
structure EngineOutput where
  proposal : Option ProposedDecision
  failure : Option String
deriving DecidableEq, Repr

/-- The texts of the proposal have an encoding. -/
def EngineOutput.encodable (output : EngineOutput) : Bool := output.proposal.all ProposedDecision.encodable

/-- `LLM_DECISION_TIMEOUT` of `decision_engine.py`. -/
def llmDecisionTimeout : String := "LLM_DECISION_TIMEOUT"

end OrchLab
