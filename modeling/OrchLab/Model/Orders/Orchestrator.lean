import OrchLab.Model.Orders.Recorders
import OrchLab.Text.CodePoints

/-! # A decision point as a whole

`Orchestrator.handle_decision_point` and `DecisionExecutor.execute` of `services/orders/app/orchestration`, with
everything outside the process that they call: the broker, the engine's runtime, the files of the artifacts, the
database and the queues. Each of these may raise. What was done before that stays done: the effects are performed
in order after the commit, and the first one that raises ends the decision point. `POST /orders` persists an order and
then handles its first decision point.
-/

namespace OrchLab

/-- `EngineOutput`, with what the engine measured and the text it was read from. -/
structure EngineReport extends EngineOutput where
  llmInferenceMs : Option ℚ
  tokenUsage : Option TokenUsage
  rawResponse : Option (List CodePoint)
  doneReason : Option String
deriving DecidableEq

/-- The measurements of an engine: no time is negative, and the rules measure nothing. -/
def EngineReport.Measures (report : EngineReport) : EngineName → Prop
  | .rules => report.llmInferenceMs = none ∧ report.tokenUsage = none
  | .llm => ∀ time ∈ report.llmInferenceMs, 0 ≤ time

/-- What an effect asks of a queue. -/
inductive EffectKind where
  | publication | timeoutCheck | dispatch | reevaluation
deriving DecidableEq, Repr

def Effect.kind : Effect → EffectKind
  | .publish .. => .publication
  | .scheduleTimeoutCheck .. => .timeoutCheck
  | .scheduleDispatch .. => .dispatch
  | .scheduleReevaluation .. => .reevaluation

/-- The effects of an executed action, in order. -/
def Action.effects : Action → List EffectKind
  | .continueFlow | .fallback => [.publication, .timeoutCheck]
  | .retry => [.dispatch]
  | .wait => [.reevaluation]
  | .abort => []

/-- What a decision point meets outside the process, and the identifiers it draws; `none` and `false` stand for an
exception. -/
structure Surroundings where
  seen : Option Observation
  writesState : Bool
  engine : SystemState → Option EngineReport
  decisionTimeMs : ℚ
  decisionId : DecisionId
  timestamp : Timestamp
  writesDecision : Bool
  commits : Bool
  draw : Draw
  accepts : EffectKind → Bool

/-- `DecisionOutcome`. -/
structure DecisionOutcome where
  decisionId : DecisionId
  stateId : StateId
  validation : ValidationResult
  executed : Decision
  execution : ExecutionResult
deriving DecidableEq

/-- What a decision point leaves, and what it returns unless it raises. -/
structure Conducted where
  db : OrdersDb
  states : List StateRecord
  decisions : List DecisionRecord
  sent : List Effect
  outcome : Option DecisionOutcome

/-- A decision point that has changed nothing yet. -/
def Conducted.unchanged (db : OrdersDb) : Conducted := ⟨db, [], [], [], none⟩

namespace Surroundings

variable (around : Surroundings)

/-- `DecisionExecutor.execute`: the transaction, then its effects until one raises. -/
def execute (config : ExperimentConfig) (db : OrdersDb) (task : TaskId) (decision : Decision) :
    OrdersDb × List Effect × Option ExecutionResult :=
  match db.execute config task around.decisionId around.draw decision with
  | .error _ => (db, [], none)
  | .ok (after, result, effects) =>
    if around.commits then
      (after, effects.takeWhile (around.accepts ·.kind),
        if effects.all (around.accepts ·.kind) then some result else none)
    else (db, [], none)

/-- The measurements that the record of a decision takes over. -/
def measured (engine : EngineName) (report : EngineReport) : Measurement :=
  ⟨engine, around.decisionTimeMs, report.llmInferenceMs, report.tokenUsage, around.timestamp⟩

/-- From the snapshot to the executed decision. -/
def conduct (deployment : Deployment) (engine : EngineName) (db : OrdersDb) (task : TaskId) (state : SystemState) :
    Conducted :=
  let recorded : Conducted := { Conducted.unchanged db with states := [.of state] }
  match around.engine state with
  | none => recorded
  | some report =>
    match deployment.validator.resolve? state report.toEngineOutput with
    | none => recorded
    | some decision =>
      let record := DecisionRecord.of deployment.validator state report.toEngineOutput decision around.decisionId
        (around.measured engine report)
      if record.valid && record.encodable && around.writesDecision then
        let (after, sent, execution) := around.execute deployment.config db task decision
        { db := after
          states := [.of state]
          decisions := [record]
          sent := sent
          outcome := execution.map fun result =>
            { decisionId := around.decisionId
              stateId := state.stateId
              validation := deployment.validator.validate report.proposal state
                (report.failure = some llmDecisionTimeout)
              executed := decision
              execution := result } }
      else recorded

/-- `Orchestrator.handle_decision_point`. -/
def handleDecisionPoint (deployment : Deployment) (engine : EngineName) (db : OrdersDb) (task : TaskId) :
    Conducted :=
  match around.seen with
  | none => .unchanged db
  | some seen =>
    match db.build deployment.config task seen with
    | .error _ => .unchanged db
    | .ok state =>
      if around.writesState then around.conduct deployment engine db task state else .unchanged db

/-- `create_order` of `POST /orders`: the order and its task are persisted, unless that raises, and then the first
decision point is handled. The answer is 202 when it returns. -/
def createOrder (deployment : Deployment) (engine : EngineName) (persists : Bool) (db : OrdersDb)
    (request : CreateOrderRequest) (now : Timestamp) : Conducted :=
  match db.createOrderWithTask deployment.executionId (canonicalJson request.items) now with
  | .error _ => .unchanged db
  | .ok (created, task) =>
    if persists then around.handleDecisionPoint deployment engine created task else .unchanged db

end Surroundings

/-! ## Surroundings without exceptions -/

/-- The model answers with these parts after this time. -/
def EngineReport.saying (action : String) (target : Option String) (reason : String) (inferenceMs : ℚ) :
    EngineReport where
  proposal := some (.ofTexts (some action) target (some reason))
  failure := none
  llmInferenceMs := some inferenceMs
  tokenUsage := none
  rawResponse := none
  doneReason := none

/-- Nothing raises, but for an engine that does not answer. -/
def Surroundings.calm (seen : Observation) (decisionId : DecisionId) (draw : Draw) : Surroundings where
  seen := some seen
  writesState := true
  engine _ := none
  decisionTimeMs := 0
  decisionId := decisionId
  timestamp := draw.now
  writesDecision := true
  commits := true
  draw := draw
  accepts _ := true

end OrchLab
