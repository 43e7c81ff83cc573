import OrchLab.Model.Scripts.Consolidate
import OrchLab.ToMathlib.FirstRun
import Mathlib.Algebra.BigOperators.Group.List.Basic
import Mathlib.Data.Rat.Floor

/-! # Metrics of an execution

`scripts/analysis/consolidate.py`: `percentile`, `recovery` and `decision_cost`, over exact numbers and before
the values are rounded for the table. Where Python would raise, the error is a result; so is a number too large for
a float, where a float is asked for.
-/

namespace OrchLab

/-- What a metric raises on values it does not expect. -/
inductive ScriptError where
  | typeError
  | indexError
  | attributeError
  | overflowError
deriving DecidableEq, Repr

/-! ## Floats -/

/-- The least number that is rounded to no float. -/
def floatLimit : ℚ := 2 ^ 1024 - 2 ^ 970

/-- A number that has to be a float. -/
def toFloat (value : ℚ) : Except ScriptError ℚ :=
  if |value| < floatLimit then .ok value else .error .overflowError

/-- `math.fsum`, which raises as soon as a sum on the way is no float. -/
def fsum (values : List ℚ) : Except ScriptError ℚ := values.foldlM (fun total value => toFloat (total + value)) 0

/-- `statistics.fmean(values) if values else None`, of any floats. -/
def fmean? (values : List ℚ) : Except ScriptError (Option ℚ) :=
  if values.isEmpty then .ok none else (fsum values).map fun total => some (total / values.length)

/-! ## Percentiles -/

/-- `values[index]`; a negative index counts from the end. -/
def itemAt {α : Type*} (values : List α) (index : ℤ) : Except ScriptError α :=
  match if index < 0 then values.reverse[(-index - 1).toNat]? else values[index.toNat]? with
  | none => .error .indexError
  | some value => .ok value

/-- `percentile`, with linear interpolation. -/
def percentile (values : List ℚ) (q : ℚ) : Except ScriptError (Option ℚ) :=
  if values.isEmpty then .ok none
  else
    let ordered := sortOn id values
    let position : ℚ := (ordered.length - 1 : ℤ) * q
    let low := ⌊position⌋
    match itemAt ordered low, itemAt ordered ⌈position⌉ with
    | .ok lower, .ok upper => .ok (some (lower + (upper - lower) * (position - low)))
    | .error error, _ | _, .error error => .error error

/-- The quantile of every P95. -/
def p95 : ℚ := 19 / 20

/-! ## Recovery after a fault -/

/-- An entry of `fault_windows`. -/
structure FaultWindow where
  faultId : String
  faultType : String
  startedAt : Timestamp
  endedAt : Timestamp
deriving DecidableEq, Repr

/-- A row of `recovery_metrics.csv`. -/
structure RecoveryRow where
  faultId : String
  faultType : String
  faultStartedAt : Timestamp
  faultEndedAt : Timestamp
  windowTasksK : ℕ
  baselineTasks : ℕ
  baselineP95Ms : Option ℚ
  recovered : Option Bool
  recoveredAt : Option Timestamp
  recoveryTimeMs : Option ℤ
  recoveryAfterFaultEndMs : Option ℤ
deriving DecidableEq, Repr

/-- The tasks completed from before the fault. -/
def baselineTasks (tasks : List TaskOutcome) (window : FaultWindow) : List TaskOutcome :=
  tasks.filter fun task => task.status = some .completed && task.createdAt < window.startedAt

/-- The tasks created since the end of the fault. -/
def tasksAfter (tasks : List TaskOutcome) (window : FaultWindow) : List TaskOutcome :=
  tasks.filter fun task => window.endedAt ≤ task.createdAt

/-- The latency of a task as a number; the code compares and subtracts it. -/
def TaskOutcome.latency? (task : TaskOutcome) : Except ScriptError ℚ :=
  match task.e2eMs with
  | none => .error .typeError
  | some time => .ok time

/-- `t["status"] == "COMPLETED" and t["e2e_ms"] <= reference`. -/
def TaskOutcome.isNormal (reference : ℚ) (task : TaskOutcome) : Except ScriptError Bool :=
  if task.status = some .completed then task.latency?.map fun time => decide (time ≤ reference) else .ok false

/-- `recovery`. -/
def recovery (tasks : List TaskOutcome) (window : FaultWindow) (k : ℕ) : Except ScriptError RecoveryRow := do
  let baseline ← (baselineTasks tasks window).mapM TaskOutcome.latency?
  let reference ← percentile baseline p95
  let row : RecoveryRow :=
    { faultId := window.faultId
      faultType := window.faultType
      faultStartedAt := window.startedAt
      faultEndedAt := window.endedAt
      windowTasksK := k
      baselineTasks := baseline.length
      baselineP95Ms := reference
      recovered := some false
      recoveredAt := none
      recoveryTimeMs := none
      recoveryAfterFaultEndMs := none }
  match reference with
  | none => return { row with recovered := none }
  | some reference =>
    let after := tasksAfter tasks window
    let normal ← after.mapM (TaskOutcome.isNormal reference)
    match firstRun k normal with
    | none => return row
    | some index =>
      match (← itemAt after index).finishedAt with
      | none => throw .attributeError
      | some finishedAt =>
        return { row with
          recovered := some true
          recoveredAt := some finishedAt
          recoveryTimeMs := some (finishedAt - window.startedAt)
          recoveryAfterFaultEndMs := some (finishedAt - window.endedAt) }

/-! ## The cost of decisions -/

/-- The columns of `decision_cost`. -/
structure DecisionCost where
  decisionCount : ℕ
  llmCallCount : ℕ
  decisionTimeTotalMs : ℚ
  decisionTimeMeanMs : Option ℚ
  decisionTimeP95Ms : Option ℚ
  llmInferenceTotalMs : Option ℚ
  llmCallsPerTask : Option ℚ
  inputTokensTotal : Option ℤ
  outputTokensTotal : Option ℤ
  tokensTotal : Option ℤ
  tokensPerCompletedTask : Option ℚ
  executedActions : List (String × ℕ)
deriving DecidableEq, Repr

/-- Adding a missing value raises. -/
def addCounter (total : ℤ) : Option ℤ → Except ScriptError ℤ
  | none => .error .typeError
  | some value => .ok (total + value)

/-- `sum(...)` of a counter. -/
def sumCounters (values : List (Option ℤ)) : Except ScriptError ℤ := values.foldlM addCounter 0

/-- `sum(...) if usage else None`. -/
def counterTotal (counter : TokenUsage → Option ℤ) (usage : List TokenUsage) : Except ScriptError (Option ℤ) :=
  if usage.isEmpty then .ok none else (sumCounters (usage.map counter)).map some

/-- `total_tokens / completed if total_tokens and completed else None`. -/
def tokensPerCompletedTask (total : Option ℤ) (completed : ℕ) : Except ScriptError (Option ℚ) :=
  match total.filter (· ≠ 0) with
  | none => .ok none
  | some tokens => if completed = 0 then .ok none else (toFloat (tokens / completed)).map some

/-- `dict(sorted(Counter(values).items()))`. -/
def sortedCounts (values : List String) : List (String × ℕ) :=
  sortOn Prod.fst (values.dedup.map fun value => (value, values.count value))

/-- `decision_cost`. -/
def decisionCost (decisions : List DecisionRecord) (tasks : List TaskOutcome) : Except ScriptError DecisionCost := do
  let times := decisions.map (·.decisionTimeMs)
  let inference := decisions.filterMap (·.llmInferenceMs)
  let usage := decisions.filterMap (·.tokenUsage)
  let completed := tasks.countP (·.status = some .completed)
  let tokensTotal ← counterTotal (·.totalTokens) usage
  let timeMean ← fmean? times
  let timeP95 ← percentile times p95
  let inputTokensTotal ← counterTotal (·.inputTokens) usage
  let outputTokensTotal ← counterTotal (·.outputTokens) usage
  let perCompletedTask ← tokensPerCompletedTask tokensTotal completed
  return {
    decisionCount := decisions.length
    llmCallCount := inference.length
    decisionTimeTotalMs := times.sum
    decisionTimeMeanMs := timeMean
    decisionTimeP95Ms := timeP95
    llmInferenceTotalMs := if inference.isEmpty then none else some inference.sum
    llmCallsPerTask :=
      if tasks.isEmpty || inference.isEmpty then none else some (inference.length / tasks.length)
    inputTokensTotal := inputTokensTotal
    outputTokensTotal := outputTokensTotal
    tokensTotal := tokensTotal
    tokensPerCompletedTask := perCompletedTask
    executedActions := sortedCounts (decisions.map (·.executedDecision.action.value)) }

end OrchLab
