import OrchLab.Model.Scripts.Lines
import OrchLab.Model.Scripts.Metrics
import OrchLab.Model.Scripts.Workload
import Mathlib.Data.PNat.Defs

/-! # The tables of an execution

`scripts/analysis/consolidate.py`: the rest of its metrics, and `consolidate_execution`, which computes the tables
from the files of an execution. As in the metrics before, numbers are exact and not yet rounded. A time difference
in milliseconds is an integer; an empty cell of a CSV file is `none`, any other a number. What is collected from the
services is read from its lines; the other files are taken as they were read.
-/

namespace OrchLab

/-! ## Latency, throughput, errors -/

/-- `total_seconds()` of a time difference. -/
def totalSeconds (difference : ℤ) : ℚ := difference / 1000

/-- `statistics.fmean` of time differences, if there are any; they are far from too large for a float. -/
def fmean (values : List ℚ) : Option ℚ := if values.isEmpty then none else some (values.sum / values.length)

/-- `statistics.median` of values, if there are any. -/
def median (values : List ℚ) : Option ℚ :=
  let ordered := sortOn id values
  let half := ordered.length / 2
  if ordered.length % 2 = 1 then ordered[half]?
  else (ordered[half - 1]?).bind fun lower => (ordered[half]?).map fun upper => (lower + upper) / 2

structure LatencySummary where
  latencyMeanMs : Option ℚ
  latencyMedianMs : Option ℚ
  latencyP95Ms : Option ℚ
  latencyMaxMs : Option ℚ
deriving DecidableEq, Repr

/-- `latency_summary`. -/
def latencySummary (tasks : List TaskOutcome) : Except ScriptError LatencySummary := do
  let completed ← (tasks.filter (·.status = some .completed)).mapM TaskOutcome.latency?
  let p95Ms ← percentile completed p95
  return ⟨fmean completed, median completed, p95Ms, completed.max?⟩

structure Throughput where
  completedTasks : ℕ
  windowS : Option ℚ
  throughputPerS : Option ℚ
deriving DecidableEq, Repr

/-- `throughput`. -/
def throughput (tasks : List TaskOutcome) : Throughput :=
  let finished := tasks.filter (·.finishedAt.isSome)
  match (tasks.map (·.createdAt)).min?, (finished.filterMap (·.finishedAt)).max? with
  | some start, some last =>
    let completed := finished.countP (·.status = some .completed)
    let window := totalSeconds (last - start)
    ⟨completed, some window, if 0 < window then some (completed / window) else none⟩
  | _, _ => ⟨0, none, none⟩

structure ErrorMetrics where
  tasks : ℕ
  failedTasks : ℕ
  errorRate : Option ℚ
  aborted : ℕ
  deadLettered : ℕ
  notTerminal : ℕ
  invalidDecisions : ℕ
  llmDecisionTimeouts : ℕ
  httpErrors : ℕ
  abortReasons : List (String × ℕ)
deriving DecidableEq, Repr

/-- The decisions whose executed action is `ABORT`. -/
def abortDecisions (decisions : List DecisionRecord) : List DecisionRecord :=
  decisions.filter (·.executedDecision.action = .abort)

/-- `errors`. -/
def errorMetrics (tasks : List TaskOutcome) (decisions : List DecisionRecord) (workload : List WorkloadRecord) :
    ErrorMetrics :=
  let failed := tasks.length - tasks.countP (·.status = some .completed)
  { tasks := tasks.length
    failedTasks := failed
    errorRate := if tasks.isEmpty then none else some (failed / tasks.length)
    aborted := tasks.countP (·.status = some .aborted)
    deadLettered := tasks.countP (·.status = some .deadLettered)
    notTerminal := tasks.countP (·.status = none)
    invalidDecisions := decisions.countP (!·.validation.valid)
    llmDecisionTimeouts := decisions.countP (·.validation.error = some .llmDecisionTimeout)
    httpErrors := workload.countP (·.httpStatus ≠ some 202)
    abortReasons := sortedCounts ((abortDecisions decisions).map (·.executedDecision.reasonCode)) }

/-! ## Faults -/

/-- A line of `fault_events.jsonl` with what the consolidation reads besides. -/
structure FaultLine extends FaultEventRecord where
  faultType : String
  timestamp : Timestamp
  taskId : Option TaskId
deriving DecidableEq, Repr

/-- A line of `microservices_logs.jsonl` with what the consolidation reads. -/
structure ServiceLogLine where
  service : String
  level : String
deriving DecidableEq, Repr

/-- A row of `queue_metrics.csv`. -/
structure QueueRow where
  queue : String
  messages : Option ℚ
  redeliveredTotal : Option ℚ
deriving DecidableEq, Repr

/-- A row of `blast_radius.csv`. -/
structure BlastRadius where
  faultId : String
  faultType : String
  tasksTotal : ℕ
  tasksAffected : ℕ
  tasksAffectedRatio : Option ℚ
  tasksDirectlyHit : ℕ
  tasksInterrupted : ℕ
  servicesWithWarnings : List String
  messagesRedelivered : ℤ
  messagesDeadLettered : ℕ
deriving DecidableEq, Repr

/-- `int(value)` drops the fraction. -/
def truncated (value : ℚ) : ℤ := if value < 0 then ⌈value⌉ else ⌊value⌋

/-- The counter of each queue at its highest. -/
def redeliveredTotal (queues : List QueueRow) : ℤ :=
  ((queues.map (·.queue)).dedup.map fun queue =>
    ((queues.filter (·.queue = queue)).filterMap (·.redeliveredTotal)).max?.elim 0 truncated).sum

/-- `t["decisions"] > 1 or t["status"] != "COMPLETED"`. -/
def TaskOutcome.affected (task : TaskOutcome) : Bool := 1 < task.decisions || task.status ≠ some .completed

/-- `t["status"] in {"ABORTED", "DEAD_LETTERED"}`. -/
def TaskOutcome.interrupted (task : TaskOutcome) : Bool :=
  task.status = some .aborted || task.status = some .deadLettered

/-- A row of `container_stats.csv`. -/
structure ContainerRow where
  timestamp : Timestamp
  component : String
  cpuPercent : Option ℚ
  memoryBytes : Option ℚ
deriving DecidableEq, Repr

structure ResourceUsage where
  cpuMeanPercent : Option ℚ
  cpuPeakPercent : Option ℚ
  cpuCoreSeconds : Option ℚ
  memoryMeanBytes : Option ℤ
  memoryPeakBytes : Option ℤ
deriving DecidableEq, Repr

/-- The area under the samples of the CPU, each held until the next one. -/
def coreSeconds (cpu : List ℚ) (times : List Timestamp) : ℚ :=
  (List.zipWith (fun value (span : Timestamp × Timestamp) => value / 100 * totalSeconds (span.2 - span.1)) cpu
    (times.zip times.tail)).sum

/-- The row of a component. -/
def ResourceUsage.of? (rows : List ContainerRow) : Except ScriptError ResourceUsage := do
  let cpu := rows.filterMap (·.cpuPercent)
  let memory := rows.filterMap (·.memoryBytes)
  let times := (rows.filter (·.cpuPercent.isSome)).map (·.timestamp)
  let cpuMean ← fmean? cpu
  let memoryMean ← fmean? memory
  return {
    cpuMeanPercent := cpuMean
    cpuPeakPercent := cpu.max?
    cpuCoreSeconds := if 1 < cpu.length then some (coreSeconds cpu times) else none
    memoryMeanBytes := memoryMean.map truncated
    memoryPeakBytes := memory.max?.map truncated }

/-- `by_component`. -/
def byComponent (stats : List ContainerRow) : Dict String (List ContainerRow) :=
  stats.foldl (fun rows row => rows.set row.component ((rows.get? row.component).getD [] ++ [row])) ∅

/-- `resource_usage`. -/
def resourceUsage (stats : List ContainerRow) : Except ScriptError (List (String × ResourceUsage)) :=
  (sortOn Prod.fst (byComponent stats).rows).mapM fun (component, rows) =>
    (ResourceUsage.of? rows).map fun usage => (component, usage)

/-- The body of the loop of `queue_summary`. -/
def raisePeak (peaks : Dict String ℤ) (row : QueueRow) : Dict String ℤ :=
  match row.messages with
  | none => peaks
  | some messages => peaks.set row.queue (max ((peaks.get? row.queue).getD 0) (truncated messages))

/-- `queue.replace('.', '_')` under its prefix. -/
def queuePeakColumn (queue : String) : String :=
  "queue_peak_" ++ String.ofList (queue.toList.map fun c => if c = '.' then '_' else c)

/-- `queue_summary`. -/
def queueSummary (queues : List QueueRow) : Dict String ℤ :=
  (sortOn Prod.fst (queues.foldl raisePeak ∅).rows).foldl
    (fun columns (queue, peak) => columns.set (queuePeakColumn queue) peak) ∅

/-! ## The execution -/

/-- `IDENTITY_FIELDS` of the metadata. -/
structure RunIdentity where
  executionId : Option String
  phase : Option String
  scenarioId : Option String
  decisionEngine : Option String
  repetitionId : Option ℤ
  runStatus : Option String
deriving DecidableEq, Repr

/-- What `consolidate_execution` has read; a file that is not there has no lines. -/
structure ConsolidationFiles where
  identity : RunIdentity
  recoveryWindowTasks : ℕ+
  events : List TaskEventRecord
  decisions : List DecisionRecord
  faults : List FaultLine
  logs : List ServiceLogLine
  workload : List WorkloadRecord
  queues : List QueueRow
  stats : List ContainerRow

/-- The row of `metrics_summary.csv`: its dictionaries become columns, and `abort_reasons` is left out. -/
structure SummaryRow where
  latency : LatencySummary
  throughput : Throughput
  errors : ErrorMetrics
  cost : DecisionCost
  queuePeaks : Dict String ℤ
  recoveryTimeMs : Option ℤ
  recovered : Option Bool
  tasksAffected : Option ℕ
  resources : List (String × ResourceUsage)

/-- What `consolidate_execution` has written when it returns or raises; every row begins with the identity. -/
structure Consolidated where
  identity : RunIdentity
  latencyMetrics : List TaskOutcome
  throughputMetrics : Throughput
  errorMetrics : ErrorMetrics
  faultMetrics : Except ScriptError (List RecoveryRow × List BlastRadius)
  metricsSummary : Except ScriptError SummaryRow

namespace ConsolidationFiles

variable (files : ConsolidationFiles)

/-- The row of the summary, once the tables of the faults are written. -/
def summary (tasks : List TaskOutcome)
    (recoveries : List RecoveryRow) (radii : List BlastRadius) : Except ScriptError SummaryRow := do
  let resources ← resourceUsage files.stats
  let latency ← latencySummary tasks
  let cost ← decisionCost files.decisions tasks
  return {
    latency
    throughput := throughput tasks
    errors := errorMetrics tasks files.decisions files.workload
    cost
    queuePeaks := queueSummary files.queues
    recoveryTimeMs := recoveries.head?.bind (·.recoveryTimeMs)
    recovered := recoveries.head?.bind (·.recovered)
    tasksAffected := radii.head?.map (·.tasksAffected)
    resources }

end ConsolidationFiles

end OrchLab
