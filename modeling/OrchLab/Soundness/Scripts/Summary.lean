import OrchLab.Model.Scripts.Summary
import OrchLab.Soundness.Orders.Provenance
import OrchLab.Soundness.Scripts.Cost
import OrchLab.Soundness.Scripts.Gate
import OrchLab.Soundness.Scripts.LatencyColumns
import OrchLab.Soundness.Scripts.Outcomes
import OrchLab.Soundness.Scripts.Traceability
import OrchLab.Soundness.Shared.Artifacts
import OrchLab.ToMathlib.Counting
import OrchLab.ToMathlib.ResultRel

/-! # The tables agree with the database

The consolidation sees the database only through the exported events and the recorded decisions. In every reachable
state of the recorders its counts are those of the database all the same, every interruption it counts has its
decision or its dead letter, and nothing but an unreported counter of the runtime keeps it from its last table.
-/

namespace OrchLab

/-! ## Outcomes and rows -/

/-- The tasks of a status. -/
def OrdersDb.countStatus (db : OrdersDb) (status : TaskStatus) : ℕ := db.tasks.rows.countP (·.status = status)

section Rows

variable {deployment : Deployment} {s : OrdersService} (reachable : (ordersMachine deployment).Reachable s)
  (decisions : List DecisionRecord)
include reachable

end Rows

/-! ## Decisions that end a task -/

section Recorders

variable {deployment : Deployment} {s : RecordingService} (reachable : (recordingMachine deployment).Reachable s)
include reachable

end Recorders

/-! ## Counts -/

/-- The aborts of all reasons. -/
def ErrorMetrics.aborts (errors : ErrorMetrics) : ℕ := (errors.abortReasons.map Prod.snd).sum

/-- The row of a fault agrees with the errors of the execution. -/
structure BlastRadius.Fits (errors : ErrorMetrics) (radius : BlastRadius) : Prop where
  total : radius.tasksTotal = errors.tasks
  interrupted : radius.tasksInterrupted = errors.aborted + errors.deadLettered
  failed : errors.failedTasks ≤ radius.tasksAffected
  affected : radius.tasksAffected ≤ radius.tasksTotal
  letters : errors.deadLettered ≤ radius.messagesDeadLettered

/-- The samples of every component add up to floats. -/
def StatsInRange (stats : List ContainerRow) : Prop :=
  ∀ entry ∈ (byComponent stats).rows,
    (∀ start, start <+: entry.2.filterMap (·.cpuPercent) → |start.sum| < floatLimit) ∧
      ∀ start, start <+: entry.2.filterMap (·.memoryBytes) → |start.sum| < floatLimit

/-- What a service has recorded is reported, and it and the samples are in range. -/
structure Summarizable (s : RecordingService) (stats : List ContainerRow) : Prop where
  complete : UsageComplete s.decisions.files.flatten
  times : (s.decisions.files.flatten.map (·.decisionTimeMs)).sum < floatLimit
  tokens : |((((s.decisions.files.flatten.filterMap (·.tokenUsage)).filterMap (·.totalTokens)).sum : ℤ) : ℚ) /
    s.service.db.countStatus .completed| < floatLimit
  stats : StatsInRange stats

/-- The tables count the tasks of the database by their status and all recorded decisions; no task is aborted and no
proposal found invalid without an executed abort. Each fault with a start and an end has a row, and the last table is
there exactly if all usage is reported and no number too large. -/
structure Consolidated.Accounts (executionId : String) (s : RecordingService) (files : ConsolidationFiles)
    (tables : Consolidated) : Prop where
  tasks : tables.errorMetrics.tasks = s.service.db.tasks.rows.length
  completed : tables.throughputMetrics.completedTasks = s.service.db.countStatus .completed
  aborted : tables.errorMetrics.aborted = s.service.db.countStatus .aborted
  deadLettered : tables.errorMetrics.deadLettered = s.service.db.countStatus .deadLettered
  notTerminal : tables.errorMetrics.notTerminal = s.service.db.tasks.rows.countP (!·.status.terminal)
  failed : tables.errorMetrics.failedTasks + tables.throughputMetrics.completedTasks = tables.errorMetrics.tasks
  decisions : (tables.latencyMetrics.map (·.decisions)).sum = s.decisions.files.flatten.length
  reasons : ∀ reason count, (reason, count) ∈ tables.errorMetrics.abortReasons ↔ 0 < count ∧
    count = (abortDecisions s.decisions.files.flatten).countP (·.executedDecision.reasonCode = reason)
  timeouts : tables.errorMetrics.llmDecisionTimeouts ≤
    (abortDecisions s.decisions.files.flatten).countP (·.executedDecision.reasonCode = llmTimeoutAbort.reasonCode)
  invalid : tables.errorMetrics.llmDecisionTimeouts ≤ tables.errorMetrics.invalidDecisions ∧
    tables.errorMetrics.invalidDecisions ≤ tables.errorMetrics.aborts
  decided : tables.errorMetrics.aborted ≤ tables.errorMetrics.aborts
  faults : ∃ recoveries radii, tables.faultMetrics = .ok (recoveries, radii) ∧
    recoveries.map (·.faultId) = radii.map (·.faultId) ∧ (radii.map (·.faultId)).Nodup ∧
    (∀ faultId, faultId ∈ radii.map (·.faultId) ↔
      FaultEvent.started faultId ∈ files.faults.map (·.event) ∧
        FaultEvent.ended faultId ∈ files.faults.map (·.event)) ∧
    (checkFaultEvents (files.faults.map (·.toFaultEventRecord)) executionId = [] →
      ∀ faultId, FaultEvent.started faultId ∈ files.faults.map (·.event) → faultId ∈ radii.map (·.faultId)) ∧
    ∀ radius ∈ radii, radius.Fits tables.errorMetrics
  summarized : (∃ row, tables.metricsSummary = .ok row) ↔ Summarizable s files.stats
  copied : ∀ row, tables.metricsSummary = .ok row → row.errors = tables.errorMetrics ∧
    row.throughput = tables.throughputMetrics ∧
    row.cost.decisionCount = (tables.latencyMetrics.map (·.decisions)).sum

section Collected

variable {deployment : Deployment} {s : RecordingService} (reachable : (recordingMachine deployment).Reachable s)
include reachable

end Collected

section Reading

variable (toIso : Timestamp → String) (repr : ℚ → NumberText)

/-- The lines of everything a service has recorded. -/
def RecordingService.lines (s : RecordingService) : List JsonRecord :=
  (s.service.db.taskEvents.rows.map taskEventRecord).map (TaskEventRecord.line toIso) ++
    s.decisions.files.flatten.map (DecisionRecord.line toIso repr)

variable {toIso repr} {loads : List Char → Option Json}

end Reading

/-- The other files of an execution with one fault. -/
def ConsolidationFiles.pilot : ConsolidationFiles where
  identity := ⟨some "PILOT_0001", some "PILOT", some "intermittent_failure", some "LLM", some 1, some "VALID"⟩
  recoveryWindowTasks := 5
  events := []
  decisions := []
  faults := [⟨⟨some "PILOT_0001", .started "FAULT_INTERMITTENT_ERROR"⟩, "intermittent_error", 50, none⟩,
    ⟨⟨some "PILOT_0001", .ended "FAULT_INTERMITTENT_ERROR"⟩, "intermittent_error", 150, none⟩]
  logs := [⟨"orders-worker", "WARNING"⟩]
  workload := []
  queues := [⟨"inventory.primary", some 0, none⟩, ⟨"inventory.primary", some 7, some 2⟩]
  stats := [⟨0, "ollama-host", some 100, some 5000⟩, ⟨1000, "ollama-host", some 100, some 5000⟩]

end OrchLab
