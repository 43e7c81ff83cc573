import OrchLab.Model.Orders.Recorders
import OrchLab.Model.Scripts.Gate
import OrchLab.Storage.Dict
import Mathlib.Algebra.Order.Group.Abs
import Mathlib.Algebra.Order.Ring.Rat

/-! # A batch of executions

`scripts/pilot/new_execution.py` and `scripts/experiment/run_experiment.py`. An execution is opened under the next
free identifier, and the bench decides what becomes of it: it may raise at any stage, fail a readiness check,
damage artifacts or pass. A batch runs its plan and repeats what is invalid. What the batch itself writes of an
opened execution, its metadata and its row of `invalid_runs.csv`, is taken to be written. Times, hashes and
versions, which the metadata records and nothing here reads, are left out.
-/

namespace OrchLab

/-! ## Identifiers -/

/-- The first digit of each block of decimal digits of Unicode 15. -/
def decimalZeros : List ℕ :=
  [0x30, 0x660, 0x6f0, 0x7c0, 0x966, 0x9e6, 0xa66, 0xae6, 0xb66, 0xbe6, 0xc66, 0xce6, 0xd66, 0xde6, 0xe50, 0xed0,
    0xf20, 0x1040, 0x1090, 0x17e0, 0x1810, 0x1946, 0x19d0, 0x1a80, 0x1a90, 0x1b50, 0x1bb0, 0x1c40, 0x1c50, 0xa620,
    0xa8d0, 0xa900, 0xa9d0, 0xa9f0, 0xaa50, 0xabf0, 0xff10, 0x104a0, 0x10d30, 0x11066, 0x110f0, 0x11136, 0x111d0,
    0x112f0, 0x11450, 0x114d0, 0x11650, 0x116c0, 0x11730, 0x118e0, 0x11950, 0x11c50, 0x11d50, 0x11da0, 0x11f50,
    0x16a60, 0x16ac0, 0x16b50, 0x1d7ce, 0x1d7d8, 0x1d7e2, 0x1d7ec, 0x1d7f6, 0x1e140, 0x1e2f0, 0x1e4f0, 0x1e950,
    0x1fbf0]

/-- The value of a character that `\d` matches. -/
def decimal? (c : Char) : Option ℕ :=
  (decimalZeros.find? fun first => first ≤ c.toNat ∧ c.toNat < first + 10).map fun first => c.toNat - first

/-- `_PILOT_ID` and its number; `$` also matches before a final line feed. -/
def pilotNumber? (name : String) : Option ℕ :=
  match name.toList with
  | 'P' :: 'I' :: 'L' :: 'O' :: 'T' :: '_' :: rest =>
    let digits := if rest.getLast? = some '\n' then rest.dropLast else rest
    if digits = [] then none
    else (digits.mapM decimal?).map fun values => values.foldl (fun number value => 10 * number + value) 0
  | _ => none

/-- `sequential_id(IdPrefix.PILOT_EXECUTION, number, EXECUTION_ID_WIDTH)`. -/
def pilotId (number : ℕ) : String :=
  let digits := toString number
  "PILOT_" ++ String.ofList (List.replicate (4 - digits.length) '0') ++ digits

/-- `next_pilot_id` over the names in `data/pilot`. -/
def nextPilotId (names : List String) : String := pilotId ((names.filterMap pilotNumber?).foldl max 0 + 1)

/-! ## The integrity of an execution -/

/-- What `validate` finds at the path of an artifact; `unreadable_artifacts` lists the unreadable ones. -/
inductive ArtifactState where
  | missing | unreadable | readable
deriving DecidableEq, Repr

/-- `REQUIRED_ARTIFACTS`. -/
def requiredArtifacts : List String :=
  ["execution_metadata.json", "experiment_config.yml", "initial_state.json", "reset.log", "task_events.jsonl",
    "states.jsonl", "decisions.jsonl", "microservices_logs.jsonl", "fault_events.jsonl", "workload.jsonl",
    "queue_metrics.csv", "container_stats.csv"]

/-- What steps 7 to 10 leave: the artifacts and the summary of the scenario. -/
structure ScenarioOutcome where
  artifact : String → ArtifactState
  settled : Bool
  traceabilityOk : Bool
  traceabilityErrors : List String
  httpErrors : ℕ
  wallClockS : ℚ
  durationS : ℚ

/-- A reason of `validate`. -/
inductive IntegrityReason where
  | missingArtifacts (names : List String)
  | corruptedArtifacts (names : List String)
  | notSettled
  | traceability (errors : List String)
  | failedRequests (count : ℕ)
  | hostSuspended (wallClockS durationS : ℚ)
deriving DecidableEq, Repr

/-- `SUSPENSION_TOLERANCE_S`. -/
def suspensionToleranceS : ℚ := 2

/-- `validate`. -/
def validate (outcome : ScenarioOutcome) : List IntegrityReason :=
  let missing := requiredArtifacts.filter fun name => outcome.artifact name = .missing
  let broken := requiredArtifacts.filter fun name => outcome.artifact name = .unreadable
  (if missing ≠ [] then [.missingArtifacts missing] else []) ++
    (if broken ≠ [] then [.corruptedArtifacts broken] else []) ++
    (if !outcome.settled then [.notSettled] else []) ++
    (if !outcome.traceabilityOk then [.traceability (outcome.traceabilityErrors.take 3)] else []) ++
    (if outcome.httpErrors ≠ 0 then [.failedRequests outcome.httpErrors] else []) ++
    if suspensionToleranceS < |outcome.wallClockS - outcome.durationS| then
      [.hostSuspended outcome.wallClockS outcome.durationS]
    else []

/-- `invalid_reason`. -/
inductive InvalidReason where
  | benchFailure (error message : String)
  | readinessFailed (failures : List String)
  | llmReadinessFailed (failures : List String)
  | integrity (reasons : List IntegrityReason)
deriving DecidableEq, Repr

/-- A list of strings as `str` prints it. -/
def listText (quoted : String → String) (names : List String) : String :=
  "[" ++ ", ".intercalate (names.map quoted) ++ "]"

/-- The text of a reason; `quoted` is the `repr` of a string and `shown` that of a number. -/
def IntegrityReason.text (quoted : String → String) (shown : ℚ → String) : IntegrityReason → String
  | .missingArtifacts names => "missing artifacts: " ++ listText quoted names
  | .corruptedArtifacts names => "corrupted artifacts: " ++ listText quoted names
  | .notSettled => "scenario did not settle (tasks not terminal or queues not drained)"
  | .traceability errors => "traceability: " ++ listText quoted errors
  | .failedRequests count =>
    toString count ++ " order requests failed at the API (bench failure, not a decision)"
  | .hostSuspended wallClockS durationS =>
    "host suspended: wall clock " ++ shown wallClockS ++ " s vs monotonic " ++ shown durationS ++ " s"

/-- The text of `invalid_reason`. -/
def InvalidReason.text (quoted : String → String) (shown : ℚ → String) : InvalidReason → String
  | .benchFailure error message =>
    "bench_failure: " ++ error ++ ": " ++ String.ofList (message.toList.take 300)
  | .readinessFailed failures => "readiness_failed: " ++ "; ".intercalate failures
  | .llmReadinessFailed failures => "readiness_failed: llm_readiness_failed: " ++ "; ".intercalate failures
  | .integrity reasons => "; ".intercalate (reasons.map (·.text quoted shown))

/-! ## One execution -/

/-- `run_status`. -/
inductive RunStatus where
  | valid | invalid
deriving DecidableEq, Repr

/-- A directory of `data/pilot` and what its `execution_metadata.json` says. -/
structure PilotExecution where
  executionId : String
  scenarioId : String
  decisionEngine : EngineName
  repetitionId : Option ℤ
  runStatus : Option RunStatus
  invalidReason : Option InvalidReason
deriving DecidableEq, Repr

/-- The fields of the metadata the gate reads. -/
def PilotExecution.metadata (execution : PilotExecution) : ExecutionMetadata where
  executionId := some execution.executionId
  phase := some "PILOT"
  eligibleForSample := some false

/-- A row of `invalid_runs.csv`. -/
structure InvalidRun where
  executionId : String
  scenarioId : String
  decisionEngine : EngineName
  repetitionId : Option ℤ
  invalidReason : Option InvalidReason
deriving DecidableEq, Repr

/-- What `record_invalid` writes of an execution. -/
def PilotExecution.invalidRun (execution : PilotExecution) : InvalidRun where
  executionId := execution.executionId
  scenarioId := execution.scenarioId
  decisionEngine := execution.decisionEngine
  repetitionId := execution.repetitionId
  invalidReason := execution.invalidReason

/-- `data/pilot`: the executions in the order they were opened, `invalid_runs.csv` and the other entries. -/
structure DataRoot where
  executions : List PilotExecution
  invalidRuns : Option (List InvalidRun)
  others : List String
deriving DecidableEq, Repr

/-- An error of code of the bench; `caught` tells whether it is an `InspectionError`, `OSError` or `ValueError`. -/
structure BenchError where
  error : String
  message : String
  caught : Bool

/-- How `open_execution` ends: refused before its directory is made, before its metadata is written, or done. -/
inductive Opening where
  | refused | unfinished | opened
deriving DecidableEq, Repr

/-- What the bench does in one call of `run_once`; a readiness check passes when it lists no failure. -/
structure BenchRun where
  opening : Opening
  environment : Except BenchError (List String)
  llm : Except BenchError (List String)
  versions : Option BenchError
  scenario : Except BenchError ScenarioOutcome
  consolidation : Option BenchError

namespace DataRoot

/-- The names in `data/pilot`. -/
def entries (root : DataRoot) : List String :=
  root.executions.map (·.executionId) ++ root.others ++
    if root.invalidRuns.isSome then ["invalid_runs.csv"] else []

/-- `_write_json` of the metadata, which is taken to succeed. -/
def write (root : DataRoot) (metadata : PilotExecution) : DataRoot :=
  { root with
    executions := root.executions.map fun execution =>
      if execution.executionId = metadata.executionId then metadata else execution }

/-- `record_invalid`, which is taken to succeed. -/
def recordInvalid (root : DataRoot) (metadata : PilotExecution) : DataRoot :=
  { root with invalidRuns := some (root.invalidRuns.getD [] ++ [metadata.invalidRun]) }

/-- `_mark_invalid`. -/
def markInvalid (root : DataRoot) (metadata : PilotExecution) (reason : InvalidReason) :
    DataRoot × Option PilotExecution :=
  let metadata := { metadata with runStatus := some .invalid, invalidReason := some reason }
  ((root.write metadata).recordInvalid metadata, some metadata)

end DataRoot

/-- An entry of the plan; the scenario is the name of its file. -/
structure PlannedRun where
  scenario : String
  engine : EngineName
  repetition : ℤ
deriving DecidableEq, Repr

/-- The readiness of the environment, then of the model. -/
def readiness (engine : EngineName) (bench : BenchRun) (failures : List String) :
    Except BenchError (Option InvalidReason) :=
  if failures ≠ [] then .ok (some (.readinessFailed failures))
  else if engine = .llm then
    bench.llm.map fun failures => if failures ≠ [] then some (.llmReadinessFailed failures) else none
  else .ok none

/-- Steps 7 to 12 of `run_once`. -/
def runScenario (root : DataRoot) (metadata : PilotExecution) (bench : BenchRun) :
    DataRoot × Option PilotExecution :=
  match bench.scenario with
  | .error _ => (root, none)
  | .ok outcome =>
    let reasons := validate outcome
    if reasons ≠ [] then root.markInvalid metadata (.integrity reasons)
    else
      let metadata := { metadata with runStatus := some .valid, invalidReason := none }
      (root.write metadata, if bench.consolidation.isSome then none else some metadata)

/-- `run_once`, with the metadata it returns unless an error escapes; `declared` is the `scenario_id` that the
file of a scenario declares. -/
def runOnce (declared : String → String) (root : DataRoot) (planned : PlannedRun) (bench : BenchRun) :
    DataRoot × Option PilotExecution :=
  let executionId := nextPilotId root.entries
  match bench.opening with
  | .refused => (root, none)
  | .unfinished => ({ root with others := root.others ++ [executionId] }, none)
  | .opened =>
    let metadata : PilotExecution :=
      ⟨executionId, declared planned.scenario, planned.engine, some planned.repetition, none, none⟩
    let root := { root with executions := root.executions ++ [metadata] }
    match bench.environment with
    | .error raised =>
      if raised.caught then root.markInvalid metadata (.benchFailure raised.error raised.message) else (root, none)
    | .ok failures =>
      match readiness planned.engine bench failures, bench.versions with
      | .error _, _ | _, some _ => (root, none)
      | .ok (some reason), none => root.markInvalid metadata reason
      | .ok none, none => runScenario root metadata bench

/-! ## The batch -/

/-- `schedule`: the engine that opens a repetition alternates. -/
def schedule (scenarios : List String) (engines : List EngineName) (repetitions first : ℤ) : List PlannedRun :=
  scenarios.flatMap fun scenario =>
    (List.range repetitions.toNat).flatMap fun i =>
      let repetition := first + (i : ℤ)
      let order := if repetition % 2 ≠ 0 then engines else engines.reverse
      order.map fun engine => ⟨scenario, engine, repetition⟩

/-- The state of `main`: the files, the metadata returned so far, and how often the bench has run. -/
structure Batch where
  root : DataRoot
  results : List PilotExecution
  calls : ℕ

/-- The attempts of a planned run; `false` when an error escapes. -/
def Batch.attempt (declared : String → String) (bench : ℕ → BenchRun) (planned : PlannedRun) :
    ℕ → Batch → Batch × Bool
  | 0, batch => (batch, true)
  | attempts + 1, batch =>
    match runOnce declared batch.root planned (bench batch.calls) with
    | (root, none) => (⟨root, batch.results, batch.calls + 1⟩, false)
    | (root, some metadata) =>
      let batch : Batch := ⟨root, batch.results ++ [metadata], batch.calls + 1⟩
      if metadata.runStatus = some .valid then (batch, true) else batch.attempt declared bench planned attempts

/-- The loop over the plan. -/
def Batch.run (declared : String → String) (bench : ℕ → BenchRun) (maxAttempts : ℕ) :
    List PlannedRun → Batch → Batch × Bool
  | [], batch => (batch, true)
  | planned :: rest, batch =>
    match batch.attempt declared bench planned maxAttempts with
    | (batch, false) => (batch, false)
    | (batch, true) => batch.run declared bench maxAttempts rest

/-- The key of `final`. -/
abbrev RunKey := String × EngineName × Option ℤ

def PilotExecution.key (execution : PilotExecution) : RunKey :=
  (execution.scenarioId, execution.decisionEngine, execution.repetitionId)

/-- The key of the results of a planned run. -/
def PlannedRun.key (declared : String → String) (planned : PlannedRun) : RunKey :=
  (declared planned.scenario, planned.engine, some planned.repetition)

/-- `final`: the status of the last result of each key. -/
def finalStatuses (results : List PilotExecution) : Dict RunKey (Option RunStatus) :=
  results.foldl (fun final execution => final.set execution.key execution.runStatus) ∅

/-- The exit code of `main` where no error escapes. -/
def exitCode (results : List PilotExecution) : ℕ :=
  if (finalStatuses results).rows.all fun entry => entry.2 = some .valid then 0 else 1

/-- The arguments of `main`. -/
structure BatchArguments where
  scenarios : List String
  engines : List EngineName
  repetitions : ℤ
  firstRepetition : ℤ
  maxAttempts : ℤ
deriving DecidableEq, Repr

/-- `main`: the files it leaves, what it has reported, and its exit code unless an error escapes. -/
def runExperiment (declared : String → String) (bench : ℕ → BenchRun) (root : DataRoot) (args : BatchArguments) :
    Batch × Option ℕ :=
  let plan := schedule args.scenarios args.engines args.repetitions args.firstRepetition
  let (batch, finished) := Batch.run declared bench args.maxAttempts.toNat plan ⟨root, [], 0⟩
  (batch, if finished then some (exitCode batch.results) else none)

end OrchLab
