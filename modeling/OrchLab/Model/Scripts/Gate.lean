import OrchLab.Model.Scripts.Traceability
import Mathlib.Data.List.Dedup

/-! # The whole check of an execution

`check` of `scripts/pilot/check_traceability.py`: besides the trajectories, the states and the decisions it reads
the metadata of the execution, the lines of the logs and the events of the fault injector. A field that a line may
lack is `none`, as `dict.get` returns it.
-/

namespace OrchLab

/-- The fields of `execution_metadata.json` the check reads. -/
structure ExecutionMetadata where
  executionId : Option String
  phase : Option String
  eligibleForSample : Option Bool
deriving DecidableEq, Repr

/-- A line of `microservices_logs.jsonl`. -/
structure LogLine where
  executionId : Option String
deriving DecidableEq, Repr

/-- `FAULT_STARTED` and `FAULT_ENDED`, with the `fault_id` of the window. -/
inductive FaultEvent where
  | started (faultId : String)
  | ended (faultId : String)
  | applied
deriving DecidableEq, Repr

/-- The fault whose window the event opens or closes. -/
def FaultEvent.window? : FaultEvent → Option String
  | .started faultId | .ended faultId => some faultId
  | .applied => none

/-- A line of `fault_events.jsonl`. -/
structure FaultEventRecord where
  executionId : Option String
  event : FaultEvent
deriving DecidableEq, Repr

/-- What `check` reads in the directory of an execution. -/
structure ExecutionFiles extends Artifacts where
  metadata : Option ExecutionMetadata
  logs : List LogLine
  faults : List FaultEventRecord

/-- An error of the whole check. -/
inductive GateError where
  | metadataMissing
  | metadataForeign (found : Option String)
  | metadataPhase (phase : Option String) (eligible : Option Bool) (executionId : String)
  | trace (error : TraceError)
  | foreignLogs (lines : ℕ)
  | foreignFaults
  | windowNotClosed (faultId : String)
deriving DecidableEq, Repr

/-- `str` of a field that may be absent. -/
def strOr (text : Option String) : String := text.getD "None"

/-- `str` of a flag that may be absent. -/
def flagText : Option Bool → String
  | none => "None"
  | some true => "True"
  | some false => "False"

/-- The line of `result.errors`; `quoted` is the `repr` of a string. -/
def GateError.text (quoted : String → String) : GateError → String
  | .metadataMissing => "execution_metadata.json missing"
  | .metadataForeign found => "metadata execution_id is " ++ strOr (found.map quoted)
  | .metadataPhase phase eligible executionId => "metadata phase/eligibility " ++ strOr phase ++ "/" ++
      flagText eligible ++ " does not match " ++ executionId
  | .trace error => error.text
  | .foreignLogs lines => "microservices_logs: " ++ toString lines ++ " lines from another execution"
  | .foreignFaults => "fault_events: records from another execution"
  | .windowNotClosed faultId => "fault_events: window " ++ faultId ++ " not closed"

/-- `EXPECTED_PHASE` at the part of the identifier before its first `_`. -/
def expectedPhase? (executionId : String) : Option (String × Bool) :=
  match executionId.toList.takeWhile (· ≠ '_') with
  | ['P', 'I', 'L', 'O', 'T'] => some ("PILOT", false)
  | ['E', 'X', 'P'] => some ("EXPERIMENT", true)
  | _ => none

/-- `check_metadata`; an identifier of no phase is a `KeyError`. -/
def checkMetadata (metadata : Option ExecutionMetadata) (executionId : String) : Option (List GateError) :=
  match metadata with
  | none => some [.metadataMissing]
  | some metadata => (expectedPhase? executionId).map fun (phase, eligible) =>
    (if metadata.executionId ≠ some executionId then [.metadataForeign metadata.executionId] else []) ++
      if metadata.phase ≠ some phase ∨ metadata.eligibleForSample ≠ some eligible then
        [.metadataPhase metadata.phase metadata.eligibleForSample executionId]
      else []

/-- `check_logs`. -/
def checkLogs (logs : List LogLine) (executionId : String) : List GateError :=
  let foreign := logs.countP (·.executionId ≠ some executionId)
  if foreign ≠ 0 then [.foreignLogs foreign] else []

/-- `windows[(fault_id, event_type)]`. -/
def windowCount (faults : List FaultEventRecord) (event : FaultEvent) : ℕ := faults.countP (·.event = event)

/-- The faults with a window, each once; the code takes them in the order of a set. -/
def faultsWithWindow (faults : List FaultEventRecord) : List String :=
  (faults.filterMap (·.event.window?)).dedup

/-- `check_fault_events`. -/
def checkFaultEvents (faults : List FaultEventRecord) (executionId : String) : List GateError :=
  (if faults.any (·.executionId ≠ some executionId) then [.foreignFaults] else []) ++
    ((faultsWithWindow faults).filter fun faultId =>
      windowCount faults (.started faultId) ≠ windowCount faults (.ended faultId)).map .windowNotClosed

/-- `CheckResult`. -/
structure CheckResult where
  counts : List (String × ℕ)
  errors : List GateError
deriving DecidableEq, Repr

def CheckResult.ok (result : CheckResult) : Bool := result.errors.isEmpty

/-- `check` of the directory named by the execution. -/
def check (executionId : String) (files : ExecutionFiles) (requireMetadata : Bool) : Option CheckResult :=
  (if requireMetadata then checkMetadata files.metadata executionId else some []).map fun metadata =>
    { counts := [("task_events", files.events.length), ("states", files.states.length),
        ("decisions", files.decisions.length), ("microservices_logs", files.logs.length),
        ("fault_events", files.faults.length)]
      errors := metadata ++ (files.errors executionId).map .trace ++ checkLogs files.logs executionId ++
        checkFaultEvents files.faults executionId }

end OrchLab
