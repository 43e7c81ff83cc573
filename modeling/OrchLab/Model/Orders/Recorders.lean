import OrchLab.Model.Orders.Service
import Mathlib.Data.Rat.Init

/-! # Recording states and decisions

`services/orders/app/observability/recorders.py`: the line of `states.jsonl` and of `decisions.jsonl` a
decision point leaves, and what the contract of a decision record checks when it is built and when it is
read again. Durations are exact numbers of milliseconds.

Recording is a layer over the orders-service: a snapshot is written when it is built, a decision after it was
resolved and before it is executed, each by the process that conducts the decision point to a file of its own.
-/

namespace OrchLab

/-- The record `StateRecorder.record` writes. -/
structure StateRecord where
  executionId : String
  taskId : TaskId
  stateId : StateId
  timestamp : Timestamp
  currentEventSeq : ℕ
  systemState : SystemState
  recentEvents : List RecentEvent
deriving DecidableEq, Repr

/-- `StateRecorder.record`: the snapshot with its envelope fields and its window. -/
def StateRecord.of (state : SystemState) : StateRecord where
  executionId := state.executionId
  taskId := state.taskId
  stateId := state.stateId
  timestamp := state.timestamp
  currentEventSeq := state.currentEventSeq
  systemState := state
  recentEvents := state.recentEvents

structure ValidationEntry where
  valid : Bool
  error : Option ValidationErrorCode
deriving DecidableEq, Repr

structure TokenUsage where
  inputTokens : Option ℤ
  outputTokens : Option ℤ
  totalTokens : Option ℤ
deriving DecidableEq, Repr

inductive EngineName where
  | rules | llm
deriving DecidableEq, Repr

structure DecisionRecord where
  executionId : String
  taskId : TaskId
  stateId : StateId
  decisionId : DecisionId
  decisionEngine : EngineName
  proposedDecision : Option ProposedDecision
  validation : ValidationEntry
  executedDecision : Decision
  decisionTimeMs : ℚ
  llmInferenceMs : Option ℚ
  tokenUsage : Option TokenUsage
  timestamp : Timestamp
deriving DecidableEq

/-- The constraints of `DecisionRecord`, with `_llm_fields_only_for_llm`. -/
def DecisionRecord.valid (record : DecisionRecord) : Bool :=
  isExecutionId record.executionId && decide (0 ≤ record.decisionTimeMs) &&
    record.llmInferenceMs.all (fun time => decide (0 ≤ time)) &&
    (record.decisionEngine = .llm || record.llmInferenceMs.isNone && record.tokenUsage.isNone)

/-- `JsonlWriter` can encode the line of the record: of its texts only those of the proposal may have no encoding. -/
def DecisionRecord.encodable (record : DecisionRecord) : Bool :=
  record.proposedDecision.all ProposedDecision.encodable

/-- What an engine's output and the timer add to a decision. -/
structure Measurement where
  engine : EngineName
  decisionTimeMs : ℚ
  llmInferenceMs : Option ℚ
  tokenUsage : Option TokenUsage
  timestamp : Timestamp
deriving DecidableEq

/-- The record `handle_decision_point` builds. -/
def DecisionRecord.of (validator : DecisionValidator) (state : SystemState) (output : EngineOutput)
    (decision : Decision) (decisionId : DecisionId) (measured : Measurement) : DecisionRecord :=
  let validation := validator.validate output.proposal state (output.failure = some llmDecisionTimeout)
  { executionId := state.executionId
    taskId := state.taskId
    stateId := state.stateId
    decisionId := decisionId
    decisionEngine := measured.engine
    proposedDecision := output.proposal
    validation := ⟨validation.valid, validation.error⟩
    executedDecision := decision
    decisionTimeMs := measured.decisionTimeMs
    llmInferenceMs := measured.llmInferenceMs
    tokenUsage := measured.tokenUsage
    timestamp := measured.timestamp }

/-! ## The files of each process -/

/-- The files `<artifact>.orders-api.jsonl` and `<artifact>.orders-worker.jsonl`. -/
structure Shards (α : Type) where
  api : List α
  worker : List α
deriving DecidableEq

namespace Shards

variable {α : Type}

def empty : Shards α := ⟨[], []⟩

/-- The files in the order of their names. -/
def files (shards : Shards α) : List (List α) := [shards.api, shards.worker]

/-- `JsonlWriter.write` of the process of the owner. -/
def write (shards : Shards α) (owner : DecisionOwner) (record : α) : Shards α :=
  match owner with
  | .worker => { shards with worker := shards.worker ++ [record] }
  | .api _ => { shards with api := shards.api ++ [record] }

/-- A record of some file. -/
instance : Membership α (Shards α) := ⟨fun shards record => record ∈ shards.files.flatten⟩

theorem mem_iff {shards : Shards α} {record : α} : record ∈ shards ↔ record ∈ shards.files.flatten := Iff.rfl

@[simp] theorem not_mem_empty (record : α) : record ∉ (empty : Shards α) := List.not_mem_nil

@[simp] theorem mem_write {shards : Shards α} {owner : DecisionOwner} {record new : α} :
    record ∈ shards.write owner new ↔ record ∈ shards ∨ record = new := by
  cases owner <;> simp [mem_iff, files, write, or_comm, or_left_comm]

/-- A new record with an identifier of its own keeps the identifiers distinct. -/
theorem nodup_write {β : Type} {shards : Shards α} {id : α → β} {new : α} (owner : DecisionOwner)
    (distinct : (shards.files.flatten.map id).Nodup) (fresh : ∀ record ∈ shards, id record ≠ id new) :
    ((shards.write owner new).files.flatten.map id).Nodup := by
  have written : (shards.write owner new).files.flatten.Perm (new :: shards.files.flatten) := by
    cases owner with
    | worker => simpa [files, write] using List.perm_append_singleton new (shards.api ++ shards.worker)
    | api task => simp [files, write]
  rw [(written.map id).nodup_iff, List.map_cons, List.nodup_cons, List.mem_map]
  exact ⟨fun ⟨record, member, same⟩ => fresh record member same, distinct⟩

instance [DecidableEq α] (shards : Shards α) (p : α → Prop) [DecidablePred p] :
    Decidable (∀ record ∈ shards, p record) :=
  inferInstanceAs (Decidable (∀ record ∈ shards.files.flatten, p record))

end Shards

/-! ## The recording service -/

structure RecordingService where
  service : OrdersService
  states : Shards StateRecord
  decisions : Shards DecisionRecord

/-- A label of the service with what is measured if it decides. -/
structure RecordingLabel where
  label : OrdersLabel
  measured : Measurement

namespace RecordingService

def initial : RecordingService := ⟨.initial, .empty, .empty⟩

/-- The decision point of an owner: its snapshot is recorded once it is built. -/
def build (s : RecordingService) (owner : DecisionOwner) (t : OrdersService) : RecordingService :=
  match t.points owner with
  | .built state => { s with service := t, states := s.states.write owner (.of state) }
  | _ => { s with service := t }

/-- A decision whose record meets its contract is recorded and executed; otherwise the decision point ends. -/
def decide (deployment : Deployment) (s : RecordingService) (owner : DecisionOwner) (state : SystemState)
    (output : EngineOutput) (decisionId : DecisionId) (draw : Draw) (measured : Measurement) : RecordingService :=
  match deployment.validator.decision? state output with
  | none => { s with service := s.service.setPoint owner .closed }
  | some decision =>
    let record := DecisionRecord.of deployment.validator state output decision decisionId measured
    if record.valid then
      { s with
        service := s.service.decide deployment owner state output decisionId draw
        decisions := s.decisions.write owner record }
    else { s with service := s.service.setPoint owner .closed }

def step (deployment : Deployment) (s : RecordingService) (l : RecordingLabel) : Option RecordingService :=
  match l.label with
  | .build owner seen => (s.service.step deployment (.build owner seen)).map (s.build owner)
  | .decide owner output decisionId draw =>
    match s.service.points owner with
    | .built state => some (s.decide deployment owner state output decisionId draw l.measured)
    | _ => none
  | label => (s.service.step deployment label).map fun t => { s with service := t }

/-- The environment of the service, with identifiers of states and decisions that no record carries. -/
def admissible (s : RecordingService) (l : RecordingLabel) : Prop :=
  s.service.admissible l.label ∧
    match l.label with
    | .build _ seen => ∀ record ∈ s.states, record.stateId ≠ seen.stateId
    | .decide _ _ decisionId _ => ∀ record ∈ s.decisions, record.decisionId ≠ decisionId
    | _ => True

instance (s : RecordingService) : ∀ l, Decidable (s.admissible l)
  | ⟨.build .., _⟩ | ⟨.decide .., _⟩ => inferInstanceAs (Decidable (_ ∧ ∀ record ∈ _, _))
  | ⟨.createOrder .., _⟩ | ⟨.consume .., _⟩ | ⟨.raise _, _⟩ | ⟨.deadLetter .., _⟩ =>
    inferInstanceAs (Decidable (_ ∧ True))

end RecordingService

/-- The orders-service of a deployment with its recorders. -/
def recordingMachine (deployment : Deployment) : Machine RecordingService RecordingLabel where
  initial := .initial
  step := RecordingService.step deployment
  admissible := RecordingService.admissible

instance (deployment : Deployment) (s : RecordingService) (l : RecordingLabel) :
    Decidable ((recordingMachine deployment).admissible s l) :=
  inferInstanceAs (Decidable (s.admissible l))

end OrchLab
