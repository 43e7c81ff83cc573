import OrchLab.Model.Inventory.Deliveries
import OrchLab.Model.Scripts.Gate

/-! # The window of a fault

`FaultSection` of `shared/config.py` and `scripts/faults/injectors.py`. The injector of a scenario opens the window
of its fault and closes it, in a thread of its own beside the inventory-service. Each operation of the bench (the
waits, the control file, the containers, the record of an event) may raise, and `finally` closes the window all the
same.
Offsets are rational numbers; a clock reading comes with the step that takes it.
-/

namespace OrchLab

/-! ## The fault of a scenario -/

/-- `FaultType` of the configuration. -/
inductive ScenarioFault where
  | none | overload | intermittentError | timeout | inconsistentData | recovery
deriving DecidableEq, Repr

def ScenarioFault.value : ScenarioFault → String
  | .none => "none"
  | .overload => "overload"
  | .intermittentError => "intermittent_error"
  | .timeout => "timeout"
  | .inconsistentData => "inconsistent_data"
  | .recovery => "recovery"

inductive FaultTarget where
  | inventoryPrimary | inventoryService
deriving DecidableEq, Repr

def FaultTarget.value : FaultTarget → String
  | .inventoryPrimary => "inventory.primary"
  | .inventoryService => "inventory-service"

/-- A field of `FaultSection` besides its type. -/
inductive FaultField where
  | delayMs | durationSeconds | failureProbability | overloadRatePerSecond | seed | startAfterSeconds | target
deriving DecidableEq, Repr

namespace FaultField

def name : FaultField → String
  | .delayMs => "delay_ms"
  | .durationSeconds => "duration_seconds"
  | .failureProbability => "failure_probability"
  | .overloadRatePerSecond => "overload_rate_per_second"
  | .seed => "seed"
  | .startAfterSeconds => "start_after_seconds"
  | .target => "target"

/-- The fields in the order of their names. -/
def sorted : List FaultField :=
  [.delayMs, .durationSeconds, .failureProbability, .overloadRatePerSecond, .seed, .startAfterSeconds, .target]

end FaultField

/-- `FAULT_FIELDS`. -/
def faultFields : ScenarioFault → List FaultField
  | .none => []
  | .intermittentError => [.target, .startAfterSeconds, .durationSeconds, .failureProbability, .seed]
  | .timeout => [.target, .startAfterSeconds, .durationSeconds, .failureProbability, .delayMs, .seed]
  | .inconsistentData => [.startAfterSeconds, .durationSeconds, .failureProbability, .seed]
  | .overload => [.startAfterSeconds, .durationSeconds, .overloadRatePerSecond]
  | .recovery => [.target, .startAfterSeconds, .durationSeconds]

/-- `FAULT_TARGETS`. -/
def faultTarget? : ScenarioFault → Option FaultTarget
  | .intermittentError | .timeout => some .inventoryPrimary
  | .recovery => some .inventoryService
  | _ => none

/-- The fields of a `fault` section before its validators. -/
structure RawFaultSection where
  type : ScenarioFault
  target : Option FaultTarget
  startAfterSeconds : Option ℚ
  durationSeconds : Option ℚ
  failureProbability : Option ℚ
  delayMs : Option ℤ
  overloadRatePerSecond : Option ℚ
  seed : Option ℤ
deriving DecidableEq, Repr

inductive FaultSectionError where
  | outOfRange (fields : List FaultField)
  | wrongFields (type : ScenarioFault) (missing unexpected : List FaultField)
  | wrongTarget (type : ScenarioFault) (target : FaultTarget)
deriving DecidableEq, Repr

/-- The names of fields as `str` prints their list; none needs an escape. -/
def FaultField.listText (fields : List FaultField) : String :=
  "[" ++ ", ".intercalate (fields.map fun field => "'" ++ field.name ++ "'") ++ "]"

/-- The message of `_fields_match_the_type`; the library words the errors of single fields. -/
def FaultSectionError.text? : FaultSectionError → Option String
  | .outOfRange _ => none
  | .wrongFields type missing unexpected => some ("fault " ++ type.value ++ ": missing " ++
      FaultField.listText missing ++ ", unexpected " ++ FaultField.listText unexpected)
  | .wrongTarget type target => some ("fault " ++ type.value ++ " must target " ++ target.value)

namespace RawFaultSection

variable (raw : RawFaultSection)

/-- `getattr(self, name) is not None`. -/
def given : FaultField → Bool
  | .delayMs => raw.delayMs.isSome
  | .durationSeconds => raw.durationSeconds.isSome
  | .failureProbability => raw.failureProbability.isSome
  | .overloadRatePerSecond => raw.overloadRatePerSecond.isSome
  | .seed => raw.seed.isSome
  | .startAfterSeconds => raw.startAfterSeconds.isSome
  | .target => raw.target.isSome

/-- The `Field` constraint of a field that is given. -/
def inRange : FaultField → Bool
  | .delayMs => raw.delayMs.all fun delay => 0 < delay
  | .durationSeconds => raw.durationSeconds.all fun duration => 0 < duration
  | .failureProbability => raw.failureProbability.all fun probability => 0 ≤ probability ∧ probability ≤ 1
  | .overloadRatePerSecond => raw.overloadRatePerSecond.all fun rate => 0 < rate
  | .startAfterSeconds => raw.startAfterSeconds.all fun start => 0 ≤ start
  | .seed | .target => true

/-- The validators of `FaultSection`: the fields first, then `_fields_match_the_type`. -/
def error? : Option FaultSectionError :=
  let outside := FaultField.sorted.filter fun field => !raw.inRange field
  let missing := FaultField.sorted.filter fun field => field ∈ faultFields raw.type && !raw.given field
  let unexpected := FaultField.sorted.filter fun field => field ∉ faultFields raw.type && raw.given field
  if outside ≠ [] then some (.outOfRange outside)
  else if missing ≠ [] ∨ unexpected ≠ [] then some (.wrongFields raw.type missing unexpected)
  else match faultTarget? raw.type with
    | some target => if raw.target ≠ some target then some (.wrongTarget raw.type target) else none
    | none => none

/-- `_window_offsets`; a missing field is a `ValueError`. -/
def windowOffsets? : Option (ℚ × ℚ) :=
  match raw.startAfterSeconds, raw.durationSeconds with
  | some start, some duration => some (start, start + duration)
  | _, _ => none

/-- `fault_id`. -/
def faultId : String := "FAULT_" ++ raw.type.value.toUpper

/-- The type and the delay of a `FaultControl`, which its own validator checks. -/
def controlType? : Option FaultType :=
  match raw.type, raw.delayMs with
  | .intermittentError, none => some .intermittentError
  | .timeout, some delay => if positive : 0 < delay then some (.timeout delay.toNat (by omega)) else none
  | _, _ => none

/-- The `FaultControl` that `PrimaryRouteFault` writes; what is no fault of the primary route is a `ValueError`. -/
def control? : Option FaultControl :=
  match raw.target, raw.failureProbability, raw.seed with
  | some .inventoryPrimary, some probability, some seed =>
    raw.controlType?.bind fun type =>
      if probable : 0 ≤ probability ∧ probability ≤ 1 then some ⟨raw.faultId, type, probability, seed, probable⟩
      else none
  | _, _, _ => none

end RawFaultSection

/-- A section the configuration accepts. -/
structure FaultSection extends RawFaultSection where
  accepted : toRawFaultSection.error? = none

/-! ## Injectors -/

inductive Injector where
  | primaryRouteFault | inventoryOutage | workloadWindow
deriving DecidableEq, Repr

/-- `injector_for`. -/
def injectorFor : ScenarioFault → Option Injector
  | .none => none
  | .intermittentError | .timeout => some .primaryRouteFault
  | .recovery => some .inventoryOutage
  | .overload | .inconsistentData => some .workloadWindow

/-- A record of the injector in `fault_events`. -/
structure InjectorRecord where
  executionId : String
  event : FaultEvent
  faultType : ScenarioFault
  parameters : RawFaultSection
  scheduledOffsetS : ℚ
  actualOffsetS : ℚ
deriving DecidableEq, Repr

/-- `_record`: what the injector tells of its fault. -/
def RawFaultSection.recordAt (fault : RawFaultSection) (executionId : String) (event : FaultEvent)
    (scheduledOffsetS actualOffsetS : ℚ) : InjectorRecord :=
  ⟨executionId, event, fault.type, fault, scheduledOffsetS, actualOffsetS⟩

/-- What the gate reads of it. -/
def InjectorRecord.line (record : InjectorRecord) : FaultEventRecord := ⟨some record.executionId, record.event⟩

/-- Where `run_timeline` is: before its first wait, after it, and so on; `raised` tells whether an error waits behind
`finally`, or has ended the thread. -/
inductive TimelineStage where
  | waiting
  | due
  | applied
  | opened
  | closing (raised : Bool)
  | removed (raised : Bool)
  | finished (raised : Bool)
deriving DecidableEq, Repr

/-- The inventory-service and the injector beside it; `running` is the container of the inventory. -/
structure InjectionBench where
  inventory : InventoryService
  running : Bool
  stage : TimelineStage
  records : List InjectorRecord

inductive InjectionLabel where
  | inventory (label : InventoryLabel)
  | advance (fails effected : Bool) (clock : ℚ)

namespace InjectionBench

def initial (stock : List String) : InjectionBench := ⟨.initial stock, true, .waiting, []⟩

variable (s : InjectionBench)

/-- The container stops, and its processes with it. -/
def stopInventory : InjectionBench :=
  { s with inventory := { s.inventory with workers := fun _ => .idle }, running := false }

/-- `_apply`, and whether it raises; a container may have stopped although `compose` has failed. -/
def apply (fault : RawFaultSection) (injector : Injector) (fails effected : Bool) : InjectionBench × Bool :=
  match injector with
  | .primaryRouteFault =>
    match fault.control? with
    | none => (s, true)
    | some control =>
      if fails then (s, true) else ({ s with inventory := { s.inventory with fault := some control } }, false)
  | .inventoryOutage => (if fails && !effected then s else s.stopInventory, fails)
  | .workloadWindow => (s, false)

/-- `_remove`, and whether it raises. -/
def remove (injector : Injector) (fails effected : Bool) : InjectionBench × Bool :=
  match injector with
  | .primaryRouteFault =>
    if fails then (s, true) else ({ s with inventory := { s.inventory with fault := none } }, false)
  | .inventoryOutage => (if fails && !effected then s else { s with running := true }, fails)
  | .workloadWindow => (s, false)

/-- The record of an event whose offset has to be there, and whether it raises. -/
def record (executionId : String) (fault : RawFaultSection) (event : FaultEvent) (offset? : Option ℚ) (fails : Bool)
    (clock : ℚ) : InjectionBench × Bool :=
  match offset? with
  | none => (s, true)
  | some offset =>
    if fails then (s, true)
    else ({ s with records := s.records ++ [fault.recordAt executionId event offset clock] }, false)

/-- The next operation of `run_timeline`. -/
def advance (executionId : String) (fault : RawFaultSection) (injector : Injector) (fails effected : Bool) (clock : ℚ) :
    Option InjectionBench :=
  match s.stage with
  | .waiting => some { s with stage := if fault.windowOffsets?.isNone || fails then .finished true else .due }
  | .due =>
    let (s, raised) := s.apply fault injector fails effected
    some { s with stage := if raised then .closing true else .applied }
  | .applied =>
    let (s, raised) :=
      s.record executionId fault (.started fault.faultId) (fault.windowOffsets?.map Prod.fst) fails clock
    some { s with stage := if raised then .closing true else .opened }
  | .opened => some { s with stage := .closing fails }
  | .closing raised =>
    let (s, again) := s.remove injector fails effected
    some { s with stage := if again then .finished true else .removed raised }
  | .removed raised =>
    let (s, again) :=
      s.record executionId fault (.ended fault.faultId) (fault.windowOffsets?.map Prod.snd) fails clock
    some { s with stage := .finished (raised || again) }
  | .finished _ => none

/-- What a process of the inventory can do; only the injector writes the control file. -/
def enabled : InventoryLabel → Bool
  | .writeControl _ | .clearControl => false
  | .take .. | .process .. | .publish _ => s.running
  | .stop _ => true

/-- The lines of `fault_events` the two writers leave. -/
def faultEvents (executionId : String) : List FaultEventRecord :=
  s.records.map InjectorRecord.line ++ s.inventory.faultEvents.map fun _ => ⟨some executionId, .applied⟩

def step (sampled : Sampling) (executionId : String) (fault : RawFaultSection) (injector : Injector) :
    InjectionLabel → Option InjectionBench
  | .inventory label =>
    if s.enabled label then (s.inventory.step sampled label).map fun inventory => { s with inventory } else none
  | .advance fails effected clock => s.advance executionId fault injector fails effected clock

end InjectionBench

/-- The inventory-service of an execution, with the injector of its scenario. -/
def injectionMachine (sampled : Sampling) (stock : List String) (executionId : String) (fault : RawFaultSection)
    (injector : Injector) : Machine InjectionBench InjectionLabel where
  initial := .initial stock
  step s := s.step sampled executionId fault injector
  admissible _ _ := True

instance (sampled : Sampling) (stock : List String) (executionId : String) (fault : RawFaultSection)
    (injector : Injector) (s : InjectionBench) (label : InjectionLabel) :
    Decidable ((injectionMachine sampled stock executionId fault injector).admissible s label) :=
  inferInstanceAs (Decidable True)

/-! ## The shortest window -/

/-- `config/scenarios/intermittent_failure.yml`. -/
def FaultSection.intermittentFailure : FaultSection where
  type := .intermittentError
  target := some .inventoryPrimary
  startAfterSeconds := some 20
  durationSeconds := some 60
  failureProbability := some (1 / 2)
  delayMs := none
  overloadRatePerSecond := none
  seed := some 2048
  accepted := by decide +kernel

/-- The window opens, a request fails in it, and the window closes. -/
def failureInWindow : List InjectionLabel :=
  [.advance false false 0, .advance false false 20, .advance false false 20,
    .inventory (.take .inventoryPrimary (requestFor 10 .inventoryPrimary).modelDump), .advance false false 80,
    .advance false false 80, .advance false false 80]

end OrchLab
