import OrchLab.Model.Scripts.Injectors
import OrchLab.Soundness.Inventory.Samples
import OrchLab.Soundness.Scripts.Gate

/-! # The window of a fault is contained

A section the configuration accepts never trips the checks of the injectors. Whatever the processes of the
inventory do meanwhile and whichever operation raises, a fault is active only between the two ends of its window,
a timeline that ends without an error has removed it, and the gate rejects the execution of one that has recorded
only one end.
-/

namespace OrchLab

/-! ## Accepted sections -/

private theorem FaultField.mem_sorted (field : FaultField) : field ∈ FaultField.sorted := by cases field <;> decide

private theorem filter_sorted_eq_nil_iff {p : FaultField → Bool} :
    FaultField.sorted.filter p = [] ↔ ∀ field, p field = false := by
  rw [List.filter_eq_nil_iff]
  exact ⟨fun none field => by simpa using none field field.mem_sorted, fun none field _ => by simp [none field]⟩

/-- A section is accepted exactly where its fields are those of its type, in their ranges and with its target. -/
theorem RawFaultSection.error?_eq_none_iff (raw : RawFaultSection) : raw.error? = none ↔
    (∀ field, raw.inRange field = true) ∧ (∀ field, raw.given field = true ↔ field ∈ faultFields raw.type) ∧
      ∀ target, faultTarget? raw.type = some target → raw.target = some target := by
  have fields : (∀ field, (decide (field ∈ faultFields raw.type) && !raw.given field) = false) ∧
      (∀ field, (decide (field ∉ faultFields raw.type) && raw.given field) = false) ↔
        ∀ field, raw.given field = true ↔ field ∈ faultFields raw.type := by
    rw [← forall_and]
    refine forall_congr' fun field => ?_
    by_cases required : field ∈ faultFields raw.type <;> cases raw.given field <;> simp [required]
  have ranges : FaultField.sorted.filter (fun field => !raw.inRange field) = [] ↔
      ∀ field, raw.inRange field = true := by
    rw [filter_sorted_eq_nil_iff]
    exact forall_congr' fun field => by rw [Bool.not_eq_false']
  rw [error?]
  split_ifs with outside wrong
  · exact ⟨fun accepted => accepted.elim, fun all => absurd (ranges.mpr all.1) outside⟩
  · refine ⟨fun accepted => accepted.elim, fun all => ?_⟩
    obtain ⟨missing, unexpected⟩ := fields.mpr all.2.1
    rcases wrong with some | some
    · exact absurd (filter_sorted_eq_nil_iff.mpr missing) some
    · exact absurd (filter_sorted_eq_nil_iff.mpr unexpected) some
  · rw [not_or, not_not, not_not] at wrong
    have given := fields.mp ⟨filter_sorted_eq_nil_iff.mp wrong.1, filter_sorted_eq_nil_iff.mp wrong.2⟩
    cases faultTarget? raw.type with
    | none => exact ⟨fun _ => ⟨ranges.mp (not_not.mp outside), given, by simp⟩, fun _ => rfl⟩
    | some target =>
      rw [ite_eq_right_iff, imp_iff_not (Option.some_ne_none _), not_not]
      refine ⟨fun own => ⟨ranges.mp (not_not.mp outside), given, ?_⟩, fun all => all.2.2 target rfl⟩
      rintro _ ⟨⟩
      exact own

namespace FaultSection

variable (fault : FaultSection)

theorem given_iff (field : FaultField) : fault.given field = true ↔ field ∈ faultFields fault.type :=
  (fault.error?_eq_none_iff.mp fault.accepted).2.1 field

theorem inRange (field : FaultField) : fault.toRawFaultSection.inRange field = true :=
  (fault.error?_eq_none_iff.mp fault.accepted).1 field

theorem target_eq {target : FaultTarget} (own : faultTarget? fault.type = some target) : fault.target = some target :=
  (fault.error?_eq_none_iff.mp fault.accepted).2.2 target own

/-- An injected fault has a window. -/
theorem exists_windowOffsets {injector : Injector} (injected : injectorFor fault.type = some injector) :
    ∃ start duration, fault.startAfterSeconds = some start ∧ fault.durationSeconds = some duration ∧ 0 ≤ start ∧
      0 < duration ∧ fault.windowOffsets? = some (start, start + duration) := by
  have required : FaultField.startAfterSeconds ∈ faultFields fault.type ∧
      FaultField.durationSeconds ∈ faultFields fault.type := by
    revert injected
    cases fault.type <;> simp [injectorFor, faultFields]
  obtain ⟨start, starts⟩ := Option.isSome_iff_exists.mp ((fault.given_iff .startAfterSeconds).mpr required.1)
  obtain ⟨duration, lasts⟩ := Option.isSome_iff_exists.mp ((fault.given_iff .durationSeconds).mpr required.2)
  have early := fault.inRange .startAfterSeconds
  have positive := fault.inRange .durationSeconds
  rw [RawFaultSection.inRange, starts, Option.all_some, decide_eq_true_eq] at early
  rw [RawFaultSection.inRange, lasts, Option.all_some, decide_eq_true_eq] at positive
  exact ⟨start, duration, starts, lasts, early, positive, by rw [RawFaultSection.windowOffsets?, starts, lasts]⟩

/-- The type of a fault of the primary route comes with the delay it needs. -/
private theorem exists_controlType (injected : injectorFor fault.type = some .primaryRouteFault) :
    ∃ type, fault.controlType? = some type := by
  have delayed := fault.given_iff .delayMs
  rw [RawFaultSection.given] at delayed
  cases type : fault.type with
  | intermittentError =>
    have undelayed : fault.delayMs = none := by simpa [type, faultFields] using delayed
    exact ⟨_, by rw [RawFaultSection.controlType?, type, undelayed]⟩
  | timeout =>
    obtain ⟨delay, given⟩ := Option.isSome_iff_exists.mp (delayed.mpr (by simp [type, faultFields]))
    have positive := fault.inRange .delayMs
    rw [RawFaultSection.inRange, given, Option.all_some, decide_eq_true_eq] at positive
    simp only [RawFaultSection.controlType?, type, given, dif_pos positive, Option.some_inj, exists_eq']
  | none | overload | inconsistentData | recovery => simp [type, injectorFor] at injected

/-- The control of a fault of the primary route is built. -/
theorem exists_control (injected : injectorFor fault.type = some .primaryRouteFault) :
    ∃ control, fault.control? = some control := by
  have required : FaultField.failureProbability ∈ faultFields fault.type ∧ FaultField.seed ∈ faultFields fault.type ∧
      faultTarget? fault.type = some .inventoryPrimary := by
    revert injected
    cases fault.type <;> simp [injectorFor, faultFields, faultTarget?]
  obtain ⟨probability, given⟩ := Option.isSome_iff_exists.mp ((fault.given_iff .failureProbability).mpr required.1)
  obtain ⟨seed, seeded⟩ := Option.isSome_iff_exists.mp ((fault.given_iff .seed).mpr required.2.1)
  obtain ⟨type, typed⟩ := fault.exists_controlType injected
  have probable := fault.inRange .failureProbability
  rw [RawFaultSection.inRange, given, Option.all_some, decide_eq_true_eq] at probable
  rw [RawFaultSection.control?, fault.target_eq required.2.2, given, seeded]
  simp only [typed, Option.bind_some, dif_pos probable, Option.some_inj, exists_eq']

end FaultSection

/-! ## The stages -/

/-- The timeline has an error behind it. -/
def TimelineStage.raised : TimelineStage → Bool
  | .waiting | .due | .applied | .opened => false
  | .closing raised | .removed raised | .finished raised => raised

/-- The window has not been opened. -/
def TimelineStage.early : TimelineStage → Bool
  | .waiting | .due => true
  | _ => false

namespace InjectionBench

variable {executionId : String} {fault : FaultSection} {injector : Injector} {s t : InjectionBench}

/-- Nothing is injected. -/
structure Clear (s : InjectionBench) : Prop where
  control : s.inventory.fault = none
  running : s.running = true

/-- The fault is injected. -/
structure Injected (fault : FaultSection) (injector : Injector) (s : InjectionBench) : Prop where
  control : s.inventory.fault = if injector = .primaryRouteFault then fault.control? else none
  running : s.running = decide (injector ≠ .inventoryOutage)

/-- An operation has failed: what is injected, if anything, is the fault. -/
structure Unsure (fault : FaultSection) (injector : Injector) (s : InjectionBench) : Prop where
  control : s.inventory.fault = none ∨ injector = .primaryRouteFault ∧ s.inventory.fault = fault.control?
  running : s.running = true ∨ injector = .inventoryOutage

theorem Clear.unsure (clear : s.Clear) : s.Unsure fault injector := ⟨.inl clear.control, .inl clear.running⟩

theorem Injected.unsure (injected : s.Injected fault injector) : s.Unsure fault injector where
  control := by
    rw [injected.control]
    split_ifs with primary
    · exact .inr ⟨primary, rfl⟩
    · exact .inl rfl
  running := by
    rw [injected.running, decide_eq_true_eq]
    exact (Decidable.em (injector = .inventoryOutage)).symm

/-- The first record of a window. -/
def startedRecord (executionId : String) (fault : FaultSection) (start clock : ℚ) : InjectorRecord :=
  fault.recordAt executionId (.started fault.faultId) start clock

/-- The last record of a window. -/
def endedRecord (executionId : String) (fault : FaultSection) (finish clock : ℚ) : InjectorRecord :=
  fault.recordAt executionId (.ended fault.faultId) finish clock

/-- The end of the window is not recorded, and its start may not be either. -/
def Begun (executionId : String) (fault : FaultSection) (start : ℚ) (s : InjectionBench) : Prop :=
  s.records = [] ∨ ∃ clock, s.records = [startedRecord executionId fault start clock]

/-- Both ends of the window are recorded. -/
def Ended (executionId : String) (fault : FaultSection) (start finish : ℚ) (s : InjectionBench) : Prop :=
  ∃ startClock finishClock, s.records =
    [startedRecord executionId fault start startClock, endedRecord executionId fault finish finishClock]

theorem Begun.congr {start : ℚ} (begun : s.Begun executionId fault start) (records : t.records = s.records) :
    t.Begun executionId fault start := by
  rw [Begun, records]
  exact begun

/-- What is injected and recorded at each stage of the timeline. -/
inductive Windowed (executionId : String) (fault : FaultSection) (injector : Injector) (start finish : ℚ)
    (s : InjectionBench) : TimelineStage → Prop
  | waiting (clear : s.Clear) (records : s.records = []) : Windowed executionId fault injector start finish s .waiting
  | due (clear : s.Clear) (records : s.records = []) : Windowed executionId fault injector start finish s .due
  | applied (injected : s.Injected fault injector) (records : s.records = []) :
      Windowed executionId fault injector start finish s .applied
  | opened (injected : s.Injected fault injector) (clock : ℚ)
      (records : s.records = [startedRecord executionId fault start clock]) :
      Windowed executionId fault injector start finish s .opened
  | closing (injected : s.Injected fault injector) (clock : ℚ)
      (records : s.records = [startedRecord executionId fault start clock]) :
      Windowed executionId fault injector start finish s (.closing false)
  | failing (unsure : s.Unsure fault injector) (begun : s.Begun executionId fault start) :
      Windowed executionId fault injector start finish s (.closing true)
  | removed (clear : s.Clear) (clock : ℚ) (records : s.records = [startedRecord executionId fault start clock]) :
      Windowed executionId fault injector start finish s (.removed false)
  | recovered (clear : s.Clear) (begun : s.Begun executionId fault start) :
      Windowed executionId fault injector start finish s (.removed true)
  | finished (clear : s.Clear) (ended : s.Ended executionId fault start finish) :
      Windowed executionId fault injector start finish s (.finished false)
  | failed (unsure : s.Unsure fault injector) (records : s.Begun executionId fault start ∨
        (∃ clock, s.records = [endedRecord executionId fault finish clock]) ∨
          s.Ended executionId fault start finish) :
      Windowed executionId fault injector start finish s (.finished true)

/-- The stage of a state is told by what it injects and records alone. -/
theorem Windowed.congr {start finish : ℚ} {stage : TimelineStage}
    (windowed : Windowed executionId fault injector start finish s stage)
    (control : t.inventory.fault = s.inventory.fault) (running : t.running = s.running)
    (records : t.records = s.records) : Windowed executionId fault injector start finish t stage := by
  have clear : s.Clear → t.Clear := fun clear => ⟨control.trans clear.control, running.trans clear.running⟩
  have injected : s.Injected fault injector → t.Injected fault injector :=
    fun injected => ⟨control.trans injected.control, running.trans injected.running⟩
  have unsure : s.Unsure fault injector → t.Unsure fault injector :=
    fun unsure => ⟨by rw [control]; exact unsure.control, by rw [running]; exact unsure.running⟩
  have begun : s.Begun executionId fault start → t.Begun executionId fault start := fun begun => begun.congr records
  have ended : s.Ended executionId fault start finish → t.Ended executionId fault start finish := by
    rw [Ended, Ended, records]
    exact id
  cases windowed with
  | waiting before none => exact .waiting (clear before) (records.trans none)
  | due before none => exact .due (clear before) (records.trans none)
  | applied before none => exact .applied (injected before) (records.trans none)
  | opened before clock one => exact .opened (injected before) clock (records.trans one)
  | closing before clock one => exact .closing (injected before) clock (records.trans one)
  | failing before some => exact .failing (unsure before) (begun some)
  | removed before clock one => exact .removed (clear before) clock (records.trans one)
  | recovered before some => exact .recovered (clear before) (begun some)
  | finished before both => exact .finished (clear before) (ended both)
  | failed before some => exact .failed (unsure before) (some.imp begun (Or.imp (by rw [records]; exact id) ended))

/-! ## The operations -/

variable {fails effected : Bool} {clock : ℚ} {raised : Bool}

/-- `_apply` injects the fault or raises, and only where an operation fails. -/
private theorem apply_spec (scenario : injectorFor fault.type = some injector) (clear : s.Clear)
    (applies : s.apply fault.toRawFaultSection injector fails effected = (t, raised)) :
    t.records = s.records ∧ (raised = false → t.Injected fault injector) ∧
      (raised = true → t.Unsure fault injector ∧ fails = true) := by
  cases injector with
  | primaryRouteFault =>
    obtain ⟨control, built⟩ := fault.exists_control scenario
    rw [apply, built] at applies
    dsimp only at applies
    split_ifs at applies with failing
    · cases applies
      exact ⟨rfl, by simp, fun _ => ⟨clear.unsure, failing⟩⟩
    · cases applies
      exact ⟨rfl, fun _ => ⟨built.symm, clear.running⟩, by simp⟩
  | inventoryOutage =>
    cases applies
    refine ⟨by split_ifs <;> rfl, fun worked => ?_, fun failing => ⟨?_, failing⟩⟩
    · rw [worked, Bool.false_and, if_neg Bool.false_ne_true]
      exact ⟨clear.control, rfl⟩
    · split_ifs
      · exact clear.unsure
      · exact ⟨.inl clear.control, .inr rfl⟩
  | workloadWindow =>
    cases applies
    exact ⟨rfl, fun _ => ⟨clear.control, clear.running⟩, by simp⟩

/-- `_remove` clears what was injected or raises, and only where an operation fails. -/
private theorem remove_spec (unsure : s.Unsure fault injector)
    (removes : s.remove injector fails effected = (t, raised)) :
    t.records = s.records ∧ (raised = false → t.Clear) ∧ (raised = true → t.Unsure fault injector ∧ fails = true) := by
  cases injector with
  | primaryRouteFault =>
    rw [remove] at removes
    split_ifs at removes with failing
    · cases removes
      exact ⟨rfl, by simp, fun _ => ⟨unsure, failing⟩⟩
    · cases removes
      exact ⟨rfl, fun _ => ⟨rfl, unsure.running.resolve_right (by simp)⟩, by simp⟩
  | inventoryOutage =>
    have free : s.inventory.fault = none := unsure.control.resolve_right (by simp)
    cases removes
    refine ⟨by split_ifs <;> rfl, fun worked => ?_, fun failing => ⟨?_, failing⟩⟩
    · rw [worked, Bool.false_and, if_neg Bool.false_ne_true]
      exact ⟨free, rfl⟩
    · split_ifs
      · exact unsure
      · exact ⟨.inl free, .inr rfl⟩
  | workloadWindow =>
    cases removes
    exact ⟨rfl, fun _ => ⟨unsure.control.resolve_right (by simp), unsure.running.resolve_right (by simp)⟩, by simp⟩

/-- A record is written, or its writer raises. -/
private theorem record_spec {event : FaultEvent} {offset : ℚ}
    (records : s.record executionId fault.toRawFaultSection event (some offset) fails clock = (t, raised)) :
    t.inventory = s.inventory ∧ t.running = s.running ∧
      (raised = false → t.records = s.records ++ [fault.recordAt executionId event offset clock]) ∧
      (raised = true → t.records = s.records ∧ fails = true) := by
  rw [record] at records
  split_ifs at records with failing
  · cases records
    exact ⟨rfl, rfl, by simp, fun _ => ⟨rfl, failing⟩⟩
  · cases records
    exact ⟨rfl, rfl, fun _ => rfl, by simp⟩

/-- One operation of the timeline: each stage leads to the next, and an error only comes from an operation that
fails. -/
theorem Windowed.advance {start finish : ℚ} (scenario : injectorFor fault.type = some injector)
    (offsets : fault.windowOffsets? = some (start, finish))
    (windowed : Windowed executionId fault injector start finish s s.stage)
    (step : s.advance executionId fault.toRawFaultSection injector fails effected clock = some t) :
    Windowed executionId fault injector start finish t t.stage ∧
      (fails = false → s.stage.raised = false → t.stage.raised = false) := by
  cases stage : s.stage with
  | waiting =>
    rw [stage] at windowed
    cases windowed with | waiting clear none =>
    simp only [InjectionBench.advance, stage, offsets, Option.isNone_some, Bool.false_or, Option.some_inj] at step
    subst step
    cases fails with
    | false => exact ⟨(Windowed.due clear none).congr rfl rfl rfl, fun _ _ => rfl⟩
    | true => exact ⟨(Windowed.failed clear.unsure (.inl (.inl none))).congr rfl rfl rfl, by simp⟩
  | due =>
    rw [stage] at windowed
    cases windowed with | due clear none =>
    simp only [InjectionBench.advance, stage] at step
    generalize applies : s.apply fault.toRawFaultSection injector fails effected = outcome at step
    obtain ⟨middle, raised⟩ := outcome
    obtain rfl := Option.some.inj step
    obtain ⟨records, injected, failing⟩ := apply_spec scenario clear applies
    cases raised with
    | false => exact ⟨(Windowed.applied (injected rfl) (records.trans none)).congr rfl rfl rfl, fun _ _ => rfl⟩
    | true =>
      obtain ⟨unsure, fails⟩ := failing rfl
      exact ⟨(Windowed.failing unsure (.inl (records.trans none))).congr rfl rfl rfl, by simp [fails]⟩
  | applied =>
    rw [stage] at windowed
    cases windowed with | applied injected none =>
    simp only [InjectionBench.advance, stage, offsets, Option.map_some] at step
    generalize recorded :
      s.record executionId fault.toRawFaultSection (.started fault.faultId) (some start) fails clock = outcome at step
    obtain ⟨middle, raised⟩ := outcome
    obtain rfl := Option.some.inj step
    obtain ⟨inventory, running, writes, failing⟩ := record_spec recorded
    have control := congrArg InventoryService.fault inventory
    have kept : middle.Injected fault injector := ⟨control.trans injected.control, running.trans injected.running⟩
    cases raised with
    | false =>
      refine ⟨(Windowed.opened kept clock ?_).congr rfl rfl rfl, fun _ _ => rfl⟩
      rw [writes rfl, none, List.nil_append, startedRecord]
    | true =>
      obtain ⟨records, fails⟩ := failing rfl
      exact ⟨(Windowed.failing kept.unsure (.inl (records.trans none))).congr rfl rfl rfl, by simp [fails]⟩
  | opened =>
    rw [stage] at windowed
    cases windowed with | opened injected clock one =>
    simp only [InjectionBench.advance, stage, Option.some_inj] at step
    subst step
    cases fails with
    | false => exact ⟨(Windowed.closing injected clock one).congr rfl rfl rfl, fun _ _ => rfl⟩
    | true => exact ⟨(Windowed.failing injected.unsure (.inr ⟨clock, one⟩)).congr rfl rfl rfl, by simp⟩
  | closing early =>
    rw [stage] at windowed
    have unsure : s.Unsure fault injector := by
      cases windowed with
      | closing injected => exact injected.unsure
      | failing unsure => exact unsure
    simp only [InjectionBench.advance, stage] at step
    generalize removes : s.remove injector fails effected = outcome at step
    obtain ⟨middle, raised⟩ := outcome
    obtain rfl := Option.some.inj step
    obtain ⟨records, clear, failing⟩ := remove_spec unsure removes
    cases raised with
    | false =>
      refine ⟨?_, fun _ own => own⟩
      cases windowed with
      | closing injected clock one => exact (Windowed.removed (clear rfl) clock (records.trans one)).congr rfl rfl rfl
      | failing _ begun => exact (Windowed.recovered (clear rfl) (begun.congr records)).congr rfl rfl rfl
    | true =>
      obtain ⟨left, fails⟩ := failing rfl
      refine ⟨(Windowed.failed left (.inl ?_)).congr rfl rfl rfl, by simp [fails]⟩
      cases windowed with
      | closing injected clock one => exact .inr ⟨clock, records.trans one⟩
      | failing _ begun => exact begun.congr records
  | removed early =>
    rw [stage] at windowed
    have clear : s.Clear := by
      cases windowed with
      | removed clear | recovered clear => exact clear
    simp only [InjectionBench.advance, stage, offsets, Option.map_some] at step
    generalize recorded :
      s.record executionId fault.toRawFaultSection (.ended fault.faultId) (some finish) fails clock = outcome at step
    obtain ⟨middle, raised⟩ := outcome
    obtain rfl := Option.some.inj step
    obtain ⟨inventory, running, writes, failing⟩ := record_spec recorded
    have control := congrArg InventoryService.fault inventory
    have kept : middle.Clear := ⟨control.trans clear.control, running.trans clear.running⟩
    cases raised with
    | false =>
      refine ⟨?_, fun _ own => by simpa [TimelineStage.raised] using own⟩
      cases windowed with
      | removed _ startClock one =>
        refine (Windowed.finished kept ⟨startClock, clock, ?_⟩).congr rfl rfl rfl
        rw [writes rfl, one, List.singleton_append, endedRecord]
      | recovered _ begun =>
        refine (Windowed.failed kept.unsure (.inr ?_)).congr rfl rfl rfl
        rcases begun with none | ⟨startClock, one⟩
        · exact .inl ⟨clock, by rw [writes rfl, none, List.nil_append, endedRecord]⟩
        · exact .inr ⟨startClock, clock, by rw [writes rfl, one, List.singleton_append, endedRecord]⟩
    | true =>
      obtain ⟨records, fails⟩ := failing rfl
      refine ⟨?_, by simp [fails]⟩
      cases windowed with
      | removed _ startClock one =>
        exact (Windowed.failed kept.unsure (.inl (.inr ⟨startClock, records.trans one⟩))).congr rfl rfl rfl
      | recovered _ begun => exact (Windowed.failed kept.unsure (.inl (begun.congr records))).congr rfl rfl rfl
  | finished raised => simp [InjectionBench.advance, stage] at step

end InjectionBench

/-! ## The inventory beside the injector -/

/-- An effect of a fault names the fault that is active. -/
private theorem record_of_beforeReservation {sampled : Sampling} {fault : Option FaultControl}
    {request : MessageEnvelope} {applied : FaultApplied}
    (sampling : applied ∈ (beforeReservation sampled fault request).1) :
    ∃ control effect, fault = some control ∧ applied = control.record request effect := by
  cases fault with
  | none => cases sampling
  | some control =>
    simp only [beforeReservation] at sampling
    split_ifs at sampling
    · cases sampling
    · cases sampling
    · cases type : control.type with
      | intermittentError =>
        rw [type] at sampling
        exact ⟨control, _, rfl, (Option.some.inj sampling).symm⟩
      | timeout delayMs positive =>
        rw [type] at sampling
        exact ⟨control, _, rfl, (Option.some.inj sampling).symm⟩

/-- A process leaves the control file alone, and what it records is of the fault the file holds. -/
theorem InventoryService.faultEvents_of_step {sampled : Sampling} {s t : InventoryService} {label : InventoryLabel}
    (step : s.step sampled label = some t) (writes : ∀ control, label ≠ .writeControl control)
    (clears : label ≠ .clearControl) : t.fault = s.fault ∧ ∀ applied ∈ t.faultEvents, applied ∈ s.faultEvents ∨
      ∃ control request effect, s.fault = some control ∧ applied = control.record request effect := by
  cases stepped_of_step step with
  | controlWritten control => exact absurd rfl (writes control)
  | controlCleared => exact absurd rfl clears
  | taken route raw idle =>
    rw [take]
    split
    · exact ⟨rfl, fun applied member => .inl member⟩
    · next request read =>
      refine ⟨rfl, fun applied member => (List.mem_append.mp member).imp_right fun new => ?_⟩
      obtain ⟨control, effect, active, is⟩ := record_of_beforeReservation (Option.mem_toList.mp new)
      exact ⟨control, request, effect, active, is⟩
  | processed route draw request injected waiting =>
    rw [process]
    split <;> exact ⟨rfl, fun applied member => .inl member⟩
  | published | stopped => exact ⟨rfl, fun applied member => .inl member⟩

namespace InjectionBench

variable {executionId : String} {fault : FaultSection} {injector : Injector} {s t : InjectionBench}
  {sampled : Sampling} {stock : List String}

/-- The end of both processes is a step of each that is busy. -/
private theorem reachable_idle {inventory : InventoryService}
    (reachable : (inventoryMachine sampled stock).Reachable inventory) :
    (inventoryMachine sampled stock).Reachable { inventory with workers := fun _ => .idle } := by
  have stopped : ∀ {inventory : InventoryService} (route : Target),
      (inventoryMachine sampled stock).Reachable inventory →
        (inventoryMachine sampled stock).Reachable (inventory.setWorker route .idle) := by
    intro inventory route reachable
    by_cases idle : inventory.workers route = .idle
    · rw [InventoryService.setWorker, ← idle, Function.update_eq_self]
      exact reachable
    · exact reachable.snoc (l := .stop route) trivial (if_neg idle)
  have both : (inventory.setWorker .inventoryPrimary .idle).setWorker .inventoryFallback .idle =
      { inventory with workers := fun _ => .idle } := by
    simp only [InventoryService.setWorker, InventoryService.mk.injEq, true_and, and_true]
    funext route
    cases route <;> simp [Function.update]
  exact both ▸ stopped .inventoryFallback (stopped .inventoryPrimary reachable)

section Operations

variable {raw : RawFaultSection} {fails effected : Bool} {clock : ℚ}

private theorem reachable_apply (raw : RawFaultSection) (injector : Injector) (fails effected : Bool)
    (reachable : (inventoryMachine sampled stock).Reachable s.inventory) :
    (inventoryMachine sampled stock).Reachable (s.apply raw injector fails effected).1.inventory ∧
      (s.apply raw injector fails effected).1.inventory.faultEvents = s.inventory.faultEvents := by
  cases injector with
  | primaryRouteFault =>
    rw [apply]
    cases raw.control? with
    | none => exact ⟨reachable, rfl⟩
    | some control =>
      dsimp only
      split_ifs
      · exact ⟨reachable, rfl⟩
      · exact ⟨reachable.snoc (l := .writeControl control) trivial rfl, rfl⟩
  | inventoryOutage =>
    rw [apply]
    dsimp only
    split_ifs
    · exact ⟨reachable, rfl⟩
    · exact ⟨reachable_idle reachable, rfl⟩
  | workloadWindow => exact ⟨reachable, rfl⟩

private theorem reachable_remove (injector : Injector) (fails effected : Bool)
    (reachable : (inventoryMachine sampled stock).Reachable s.inventory) :
    (inventoryMachine sampled stock).Reachable (s.remove injector fails effected).1.inventory ∧
      (s.remove injector fails effected).1.inventory.faultEvents = s.inventory.faultEvents := by
  cases injector with
  | primaryRouteFault =>
    rw [remove]
    split_ifs
    · exact ⟨reachable, rfl⟩
    · exact ⟨reachable.snoc (l := .clearControl) trivial rfl, rfl⟩
  | inventoryOutage =>
    rw [remove]
    dsimp only
    split_ifs <;> exact ⟨reachable, rfl⟩
  | workloadWindow => exact ⟨reachable, rfl⟩

private theorem inventory_record (event : FaultEvent) (offset : Option ℚ) :
    (s.record executionId raw event offset fails clock).1.inventory = s.inventory := by
  cases offset with
  | none => rfl
  | some offset =>
    simp only [record]
    split_ifs <;> rfl

/-- The injector does to the inventory what its environment may do. -/
theorem reachable_advance (reachable : (inventoryMachine sampled stock).Reachable s.inventory)
    (step : s.advance executionId raw injector fails effected clock = some t) :
    (inventoryMachine sampled stock).Reachable t.inventory ∧ t.inventory.faultEvents = s.inventory.faultEvents ∧
      (s.stage.early = false → t.stage.early = false) := by
  cases stage : s.stage with
  | waiting =>
    simp only [advance, stage, Option.some_inj] at step
    subst step
    exact ⟨reachable, rfl, fun later => by cases later⟩
  | due =>
    obtain ⟨applied, same⟩ := reachable_apply raw injector fails effected reachable
    simp only [advance, stage, Option.some_inj] at step
    subst step
    exact ⟨applied, same, fun later => by cases later⟩
  | applied =>
    simp only [advance, stage, Option.some_inj] at step
    subst step
    rw [inventory_record]
    exact ⟨reachable, rfl, fun _ => by dsimp only; split_ifs <;> rfl⟩
  | opened =>
    simp only [advance, stage, Option.some_inj] at step
    subst step
    exact ⟨reachable, rfl, fun _ => rfl⟩
  | closing early =>
    simp only [advance, stage, Option.some_inj] at step
    obtain ⟨removed, same⟩ := reachable_remove injector fails effected reachable
    subst step
    exact ⟨removed, same, fun _ => by dsimp only; split_ifs <;> rfl⟩
  | removed early =>
    simp only [advance, stage, Option.some_inj] at step
    subst step
    rw [inventory_record]
    exact ⟨reachable, rfl, fun _ => rfl⟩
  | finished early => simp [advance, stage] at step

end Operations

/-! ## The whole window -/

theorem windowCount_faultEvents (s : InjectionBench) (executionId : String) {event : FaultEvent}
    (other : event ≠ .applied) :
    windowCount (s.faultEvents executionId) event = s.records.countP (·.event = event) := by
  have effects : (s.inventory.faultEvents.map fun _ => (⟨some executionId, .applied⟩ : FaultEventRecord)).countP
      (·.event = event) = 0 := by
    rw [List.countP_map, List.countP_eq_zero]
    intro applied _
    simpa using Ne.symm other
  rw [windowCount, faultEvents, List.countP_append, effects, Nat.add_zero, List.countP_map]
  rfl

/-- The effects of a fault are no end of its window: the gate looks at the records of the injector. -/
theorem checkFaultEvents_faultEvents (own : ∀ record ∈ s.records, record.executionId = executionId) :
    checkFaultEvents (s.faultEvents executionId) executionId = [] ↔ ∀ faultId,
      s.records.countP (·.event = .started faultId) = s.records.countP (·.event = .ended faultId) := by
  have named : ∀ line ∈ s.faultEvents executionId, line.executionId = some executionId := by
    intro line member
    rcases List.mem_append.mp member with recorded | effect
    · obtain ⟨record, here, rfl⟩ := List.mem_map.mp recorded
      exact congrArg some (own record here)
    · obtain ⟨_, -, rfl⟩ := List.mem_map.mp effect
      rfl
  rw [checkFaultEvents_eq_nil_iff]
  constructor
  · rintro ⟨-, balanced⟩ faultId
    rw [← windowCount_faultEvents s executionId (by simp), balanced, windowCount_faultEvents s executionId (by simp)]
  · refine fun balanced => ⟨named, fun faultId => ?_⟩
    rw [windowCount_faultEvents s executionId (by simp), balanced, windowCount_faultEvents s executionId (by simp)]

/-- The gate accepts the records of a timeline that has ended unless they show one end only. -/
theorem Windowed.gate {start finish : ℚ} {raised : Bool}
    (windowed : Windowed executionId fault injector start finish s (.finished raised)) :
    checkFaultEvents (s.faultEvents executionId) executionId = [] ↔
      s.records = [] ∨ s.Ended executionId fault start finish := by
  have both : s.Ended executionId fault start finish → checkFaultEvents (s.faultEvents executionId) executionId = [] := by
    rintro ⟨startClock, finishClock, both⟩
    rw [checkFaultEvents_faultEvents (by simp [both, startedRecord, endedRecord, RawFaultSection.recordAt])]
    simp [both, startedRecord, endedRecord, RawFaultSection.recordAt, List.countP_cons]
  cases windowed with
  | finished clear ended => exact iff_of_true (both ended) (.inr ended)
  | failed unsure some =>
    rcases some with (none | ⟨clock, one⟩) | ⟨clock, one⟩ | ended
    · rw [checkFaultEvents_faultEvents (by simp [none])]
      simp [none]
    · rw [checkFaultEvents_faultEvents (by simp [one, startedRecord, RawFaultSection.recordAt])]
      refine ⟨fun balanced => ?_, fun other => by simp [one, Ended] at other⟩
      simpa [one, startedRecord, RawFaultSection.recordAt] using balanced fault.faultId
    · rw [checkFaultEvents_faultEvents (by simp [one, endedRecord, RawFaultSection.recordAt])]
      refine ⟨fun balanced => ?_, fun other => by simp [one, Ended] at other⟩
      simpa [one, endedRecord, RawFaultSection.recordAt] using balanced fault.faultId
    · exact iff_of_true (both ended) (.inr ended)

/-- What holds of the inventory and its injector at every moment. -/
structure Contained (executionId : String) (fault : FaultSection) (injector : Injector) (s : InjectionBench) : Prop where
  control : ∀ control ∈ s.inventory.fault, injector = .primaryRouteFault ∧ fault.control? = some control ∧
    s.stage.early = false
  effects : ∀ applied ∈ s.inventory.faultEvents, s.stage.early = false ∧ injector = .primaryRouteFault ∧
    ∃ control request effect, fault.control? = some control ∧ applied = control.record request effect
  outage : s.running = false → injector = .inventoryOutage ∧ s.stage.early = false
  opened : s.stage = .opened → s.Injected fault injector
  closed : s.stage = .finished false → s.Clear ∧ ∃ start duration, fault.startAfterSeconds = some start ∧
    fault.durationSeconds = some duration ∧ 0 ≤ start ∧ 0 < duration ∧
      s.Ended executionId fault start (start + duration)
  gate : ∀ raised, s.stage = .finished raised →
    (checkFaultEvents (s.faultEvents executionId) executionId = [] ↔
      s.records = [] ∨ ∃ start finish, fault.windowOffsets? = some (start, finish) ∧
        s.Ended executionId fault start finish)

end InjectionBench

/-- An operation of the injector fails. -/
def InjectionLabel.fails : InjectionLabel → Bool
  | .inventory _ => false
  | .advance fails _ _ => fails

namespace InjectionBench

variable {executionId : String} {fault : FaultSection} {injector : Injector} {s t : InjectionBench}
  {sampled : Sampling} {stock : List String}

/-- Along a run of the bench. -/
structure Timeline (sampled : Sampling) (stock : List String) (executionId : String) (fault : FaultSection)
    (injector : Injector) (start finish : ℚ) (s : InjectionBench) : Prop where
  windowed : Windowed executionId fault injector start finish s s.stage
  inventory : (inventoryMachine sampled stock).Reachable s.inventory
  effects : ∀ applied ∈ s.inventory.faultEvents, s.stage.early = false ∧ injector = .primaryRouteFault ∧
    ∃ control request effect, fault.control? = some control ∧ applied = control.record request effect

/-- At every stage what is injected, if anything, is the fault. -/
theorem Windowed.unsure {start finish : ℚ} {stage : TimelineStage}
    (windowed : Windowed executionId fault injector start finish s stage) : s.Unsure fault injector := by
  cases windowed with
  | waiting clear | due clear | removed clear | recovered clear | finished clear => exact clear.unsure
  | applied injected | opened injected | closing injected => exact injected.unsure
  | failing unsure | failed unsure => exact unsure

/-- What is active is the fault, and its window has been opened. -/
theorem Windowed.active {start finish : ℚ} {stage : TimelineStage} {control : FaultControl}
    (windowed : Windowed executionId fault injector start finish s stage) (active : s.inventory.fault = some control) :
    injector = .primaryRouteFault ∧ fault.control? = some control ∧ stage.early = false := by
  obtain ⟨primary, is⟩ := windowed.unsure.control.resolve_left (by simp [active])
  refine ⟨primary, is.symm.trans active, ?_⟩
  cases windowed with
  | waiting clear | due clear => simp [clear.control] at active
  | applied | opened | closing | failing | removed | recovered | finished | failed => rfl

namespace Timeline

variable {start finish : ℚ}

theorem initial : Timeline sampled stock executionId fault injector start finish (.initial stock) where
  windowed := .waiting ⟨rfl, rfl⟩ rfl
  inventory := Machine.reachable_initial _
  effects applied member := by cases member

theorem step (timeline : Timeline sampled stock executionId fault injector start finish s)
    (scenario : injectorFor fault.type = some injector) (offsets : fault.windowOffsets? = some (start, finish))
    {label : InjectionLabel} (step : s.step sampled executionId fault.toRawFaultSection injector label = some t) :
    Timeline sampled stock executionId fault injector start finish t ∧
      (label.fails = false → s.stage.raised = false → t.stage.raised = false) := by
  cases label with
  | advance fails effected clock =>
    obtain ⟨windowed, quiet⟩ := timeline.windowed.advance scenario offsets step
    obtain ⟨inventory, same, moved⟩ := reachable_advance timeline.inventory step
    refine ⟨⟨windowed, inventory, fun applied member => ?_⟩, quiet⟩
    obtain ⟨later, own⟩ := timeline.effects applied (same ▸ member)
    exact ⟨moved later, own⟩
  | inventory label =>
    simp only [InjectionBench.step, Option.ite_none_right_eq_some, Option.map_eq_some_iff] at step
    obtain ⟨enabled, inventory, moved, rfl⟩ := step
    have writes : ∀ control, label ≠ .writeControl control := by
      rintro control rfl
      cases enabled
    have clears : label ≠ .clearControl := by
      rintro rfl
      cases enabled
    obtain ⟨control, effects⟩ := InventoryService.faultEvents_of_step moved writes clears
    refine ⟨⟨timeline.windowed.congr control rfl rfl, timeline.inventory.snoc trivial moved, ?_⟩, fun _ own => own⟩
    intro applied member
    rcases effects applied member with old | ⟨active, request, effect, holds, is⟩
    · exact timeline.effects applied old
    · obtain ⟨primary, built, moved⟩ := timeline.windowed.active holds
      exact ⟨moved, primary, active, request, effect, built, is⟩

theorem contained (timeline : Timeline sampled stock executionId fault injector start finish s)
    {duration : ℚ} (starts : fault.startAfterSeconds = some start) (lasts : fault.durationSeconds = some duration)
    (early : 0 ≤ start) (positive : 0 < duration) (ends : finish = start + duration)
    (offsets : fault.windowOffsets? = some (start, finish)) : s.Contained executionId fault injector where
  control control active := timeline.windowed.active active
  effects := timeline.effects
  outage stopped := by
    refine ⟨timeline.windowed.unsure.running.resolve_left (by simp [stopped]), ?_⟩
    have windowed := timeline.windowed
    generalize s.stage = stage at windowed
    cases windowed with
    | waiting clear | due clear => simp [clear.running] at stopped
    | applied | opened | closing | failing | removed | recovered | finished | failed => rfl
  opened stage := by
    have windowed := timeline.windowed
    rw [stage] at windowed
    cases windowed with
    | opened injected => exact injected
  closed stage := by
    have windowed := timeline.windowed
    rw [stage] at windowed
    cases windowed with
    | finished clear ended => exact ⟨clear, start, duration, starts, lasts, early, positive, ends ▸ ended⟩
  gate raised stage := by
    have windowed := timeline.windowed
    rw [stage] at windowed
    rw [windowed.gate]
    refine or_congr_right ⟨fun ended => ⟨start, finish, offsets, ended⟩, ?_⟩
    rintro ⟨start', finish', same, ended⟩
    cases same.symm.trans offsets
    exact ended

end Timeline

end InjectionBench

/-- Whatever the processes of the inventory do meanwhile and whichever operation of the bench fails, the fault of an
accepted scenario is contained in its window, the injector does nothing to the inventory that its environment may not
do, and no error comes but from an operation that fails. -/
theorem injection_contained {sampled : Sampling} {stock : List String} {executionId : String} {fault : FaultSection}
    {injector : Injector} (scenario : injectorFor fault.type = some injector)
    {moments : List (InjectionBench × InjectionLabel)} {s : InjectionBench}
    (run : (injectionMachine sampled stock executionId fault.toRawFaultSection injector).Run moments s) :
    s.Contained executionId fault injector ∧ (inventoryMachine sampled stock).Reachable s.inventory ∧
      ((∀ moment ∈ moments, moment.2.fails = false) → s.stage.raised = false) := by
  obtain ⟨start, duration, starts, lasts, early, positive, offsets⟩ := fault.exists_windowOffsets scenario
  have along : InjectionBench.Timeline sampled stock executionId fault injector start (start + duration) s ∧
      ((∀ moment ∈ moments, moment.2.fails = false) → s.stage.raised = false) := by
    induction run with
    | nil => exact ⟨.initial, fun _ => rfl⟩
    | snoc before offered step ih =>
      obtain ⟨timeline, quiet⟩ := ih.1.step scenario offsets step
      refine ⟨timeline, fun fails => ?_⟩
      rw [List.forall_mem_append, List.forall_mem_singleton] at fails
      exact quiet fails.2 (ih.2 fails.1)
  exact ⟨along.1.contained starts lasts early positive rfl offsets, along.1.inventory, along.2⟩

/-- A request fails inside the window, and nothing is left of the fault. -/
theorem injection_contained_pilot : ∃ s : InjectionBench, s.stage = .finished false ∧ s.inventory.faultEvents ≠ [] ∧
    s.Clear ∧ s.Contained "PILOT_0001" .intermittentFailure .primaryRouteFault := by
  obtain ⟨s, run, passes⟩ := Machine.exists_run_of_replay? (m := injectionMachine (fun _ _ _ _ => true) ["SKU-001"]
    "PILOT_0001" FaultSection.intermittentFailure.toRawFaultSection .primaryRouteFault) failureInWindow
    (p := fun s => s.stage = .finished false && !s.inventory.faultEvents.isEmpty) (by decide +kernel)
  rw [Bool.and_eq_true, decide_eq_true_eq] at passes
  obtain ⟨ended, effects⟩ := passes
  have scenario : injectorFor FaultSection.intermittentFailure.type = some .primaryRouteFault := rfl
  obtain ⟨contained, -⟩ := injection_contained scenario run
  exact ⟨s, ended, by simpa using effects, (contained.closed ended).1, contained⟩

end OrchLab
