import OrchLab.Soundness.Scripts.Percentile

/-! # Recovery after a fault

A task is normal if it completed within the P95 of the tasks completed from before the fault. The recovery is the
earliest run of normal tasks among those created since the end of the fault. The tasks created during the fault
take no part in it, and later tasks do not move it.
-/

namespace OrchLab

/-- A task that ended has a closing time and a latency, and no other task has. -/
structure TaskOutcome.Consistent (task : TaskOutcome) : Prop where
  finished : task.finishedAt.isSome = task.status.isSome
  timed : task.e2eMs.isSome = task.status.isSome

/-- The outcomes the analysis is given are consistent. -/
theorem taskOutcomes_consistent (events : List TaskEventRecord) (decisions : List DecisionRecord) :
    ∀ task ∈ taskOutcomes events decisions, task.Consistent := by
  intro task member
  obtain ⟨created, -, rfl⟩ := List.mem_map.mp member
  exact ⟨by simp [taskOutcome], by simp [taskOutcome]⟩

/-- The latencies of the tasks completed from before the fault. -/
def baselineLatencies (tasks : List TaskOutcome) (window : FaultWindow) : List ℚ :=
  (baselineTasks tasks window).filterMap fun task => task.e2eMs.map Int.cast

/-- The task completed within the reference. -/
def TaskOutcome.normal (reference : ℚ) (task : TaskOutcome) : Bool :=
  task.status = some .completed && task.e2eMs.any fun time => (time : ℚ) ≤ reference

/-- The flags of the tasks created since the end of the fault. -/
def normalAfter (reference : ℚ) (tasks : List TaskOutcome) (window : FaultWindow) : List Bool :=
  (tasksAfter tasks window).map (TaskOutcome.normal reference)

/-! ## What the code computes -/

section Compute

variable {tasks : List TaskOutcome}

theorem mapM_latency (completed : ∀ task ∈ tasks, task.e2eMs.isSome = true) :
    tasks.mapM TaskOutcome.latency? = .ok (tasks.filterMap fun task => task.e2eMs.map Int.cast) := by
  induction tasks with
  | nil => rfl
  | cons task rest ih =>
    rw [List.forall_mem_cons] at completed
    obtain ⟨time, here⟩ := Option.isSome_iff_exists.mp completed.1
    have first : task.latency? = .ok (time : ℚ) := by rw [TaskOutcome.latency?, here]
    rw [List.mapM_cons, first, ih completed.2, List.filterMap_cons_some (b := (time : ℚ)) (by rw [here]; rfl)]
    rfl

theorem mapM_isNormal (reference : ℚ) (consistent : ∀ task ∈ tasks, task.Consistent) :
    tasks.mapM (TaskOutcome.isNormal reference) = .ok (tasks.map (TaskOutcome.normal reference)) := by
  induction tasks with
  | nil => rfl
  | cons task rest ih =>
    rw [List.forall_mem_cons] at consistent
    have first : task.isNormal reference = .ok (task.normal reference) := by
      rw [TaskOutcome.isNormal, TaskOutcome.normal]
      split_ifs with completed
      · have timed := consistent.1.timed
        rw [completed] at timed
        obtain ⟨time, here⟩ := Option.isSome_iff_exists.mp timed
        simp [TaskOutcome.latency?, here, completed, Except.map]
      · simp [completed]
    rw [List.mapM_cons, first, ih consistent.2]
    rfl

end Compute

/-- The three ways the analysis of a fault ends. -/
inductive RecoveryCase (tasks : List TaskOutcome) (window : FaultWindow) (k : ℕ) (row : RecoveryRow) : Prop
  | unknown (empty : baselineLatencies tasks window = []) (recovered : row.recovered = none)
      (recoveredAt : row.recoveredAt = none) (recoveryTime : row.recoveryTimeMs = none)
  | missed (reference : ℚ) (found : percentile (baselineLatencies tasks window) p95 = .ok (some reference))
      (absent : firstRun k (normalAfter reference tasks window) = none) (recovered : row.recovered = some false)
      (recoveredAt : row.recoveredAt = none) (recoveryTime : row.recoveryTimeMs = none)
  | recovered (reference : ℚ) (found : percentile (baselineLatencies tasks window) p95 = .ok (some reference))
      (index : ℕ) (run : firstRun k (normalAfter reference tasks window) = some index) (first : TaskOutcome)
      (starts : (tasksAfter tasks window)[index]? = some first) (finished : Timestamp)
      (finishes : first.finishedAt = some finished) (recovered : row.recovered = some true)
      (recoveredAt : row.recoveredAt = some finished)
      (recoveryTime : row.recoveryTimeMs = some (finished - window.startedAt))

theorem recovery_cases {tasks : List TaskOutcome} (window : FaultWindow) {k : ℕ}
    (consistent : ∀ task ∈ tasks, task.Consistent) (positive : 1 ≤ k) :
    ∃ row, recovery tasks window k = .ok row ∧ RecoveryCase tasks window k row := by
  have baseline : (baselineTasks tasks window).mapM TaskOutcome.latency? =
      .ok (baselineLatencies tasks window) := by
    refine mapM_latency fun task member => ?_
    obtain ⟨known, completed⟩ := List.mem_filter.mp member
    simp only [Bool.and_eq_true, decide_eq_true_eq] at completed
    rw [(consistent task known).timed, completed.1]
    rfl
  have after : ∀ reference, (tasksAfter tasks window).mapM (TaskOutcome.isNormal reference) =
      .ok (normalAfter reference tasks window) := fun reference =>
    mapM_isNormal reference fun task member => consistent task (List.mem_of_mem_filter member)
  obtain ⟨result, found, empty⟩ :=
    exists_percentile (baselineLatencies tasks window) p95_nonneg p95_le_one
  generalize success : recovery tasks window k = outcome
  cases result with
  | none =>
    simp only [recovery, baseline, found, bind, Except.bind, pure, Except.pure] at success
    subst success
    exact ⟨_, rfl, .unknown (empty.mp rfl) rfl rfl rfl⟩
  | some reference =>
    cases run : firstRun k (normalAfter reference tasks window) with
    | none =>
      simp only [recovery, baseline, found, after, run, bind, Except.bind, pure, Except.pure] at success
      subst success
      exact ⟨_, rfl, .missed reference found run rfl rfl rfl⟩
    | some index =>
      obtain ⟨first, starts, normal⟩ : ∃ first, (tasksAfter tasks window)[index]? = some first ∧
          first.normal reference = true := by
        have set := ((firstRun_eq_some_iff positive).mp run).1 0 positive
        rw [Nat.add_zero, normalAfter, List.getElem?_map] at set
        exact Option.map_eq_some_iff.mp set
      obtain ⟨finished, finishes⟩ : ∃ finished, first.finishedAt = some finished := by
        have known := List.mem_of_mem_filter (List.mem_of_getElem? starts)
        rw [TaskOutcome.normal, Bool.and_eq_true, decide_eq_true_eq] at normal
        have closed := (consistent first known).finished
        rw [normal.1] at closed
        exact Option.isSome_iff_exists.mp closed
      have item : itemAt (tasksAfter tasks window) index = .ok first := by
        obtain ⟨bound, here⟩ := List.getElem?_eq_some_iff.mp starts
        rw [itemAt_natCast bound, here]
      simp only [recovery, baseline, found, after, run, item, finishes, bind, Except.bind, pure, Except.pure]
        at success
      subst success
      exact ⟨_, rfl, .recovered reference found index run first starts finished finishes rfl rfl rfl⟩

/-! ## The earliest run -/

/-- A row says whether, when and after how long the system recovered. -/
structure IsRecovery (tasks : List TaskOutcome) (window : FaultWindow) (k : ℕ) (row : RecoveryRow) : Prop where
  unknown : row.recovered = none ↔
    ∀ task ∈ tasks, task.status = some .completed → window.startedAt ≤ task.createdAt
  recovered : row.recovered = some true ↔ ∃ reference index,
    percentile (baselineLatencies tasks window) p95 = .ok (some reference) ∧
      RunAt k (normalAfter reference tasks window) index
  earliest : ∀ reference index, percentile (baselineLatencies tasks window) p95 = .ok (some reference) →
    RunAt k (normalAfter reference tasks window) index →
      (∀ earlier < index, ¬RunAt k (normalAfter reference tasks window) earlier) →
        ∃ first finished, (tasksAfter tasks window)[index]? = some first ∧ first.finishedAt = some finished ∧
          row.recoveredAt = some finished ∧ row.recoveryTimeMs = some (finished - window.startedAt)
  empty : row.recovered ≠ some true → row.recoveredAt = none ∧ row.recoveryTimeMs = none

theorem baselineLatencies_eq_nil_iff {tasks : List TaskOutcome} {window : FaultWindow}
    (consistent : ∀ task ∈ tasks, task.Consistent) : baselineLatencies tasks window = [] ↔
      ∀ task ∈ tasks, task.status = some .completed → window.startedAt ≤ task.createdAt := by
  rw [baselineLatencies, List.filterMap_eq_nil_iff]
  constructor
  · intro none task known completed
    by_contra early
    have timed := (consistent task known).timed
    rw [completed] at timed
    obtain ⟨time, here⟩ := Option.isSome_iff_exists.mp timed
    have member : task ∈ baselineTasks tasks window :=
      List.mem_filter.mpr ⟨known, by simpa [completed] using early⟩
    have absent := none task member
    rw [here] at absent
    cases absent
  · intro late task member
    obtain ⟨known, early⟩ := List.mem_filter.mp member
    simp only [Bool.and_eq_true, decide_eq_true_eq] at early
    exact absurd early.2 (Int.not_lt.mpr (late task known early.1))

/-- Every outcome of the analysis is the recovery. -/
theorem RecoveryCase.isRecovery {tasks : List TaskOutcome} {window : FaultWindow} {k : ℕ} {row : RecoveryRow}
    (consistent : ∀ task ∈ tasks, task.Consistent) (positive : 1 ≤ k) (ends : RecoveryCase tasks window k row) :
    IsRecovery tasks window k row := by
  have known : ∀ reference, percentile (baselineLatencies tasks window) p95 = .ok (some reference) →
      ¬∀ task ∈ tasks, task.status = some .completed → window.startedAt ≤ task.createdAt := by
    intro reference found none
    rw [(baselineLatencies_eq_nil_iff consistent).mpr none] at found
    cases found
  have same : ∀ {reference other}, percentile (baselineLatencies tasks window) p95 = .ok (some reference) →
      percentile (baselineLatencies tasks window) p95 = .ok (some other) → other = reference := by
    intro reference other found also
    rw [found] at also
    cases also
    rfl
  cases ends with
  | unknown empty recovered recoveredAt recoveryTime =>
    have lost : ∀ reference, percentile (baselineLatencies tasks window) p95 ≠ .ok (some reference) := by
      intro reference found
      rw [empty] at found
      cases found
    refine ⟨iff_of_true recovered ((baselineLatencies_eq_nil_iff consistent).mp empty),
      iff_of_false (by simp [recovered]) ?_, fun reference index found => absurd found (lost reference),
      fun _ => ⟨recoveredAt, recoveryTime⟩⟩
    rintro ⟨reference, index, found, -⟩
    exact lost reference found
  | missed reference found absent recovered recoveredAt recoveryTime =>
    have no := (firstRun_eq_none_iff positive).mp absent
    refine ⟨iff_of_false (by simp [recovered]) (known reference found), iff_of_false (by simp [recovered]) ?_, ?_,
      fun _ => ⟨recoveredAt, recoveryTime⟩⟩
    · rintro ⟨other, index, also, run⟩
      obtain rfl := same found also
      exact no index run
    · intro other index also run
      obtain rfl := same found also
      exact absurd run (no index)
  | recovered reference found index run first starts finished finishes recovered recoveredAt recoveryTime =>
    have earliest := (firstRun_eq_some_iff positive).mp run
    refine ⟨iff_of_false (by simp [recovered]) (known reference found),
      iff_of_true recovered ⟨reference, index, found, earliest.1⟩, ?_,
      fun unrecovered => absurd recovered unrecovered⟩
    intro other position also here before
    obtain rfl := same found also
    have found' := (firstRun_eq_some_iff positive).mpr ⟨here, before⟩
    obtain rfl : index = position := Option.some_inj.mp (run.symm.trans found')
    exact ⟨first, finished, starts, finishes, recoveredAt, recoveryTime⟩

/-! ## Tasks that take no part -/

/-- The task was created before the fault or since its end. -/
def TaskOutcome.outside (window : FaultWindow) (task : TaskOutcome) : Bool :=
  task.createdAt < window.startedAt || window.endedAt ≤ task.createdAt

/-- The analysis reads the tasks created outside of the fault. -/
theorem recovery_congr {tasks tasks' : List TaskOutcome} {window : FaultWindow}
    (same : tasks'.filter (TaskOutcome.outside window) = tasks.filter (TaskOutcome.outside window)) (k : ℕ) :
    recovery tasks' window k = recovery tasks window k := by
  have baseline : ∀ l : List TaskOutcome,
      baselineTasks l window = baselineTasks (l.filter (TaskOutcome.outside window)) window := by
    intro l
    rw [baselineTasks, baselineTasks, List.filter_filter]
    refine List.filter_congr fun task _ => ?_
    by_cases early : task.createdAt < window.startedAt <;> simp [TaskOutcome.outside, early]
  have after : ∀ l : List TaskOutcome,
      tasksAfter l window = tasksAfter (l.filter (TaskOutcome.outside window)) window := by
    intro l
    rw [tasksAfter, tasksAfter, List.filter_filter]
    refine List.filter_congr fun task _ => ?_
    by_cases late : window.endedAt ≤ task.createdAt <;> simp [TaskOutcome.outside, late]
  rw [recovery, recovery, baseline tasks', baseline tasks, after tasks', after tasks, same]

theorem tasksAfter_append (tasks later : List TaskOutcome) (window : FaultWindow) :
    tasksAfter (tasks ++ later) window = tasksAfter tasks window ++ tasksAfter later window :=
  List.filter_append ..

theorem baselineTasks_append (tasks later : List TaskOutcome) (window : FaultWindow) :
    baselineTasks (tasks ++ later) window = baselineTasks tasks window ++ baselineTasks later window :=
  List.filter_append ..

/-- Tasks created after all others do not move a recovery. -/
theorem recovery_append {tasks later : List TaskOutcome} {window : FaultWindow} {k : ℕ} {row : RecoveryRow}
    (interval : window.startedAt ≤ window.endedAt) (consistent : ∀ task ∈ tasks ++ later, task.Consistent)
    (positive : 1 ≤ k) (behind : ∀ new ∈ later, ∀ task ∈ tasks, task.createdAt ≤ new.createdAt)
    (ends : RecoveryCase tasks window k row) (recovers : row.recovered = some true) :
    ∃ row', recovery (tasks ++ later) window k = .ok row' ∧ row'.recovered = some true ∧
      row'.recoveredAt = row.recoveredAt := by
  cases ends with
  | unknown _ recovered | missed _ _ _ recovered => simp [recovered] at recovers
  | recovered reference found index run first starts finished finishes recovered recoveredAt recoveryTime =>
    obtain ⟨known, since⟩ := List.mem_filter.mp (List.mem_of_getElem? starts)
    rw [decide_eq_true_eq] at since
    have baseline : baselineLatencies (tasks ++ later) window = baselineLatencies tasks window := by
      have late : baselineTasks later window = [] := by
        refine List.filter_eq_nil_iff.mpr fun new member => ?_
        have after := since.trans (behind new member first known)
        simp only [Bool.and_eq_true, decide_eq_true_eq, not_and, Int.not_lt]
        exact fun _ => interval.trans after
      rw [baselineLatencies, baselineTasks_append, late, List.append_nil]
      rfl
    have flags : normalAfter reference (tasks ++ later) window =
        normalAfter reference tasks window ++ normalAfter reference later window := by
      rw [normalAfter, tasksAfter_append, List.map_append]
      rfl
    have again : firstRun k (normalAfter reference (tasks ++ later) window) = some index := by
      rw [flags]
      exact firstRun_append positive run
    obtain ⟨row', success, ends'⟩ := recovery_cases window consistent positive
    refine ⟨row', success, ?_⟩
    cases ends' with
    | unknown empty =>
      rw [← baseline, empty] at found
      cases found
    | missed other found' absent =>
      rw [baseline, found] at found'
      cases found'
      rw [again] at absent
      cases absent
    | recovered other found' position run' first' starts' finished' finishes' recovered' recoveredAt' =>
      rw [baseline, found] at found'
      cases found'
      obtain rfl : index = position := Option.some_inj.mp (again.symm.trans run')
      have inside := (List.getElem?_eq_some_iff.mp starts).1
      have here : (tasksAfter (tasks ++ later) window)[index]? = some first := by
        rw [tasksAfter_append, List.getElem?_append_left inside]
        exact starts
      obtain rfl : first = first' := Option.some_inj.mp (here.symm.trans starts')
      exact ⟨recovered', by rw [recoveredAt', recoveredAt, ← finishes', finishes]⟩

/-- For every fault the analysis returns the recovery; the tasks created during the fault do not change it, and
tasks created after all others do not move it. -/
theorem recovery_is_earliest (tasks : List TaskOutcome) (window : FaultWindow) (k : ℕ)
    (consistent : ∀ task ∈ tasks, task.Consistent) (interval : window.startedAt ≤ window.endedAt)
    (positive : 1 ≤ k) : ∃ row, recovery tasks window k = .ok row ∧ IsRecovery tasks window k row ∧
      (∀ tasks', tasks'.filter (TaskOutcome.outside window) = tasks.filter (TaskOutcome.outside window) →
        recovery tasks' window k = .ok row) ∧
      (row.recovered = some true → ∀ later, (∀ task ∈ later, task.Consistent) →
        (∀ new ∈ later, ∀ task ∈ tasks, task.createdAt ≤ new.createdAt) →
          ∃ row', recovery (tasks ++ later) window k = .ok row' ∧ row'.recovered = some true ∧
            row'.recoveredAt = row.recoveredAt) := by
  obtain ⟨row, success, ends⟩ := recovery_cases window consistent positive
  refine ⟨row, success, ends.isRecovery consistent positive, fun tasks' same => ?_,
    fun recovers later sound behind => ?_⟩
  · rw [recovery_congr same, success]
  · refine recovery_append interval ?_ positive behind ends recovers
    rw [List.forall_mem_append]
    exact ⟨consistent, sound⟩

/-- Tasks that completed, by their creation and their latency: after a fault, a slow one and two normal ones. -/
def slowThenNormal : List TaskOutcome :=
  [(1, 0, 100), (2, 1500, 900), (3, 2000, 400), (4, 2500, 90), (5, 3000, 100)].map fun (task, createdAt, latency) =>
    ⟨task, createdAt, some (createdAt + latency), some .completed, some latency, 1⟩

/-- The recovery begins with the first of the normal tasks, at 2590. -/
theorem recovery_is_earliest_pilot : ∃ row,
    recovery slowThenNormal ⟨"F1", "INSTABILITY", 1000, 2000⟩ 2 = .ok row ∧
      IsRecovery slowThenNormal ⟨"F1", "INSTABILITY", 1000, 2000⟩ 2 row ∧ row.recoveredAt = some 2590 := by
  have consistent : ∀ task ∈ slowThenNormal, task.Consistent := by
    intro task member
    obtain ⟨parts, -, rfl⟩ := List.mem_map.mp member
    exact ⟨rfl, rfl⟩
  have value : (recovery slowThenNormal ⟨"F1", "INSTABILITY", 1000, 2000⟩ 2).toOption.bind (·.recoveredAt) =
      some 2590 := by decide +kernel
  obtain ⟨row, success, recovers, -⟩ :=
    recovery_is_earliest slowThenNormal ⟨"F1", "INSTABILITY", 1000, 2000⟩ 2 consistent (by decide) (by decide)
  rw [success] at value
  exact ⟨row, success, recovers, value⟩

end OrchLab
