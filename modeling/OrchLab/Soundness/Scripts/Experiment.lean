import OrchLab.Model.Scripts.Experiment
import OrchLab.ToMathlib.LastWhere

/-! # A batch accounts for every execution

Every execution a batch opens has an identifier of its own that nothing used before, and no file of an earlier one
is touched. An invalid execution is put into `invalid_runs.csv` once and repeated under a new identifier; the exit
code tells whether every run of the plan has ended valid.
-/

namespace OrchLab

/-! ## Identifiers -/

private theorem decimal?_of_isDigit {c : Char} (digit : c.isDigit = true) : decimal? c = some (c.toNat - 48) := by
  have bounds : 48 ≤ c.toNat ∧ c.toNat < 48 + 10 := by
    simp only [Char.isDigit, Bool.and_eq_true, decide_eq_true_eq, ge_iff_le] at digit
    exact ⟨digit.1, Nat.lt_succ_of_le digit.2⟩
  rw [decimal?, decimalZeros, List.find?_cons_of_pos (by simpa using bounds)]
  rfl

private theorem mapM_decimal? {digits : List Char} (all : ∀ c ∈ digits, c.isDigit = true) :
    digits.mapM decimal? = some (digits.map fun c => c.toNat - 48) := by
  induction digits with
  | nil => rfl
  | cons c rest ih =>
    obtain ⟨head, rest⟩ := List.forall_mem_cons.mp all
    rw [List.mapM_cons, decimal?_of_isDigit head, ih rest]
    rfl

/-- The number of an identifier is read back. -/
theorem pilotNumber?_pilotId (number : ℕ) : pilotNumber? (pilotId number) = some number := by
  have text : (pilotId number).toList = 'P' :: 'I' :: 'L' :: 'O' :: 'T' :: '_' ::
      (List.replicate (4 - (toString number).length) '0' ++ Nat.toDigits 10 number) := by
    simp [pilotId, Nat.toString_eq_repr, Nat.toList_repr]
  have nonempty : List.replicate (4 - (toString number).length) '0' ++ Nat.toDigits 10 number ≠ [] := by
    simp [Nat.toDigits_ne_nil]
  have plain : ∀ c ∈ List.replicate (4 - (toString number).length) '0' ++ Nat.toDigits 10 number,
      c.isDigit = true := by
    intro c member
    rcases List.mem_append.mp member with padding | digit
    · rw [(List.mem_replicate.mp padding).2]
      rfl
    · exact Nat.isDigit_of_mem_toDigits (by decide) (by decide) digit
  have last : (List.replicate (4 - (toString number).length) '0' ++ Nat.toDigits 10 number).getLast? ≠ some '\n' := by
    intro ends
    have digit := plain '\n' (List.mem_of_getLast? ends)
    cases digit
  rw [pilotNumber?, text]
  simp only [if_neg last, if_neg nonempty, mapM_decimal? plain, Option.map_some, List.foldl_map, Option.some_inj]
  change Nat.ofDigitChars 10 _ 0 = number
  rw [Nat.ofDigitChars_append, Nat.ofDigitChars_replicate_zero, Nat.mul_zero, Nat.ofDigitChars_ten_toDigits]

private theorem le_foldl_max (numbers : List ℕ) (start : ℕ) :
    start ≤ numbers.foldl max start ∧ ∀ number ∈ numbers, number ≤ numbers.foldl max start := by
  induction numbers generalizing start with
  | nil => exact ⟨Nat.le_refl _, by simp⟩
  | cons first rest ih =>
    obtain ⟨grown, bounded⟩ := ih (max start first)
    refine ⟨(Nat.le_max_left ..).trans grown, List.forall_mem_cons.mpr ⟨(Nat.le_max_right ..).trans grown, bounded⟩⟩

/-- The next identifier is no name of the directory. -/
theorem nextPilotId_notMem (names : List String) : nextPilotId names ∉ names := by
  intro taken
  have bounded := (le_foldl_max (names.filterMap pilotNumber?) 0).2 _
    (List.mem_filterMap.mpr ⟨_, taken, pilotNumber?_pilotId _⟩)
  omega

/-- The gate finds the phase and the eligibility that the identifier of an execution implies. -/
theorem checkMetadata_pilotId (execution : PilotExecution) {number : ℕ}
    (named : execution.executionId = pilotId number) :
    checkMetadata (some execution.metadata) execution.executionId = some [] := by
  have phase : expectedPhase? execution.executionId = some ("PILOT", false) := by
    rw [named, expectedPhase?]
    simp [pilotId]
  simp [checkMetadata, phase, PilotExecution.metadata]

/-! ## What one run adds -/

/-- The files after some executions were opened. -/
structure DataRoot.Opens (root after : DataRoot) (opened : List PilotExecution) : Prop where
  executions : after.executions = root.executions ++ opened
  invalidRuns : after.invalidRuns.getD [] = root.invalidRuns.getD [] ++
    (opened.filter (·.runStatus = some .invalid)).map PilotExecution.invalidRun
  entries : root.entries ⊆ after.entries
  fresh : ∀ execution ∈ opened, execution.executionId ∉ root.entries
  distinct : (opened.map (·.executionId)).Nodup
  named : ∀ execution ∈ opened, ∃ number, execution.executionId = pilotId number

namespace DataRoot

variable {root middle after : DataRoot}

theorem executionId_mem_entries {execution : PilotExecution} (present : execution ∈ root.executions) :
    execution.executionId ∈ root.entries :=
  List.mem_append_left _ (List.mem_append_left _ (List.mem_map_of_mem present))

namespace Opens

theorem refl (root : DataRoot) : root.Opens root [] :=
  ⟨by simp, by simp, List.Subset.refl _, by simp, List.nodup_nil, by simp⟩

theorem trans {first second : List PilotExecution} (one : root.Opens middle first)
    (two : middle.Opens after second) : root.Opens after (first ++ second) where
  executions := by rw [two.executions, one.executions, List.append_assoc]
  invalidRuns := by
    rw [two.invalidRuns, one.invalidRuns, List.filter_append, List.map_append, List.append_assoc]
  entries := List.Subset.trans one.entries two.entries
  fresh execution member := by
    rcases List.mem_append.mp member with early | late
    · exact one.fresh execution early
    · exact fun taken => two.fresh execution late (one.entries taken)
  distinct := by
    rw [List.map_append, List.nodup_append]
    refine ⟨one.distinct, two.distinct, ?_⟩
    rintro _ inFirst _ inSecond rfl
    obtain ⟨execution, early, rfl⟩ := List.mem_map.mp inFirst
    obtain ⟨other, late, same⟩ := List.mem_map.mp inSecond
    have present : execution ∈ middle.executions := one.executions ▸ List.mem_append_right _ early
    exact two.fresh other late (same ▸ executionId_mem_entries present)
  named execution member := by
    rcases List.mem_append.mp member with early | late
    · exact one.named execution early
    · exact two.named execution late

/-- One execution under the next identifier. -/
theorem one {execution : PilotExecution} (named : execution.executionId = nextPilotId root.entries)
    (executions : after.executions = root.executions ++ [execution]) (others : after.others = root.others)
    (invalidRuns : after.invalidRuns = if execution.runStatus = some .invalid then
      some (root.invalidRuns.getD [] ++ [execution.invalidRun]) else root.invalidRuns) :
    root.Opens after [execution] where
  executions := executions
  invalidRuns := by
    rw [invalidRuns]
    split_ifs with invalid <;> simp [invalid]
  entries := by
    have kept : root.invalidRuns.isSome = true → after.invalidRuns.isSome = true := by
      rw [invalidRuns]
      split_ifs
      · exact fun _ => rfl
      · exact id
    intro name member
    simp only [DataRoot.entries, executions, others, List.map_append, List.mem_append] at member ⊢
    rcases member with (old | other) | csv
    · exact .inl (.inl (.inl old))
    · exact .inl (.inr other)
    · split_ifs at csv with there
      · exact .inr (by rw [if_pos (kept there)]; exact csv)
      · cases csv
  fresh := by
    intro other member
    obtain rfl := List.mem_singleton.mp member
    exact named ▸ nextPilotId_notMem root.entries
  distinct := List.nodup_singleton _
  named := by
    intro other member
    obtain rfl := List.mem_singleton.mp member
    exact ⟨_, named⟩

end Opens

/-- The files with one more execution. -/
private theorem write_opened {execution metadata : PilotExecution}
    (named : metadata.executionId = nextPilotId root.entries) (same : execution.executionId = metadata.executionId) :
    (({ root with executions := root.executions ++ [execution] } : DataRoot).write metadata).executions =
      root.executions ++ [metadata] := by
  have kept : root.executions.map (fun execution =>
      if execution.executionId = metadata.executionId then metadata else execution) = root.executions := by
    refine (List.map_congr_left fun other present => if_neg fun taken => ?_).trans (List.map_id _)
    exact nextPilotId_notMem root.entries (named ▸ taken ▸ executionId_mem_entries present)
  rw [write, List.map_append, kept, List.map_singleton, if_pos same]

end DataRoot

/-- What a call of `run_once` can do. -/
inductive RunOnce (key : RunKey) (root : DataRoot) : DataRoot × Option PilotExecution → Prop
  | unopened (after : DataRoot) (opens : root.Opens after []) : RunOnce key root (after, none)
  | escaped (after : DataRoot) (execution : PilotExecution) (opens : root.Opens after [execution])
      (status : execution.runStatus ≠ some .invalid) : RunOnce key root (after, none)
  | returned (after : DataRoot) (execution : PilotExecution) (opens : root.Opens after [execution])
      (own : execution.key = key) (decided : execution.runStatus.isSome = true) :
      RunOnce key root (after, some execution)

theorem runOnce_cases (declared : String → String) (root : DataRoot) (planned : PlannedRun) (bench : BenchRun) :
    RunOnce (planned.key declared) root (runOnce declared root planned bench) := by
  rw [runOnce]
  cases bench.opening with
  | refused => exact .unopened root (.refl root)
  | unfinished =>
    refine .unopened _ ⟨by simp, by simp, ?_, by simp, List.nodup_nil, by simp⟩
    intro name member
    simp only [DataRoot.entries, List.mem_append] at member ⊢
    exact member.imp_left fun here => here.imp_right .inl
  | opened =>
    dsimp only
    generalize opening : (⟨nextPilotId root.entries, declared planned.scenario, planned.engine,
      some planned.repetition, none, none⟩ : PilotExecution) = metadata
    have named : metadata.executionId = nextPilotId root.entries := by rw [← opening]
    have own : metadata.key = planned.key declared := by rw [← opening]; rfl
    have open' : metadata.runStatus = none := by rw [← opening]
    have undecided : RunOnce (planned.key declared) root
        ({ root with executions := root.executions ++ [metadata] }, none) :=
      .escaped _ metadata (.one named rfl rfl (by simp [open'])) (by simp [open'])
    have marked : ∀ reason, RunOnce (planned.key declared) root
        (DataRoot.markInvalid { root with executions := root.executions ++ [metadata] } metadata reason) :=
      fun reason => .returned _ _ (.one named (DataRoot.write_opened named rfl) rfl rfl) own rfl
    cases bench.environment with
    | error raised =>
      dsimp only
      split_ifs
      · exact marked _
      · exact undecided
    | ok failures =>
      dsimp only
      split
      · exact undecided
      · exact undecided
      · exact marked _
      · rw [runScenario]
        cases bench.scenario with
        | error => exact undecided
        | ok outcome =>
          dsimp only
          split_ifs
          · exact marked _
          · exact .escaped _ { metadata with runStatus := some .valid, invalidReason := none }
              (.one named (DataRoot.write_opened named rfl) rfl rfl) (by simp)
          · exact .returned _ _ (.one named (DataRoot.write_opened named rfl) rfl rfl) own rfl

/-! ## Attempts -/

/-- The results of a planned run: each attempt but the last was invalid, and fewer than all only where the last was
valid. -/
structure Attempted (key : RunKey) (maxAttempts : ℕ) (results : List PilotExecution) : Prop where
  own : ∀ execution ∈ results, execution.key = key
  decided : ∀ execution ∈ results, execution.runStatus.isSome = true
  bounded : results.length ≤ maxAttempts
  repeated : ∀ execution ∈ results.dropLast, execution.runStatus = some .invalid
  stopped : results.length < maxAttempts → ∃ last, results.getLast? = some last ∧ last.runStatus = some .valid

namespace Attempted

variable {key : RunKey} {maxAttempts : ℕ} {execution : PilotExecution} {results : List PilotExecution}

theorem none (key : RunKey) : Attempted key 0 [] := ⟨by simp, by simp, Nat.le_refl _, by simp, by simp⟩

theorem valid (own : execution.key = key) (valid : execution.runStatus = some .valid) :
    Attempted key (maxAttempts + 1) [execution] :=
  ⟨by simpa using own, by simp [valid], by simp, by simp, fun _ => ⟨execution, rfl, valid⟩⟩

theorem again (attempted : Attempted key maxAttempts results) (own : execution.key = key)
    (invalid : execution.runStatus = some .invalid) : Attempted key (maxAttempts + 1) (execution :: results) where
  own := List.forall_mem_cons.mpr ⟨own, attempted.own⟩
  decided := List.forall_mem_cons.mpr ⟨by rw [invalid]; rfl, attempted.decided⟩
  bounded := Nat.succ_le_succ attempted.bounded
  repeated := by
    cases results with
    | nil => simp
    | cons next rest =>
      rw [List.dropLast_cons_cons]
      exact List.forall_mem_cons.mpr ⟨invalid, attempted.repeated⟩
  stopped short := by
    obtain ⟨last, ends, valid⟩ := attempted.stopped (Nat.lt_of_succ_lt_succ short)
    exact ⟨last, by rw [List.getLast?_cons, ends, Option.getD_some], valid⟩

end Attempted

/-- What a loop over `run_once` has done: the results it reports, and after an error at most one execution more, which
is in no list of invalid ones. -/
structure Batch.Reports (batch : Batch) (after : Batch × Bool) (results : List PilotExecution) : Prop where
  reported : after.1.results = batch.results ++ results
  opens : ∃ last : Option PilotExecution, batch.root.Opens after.1.root (results ++ last.toList) ∧
    (∀ execution ∈ last, execution.runStatus ≠ some .invalid) ∧ (after.2 = true → last = none)

namespace Batch

variable (declared : String → String) (bench : ℕ → BenchRun) (planned : PlannedRun)

/-- What comes before is reported as well. -/
theorem Reports.prepend {batch middle : Batch} {after : Batch × Bool} {first rest : List PilotExecution}
    (reported : middle.results = batch.results ++ first) (opens : batch.root.Opens middle.root first)
    (reports : middle.Reports after rest) : batch.Reports after (first ++ rest) where
  reported := by rw [reports.reported, reported, List.append_assoc]
  opens := by
    obtain ⟨last, more, rest⟩ := reports.opens
    exact ⟨last, by rw [List.append_assoc]; exact opens.trans more, rest⟩

/-- The attempts of a planned run. -/
theorem attempt_reports (attempts : ℕ) (batch : Batch) : ∃ results,
    batch.Reports (batch.attempt declared bench planned attempts) results ∧
      ((batch.attempt declared bench planned attempts).2 = true →
        Attempted (planned.key declared) attempts results) := by
  induction attempts generalizing batch with
  | zero => exact ⟨[], ⟨by simp [attempt], none, .refl _, by simp, fun _ => rfl⟩, fun _ => .none _⟩
  | succ attempts ih =>
    have ran := runOnce_cases declared batch.root planned (bench batch.calls)
    rw [attempt]
    generalize runOnce declared batch.root planned (bench batch.calls) = outcome at ran
    cases ran with
    | unopened after opens => exact ⟨[], ⟨by simp, none, opens, by simp, by simp⟩, by simp⟩
    | escaped after execution opens status =>
      exact ⟨[], ⟨by simp, some execution, opens, by simpa using status, by simp⟩, by simp⟩
    | returned after execution opens own decided =>
      dsimp only
      split_ifs with valid
      · exact ⟨[execution], ⟨rfl, none, opens, by simp, fun _ => rfl⟩, fun _ => .valid own valid⟩
      · have invalid : execution.runStatus = some .invalid := by
          obtain ⟨status, is⟩ := Option.isSome_iff_exists.mp decided
          cases status with
          | valid => exact absurd is valid
          | invalid => exact is
        obtain ⟨results, reports, attempted⟩ := ih ⟨after, batch.results ++ [execution], batch.calls + 1⟩
        exact ⟨execution :: results, .prepend rfl opens reports, fun finished => (attempted finished).again own invalid⟩

/-- The loop over the plan. -/
theorem run_reports (maxAttempts : ℕ) (plan : List PlannedRun) (batch : Batch) : ∃ blocks : List (List PilotExecution),
    batch.Reports (batch.run declared bench maxAttempts plan) blocks.flatten ∧
      ((batch.run declared bench maxAttempts plan).2 = true →
        List.Forall₂ (fun planned => Attempted (PlannedRun.key declared planned) maxAttempts) plan blocks) := by
  induction plan generalizing batch with
  | nil => exact ⟨[], ⟨by simp [run], none, .refl _, by simp, fun _ => rfl⟩, fun _ => .nil⟩
  | cons planned rest ih =>
    obtain ⟨results, reports, attempted⟩ := attempt_reports declared bench planned maxAttempts batch
    rw [run]
    generalize batch.attempt declared bench planned maxAttempts = outcome at reports attempted
    obtain ⟨middle, finished⟩ := outcome
    cases finished with
    | false => exact ⟨[results], by rw [List.flatten_singleton]; exact reports, by simp⟩
    | true =>
      obtain ⟨last, opens, -, gone⟩ := reports.opens
      rw [gone rfl, Option.toList_none, List.append_nil] at opens
      obtain ⟨blocks, more, settled⟩ := ih middle
      exact ⟨results :: blocks, by rw [List.flatten_cons]; exact .prepend reports.reported opens more,
        fun finished => .cons (attempted rfl) (settled finished)⟩

end Batch

/-! ## The whole batch -/

/-- The exit code is zero exactly where the last result of each key is valid. -/
theorem exitCode_eq_zero_iff (results : List PilotExecution) : exitCode results = 0 ↔
    ∀ key execution, lastWhere (fun execution : PilotExecution => execution.key = key) results = some execution →
      execution.runStatus = some .valid := by
  have final : ∀ key, (finalStatuses results).get? key =
      (lastWhere (fun execution : PilotExecution => execution.key = key) results).map (·.runStatus) := by
    intro key
    rw [finalStatuses, Dict.get?_foldl_set, Dict.get?_empty, Option.or_none]
  rw [exitCode, ite_eq_left_iff, imp_iff_not (by decide), not_not, List.all_eq_true]
  constructor
  · intro all key execution found
    have entry := Dict.get?_eq_some_iff.mp ((final key).trans (congrArg _ found))
    simpa using all _ entry
  · rintro valid ⟨key, status⟩ entry
    have found := (final key).symm.trans (Dict.get?_eq_some_iff.mpr entry)
    obtain ⟨execution, last, rfl⟩ := Option.map_eq_some_iff.mp found
    simpa using valid key execution last

/-- Whatever the bench does, and whatever `data/pilot` holds already: the executions a batch opens have identifiers of
their own that no earlier entry has, the earlier ones are left as they are, and exactly the invalid ones are added to
`invalid_runs.csv`. A batch that finishes has tried every run of its plan until it was valid or its attempts were spent,
and reports success exactly where the last attempt at every run was valid; a batch that an error stops leaves at most
one execution unreported. -/
theorem batch_accounts (declared : String → String) (bench : ℕ → BenchRun) (root : DataRoot) (args : BatchArguments) :
    ∃ (blocks : List (List PilotExecution)) (last : Option PilotExecution),
      (runExperiment declared bench root args).1.results = blocks.flatten ∧
      root.Opens (runExperiment declared bench root args).1.root (blocks.flatten ++ last.toList) ∧
      (∀ execution ∈ last, execution.runStatus ≠ some .invalid) ∧
      (∀ execution ∈ blocks.flatten ++ last.toList,
        checkMetadata (some execution.metadata) execution.executionId = some []) ∧
      ∀ code, (runExperiment declared bench root args).2 = some code → last = none ∧
        List.Forall₂ (fun planned => Attempted (PlannedRun.key declared planned) args.maxAttempts.toNat)
          (schedule args.scenarios args.engines args.repetitions args.firstRepetition) blocks ∧
        (code = 0 ↔ ∀ key execution, lastWhere (fun execution : PilotExecution => execution.key = key) blocks.flatten =
          some execution → execution.runStatus = some .valid) := by
  obtain ⟨blocks, ⟨reported, last, opens, unreported, gone⟩, attempted⟩ := Batch.run_reports declared
    bench args.maxAttempts.toNat
    (schedule args.scenarios args.engines args.repetitions args.firstRepetition) ⟨root, [], 0⟩
  rw [List.nil_append] at reported
  refine ⟨blocks, last, reported, opens, unreported, ?_, ?_⟩
  · intro execution member
    obtain ⟨number, named⟩ := opens.named execution member
    exact checkMetadata_pilotId execution named
  · intro code exits
    simp only [runExperiment, Option.ite_none_right_eq_some] at exits
    obtain ⟨finished, exits⟩ := exits
    refine ⟨gone finished, attempted finished, ?_⟩
    rw [← Option.some.inj exits, reported]
    exact exitCode_eq_zero_iff _

end OrchLab
