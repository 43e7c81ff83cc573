import OrchLab.Soundness.Orders.Results
import OrchLab.ToMathlib.Pairwise
import Mathlib.Data.List.Perm.Subperm

/-! # Bounded work

The limits are checked on a snapshot only, but a decision uses up part of a budget that the row keeps:
the first dispatch, the fallback, an attempt or a wait, and once the end of the task. So whatever the
engine proposes and however messages arrive, a task has a bounded number of decisions and requests.
-/

namespace OrchLab

/-- The decisions a row accounts for: the first dispatch, the retries, the waits and the fallback. -/
def TaskRow.budgetSpent (row : TaskRow) : ℕ :=
  row.currentTarget.isSome.toNat + (row.attemptNumber - 1) + row.waitCount + row.fallbackUsed.toNat

/-- What the two actions that happen once leave on the row. -/
def Action.spent : Action → TaskRow → Bool
  | .continueFlow, row => row.currentTarget.isSome
  | .fallback, row => row.fallbackUsed
  | _, _ => true

namespace Move

variable {config : ExperimentConfig} {db : OrdersDb} {draw : Draw} {row row' : TaskRow} {cause : Cause}
  {columns : List EventColumns} {effects : List Effect} {opens : Bool}

theorem spent_mono (move : Move config db draw row cause row' columns effects opens) (action : Action)
    (spent : action.spent row = true) : action.spent row' = true := by
  cases action with
  | retry | wait | abort => rfl
  | continueFlow | fallback => cases move <;> first | rfl | exact spent

theorem budgetSpent_mono (move : Move config db draw row cause row' columns effects opens) :
    row.budgetSpent ≤ row'.budgetSpent := by
  cases move with
  | continued decision decisionId items action status target =>
    simp [TaskRow.budgetSpent, TaskRow.bumpSeq, TaskRow.dispatchTo, target]
  | retried =>
    simp only [TaskRow.budgetSpent, TaskRow.bumpSeq, TaskRow.retry]
    omega
  | waited =>
    simp only [TaskRow.budgetSpent, TaskRow.bumpSeq, TaskRow.wait]
    omega
  | fellBack decision decisionId items route action target live unused =>
    have some_target := Bool.toNat_le row.currentTarget.isSome
    simp only [TaskRow.budgetSpent, TaskRow.bumpSeq, TaskRow.fallBack, unused, Option.isSome_some,
      Bool.toNat_true, Bool.toNat_false]
    omega
  | _ => exact le_rfl

/-- A decision that leaves the task alive spends part of its budget. -/
theorem budgetSpent_lt {decision : Decision} {decisionId : DecisionId}
    (move : Move config db draw row (.decision decision decisionId) row' columns effects opens)
    (attempt : 1 ≤ row.attemptNumber) (alive : row'.status.terminal = false) :
    row.budgetSpent < row'.budgetSpent := by
  cases move with
  | continued decision decisionId items action status target =>
    simp [TaskRow.budgetSpent, TaskRow.bumpSeq, TaskRow.dispatchTo, target]
  | retried =>
    simp only [TaskRow.budgetSpent, TaskRow.bumpSeq, TaskRow.retry]
    omega
  | waited =>
    simp only [TaskRow.budgetSpent, TaskRow.bumpSeq, TaskRow.wait]
    omega
  | fellBack decision decisionId items route action target live unused =>
    have some_target := Bool.toNat_le row.currentTarget.isSome
    simp only [TaskRow.budgetSpent, TaskRow.bumpSeq, TaskRow.fallBack, unused, Option.isSome_some,
      Bool.toNat_true, Bool.toNat_false]
    omega
  | aborted => cases alive

/-- A decision point is opened for a live task. -/
theorem alive_of_opens (move : Move config db draw row cause row' columns effects true) :
    row.status.terminal = false := by
  cases move with
  | failed _ _ _ _ _ _ alive _ | timedOut _ alive _ _ => exact alive
  | waitOver waiting => simp [waiting, TaskStatus.terminal]

/-- A decision that happens once spends what it needs. -/
theorem spends {decision : Decision} {decisionId : DecisionId}
    (move : Move config db draw row (.decision decision decisionId) row' columns effects opens) :
    decision.action.spent row' = true := by
  cases move with
  | continued _ _ _ action | retried _ _ action | waited _ _ action | fellBack _ _ _ _ action
  | aborted _ _ action => rw [action]; rfl

end Move

/-- A row on which an action may happen has not spent it. -/
theorem Permits.unspent {config : ExperimentConfig} {row : TaskRow} {decision : Decision}
    (permits : Permits config row decision)
    (once : decision.action = .continueFlow ∨ decision.action = .fallback) :
    decision.action.spent row = false := by
  rw [Permits] at permits
  rcases once with action | action <;> simp only [action] at permits ⊢
  · simp [Action.spent, permits]
  · exact permits.1

/-- The decisions of a task that the executor was given. -/
def OrdersService.executedFor (s : OrdersService) (task : TaskId) : List Execution :=
  s.executed.filter (·.taskId = task)

namespace TaskFile

/-- How many times an action was given to the executor. -/
def times (file : TaskFile) (action : Action) : ℕ := file.executed.countP (·.decision.action = action)

/-- How many decisions were taken on a snapshot that was not terminal. -/
def decided (file : TaskFile) : ℕ := file.executed.countP (!·.phase.terminal)

/-- The task may still be decided on. -/
def open_ (file : TaskFile) : Bool := !file.row.status.terminal || file.point ≠ .closed

end TaskFile

/-- A snapshot agrees with its row on what is spent, also when a dead letter has ended the task. -/
theorem reachable_seen {deployment : Deployment} {s : OrdersService}
    (reachable : (ordersMachine deployment).Reachable s) {task : TaskId} {file : TaskFile}
    (found : s.file? task = some file) {state : SystemState} (built : file.point = .built state) :
    state.task.currentTarget = file.row.currentTarget ∧
      state.alternatives.fallbackUsed = file.row.fallbackUsed := by
  refine reachable_file (P := fun file => ∀ state, file.point = .built state →
    state.task.currentTarget = file.row.currentTarget ∧
      state.alternatives.fallbackUsed = file.row.fallbackUsed) ?_ ?_ reachable task file found state built
  · exact fun _ _ _ _ _ _ built => DecisionPoint.noConfusion built
  · intro s label task file file' reachable found holds step state built
    cases step with
    | same | noted => exact holds state built
    | closed | declined => cases built
    | built seen opened describes =>
      obtain rfl : seen = state := DecisionPoint.built.inj built
      exact ⟨describes.target, describes.fallbackUsed⟩
    | moved draw cause row' columns effects opens point executed move happens =>
      generalize before : file.point = openPoint at happens
      cases happens with
      | message => cases opens <;> cases built
      | decision => cases built
      | deadLetter letter now =>
        obtain ⟨target, used⟩ := holds state (before.trans built)
        cases move <;> exact ⟨target, used⟩

/-- At a decision point of a live task nothing the executor is given raises. -/
theorem not_declined {deployment : Deployment} {s : OrdersService}
    (reachable : (ordersMachine deployment).Reachable s) {task : TaskId} {file : TaskFile}
    (found : s.file? task = some file) {state : SystemState} {decision : Decision} {decisionId : DecisionId}
    {draw : Draw} (alive : file.row.status.terminal = false)
    (describes : state.Describes deployment.config file.row) (valid : state.valid = true)
    (approved : state.Approves decision ∨ decision.action = .abort) :
    ∀ error, s.db.execute deployment.config file.row.taskId decisionId draw decision ≠ .error error := by
  have holds := reachable_controlled reachable found
  have own := OrdersService.taskId_of_file found
  obtain ⟨row, order, -⟩ := file?_eq_some_iff.mp found
  rw [order] at holds
  have executionId := state.executionId_of_valid valid
  rw [describes.executionId] at executionId
  obtain ⟨-, db', messages, effects, executed⟩ := OrdersDb.execute_of_permits decisionId
    draw row holds executionId alive (permits_of_describes describes approved)
  intro error raised
  rw [own, executed] at raised
  cases raised

/-- The executed decisions of a task are within what its row accounts for. -/
structure Tallied (file : TaskFile) : Prop where
  once : ∀ action, action = .continueFlow ∨ action = .fallback → file.times action ≤ 1 ∧
    (action.spent file.row = false → file.open_ = true → file.times action = 0)
  decided : file.decided ≤ file.row.budgetSpent + if file.open_ then 0 else 1

namespace Tallied

variable {file : TaskFile}

/-- Nothing is executed, and what is closed stays closed. -/
private theorem of_quiet (holds : Tallied file) {file' : TaskFile} (executed : file'.executed = file.executed)
    (spent : ∀ action : Action, action.spent file.row = true → action.spent file'.row = true)
    (budget : file.row.budgetSpent ≤ file'.row.budgetSpent) (opened : file'.open_ = true → file.open_ = true) :
    Tallied file' := by
  have times : ∀ action, file'.times action = file.times action := fun action => by
    rw [TaskFile.times, executed, TaskFile.times]
  refine ⟨fun action which => ⟨(times action).trans_le (holds.once action which).1, fun unspent isOpen => ?_⟩, ?_⟩
  · refine (times action).trans ((holds.once action which).2 ?_ (opened isOpen))
    cases before : action.spent file.row with
    | false => rfl
    | true => simp [spent action before] at unspent
  · rw [TaskFile.decided, executed]
    refine holds.decided.trans ?_
    cases before : file.open_ with
    | true => simpa using budget.trans (Nat.le_add_right _ _)
    | false =>
      have after : file'.open_ = false := by
        cases after : file'.open_ with
        | false => rfl
        | true => simp [opened after] at before
      simpa [after] using budget

/-- One decision is executed at the open point of the task. -/
private theorem of_execution (holds : Tallied file) {file' : TaskFile} {execution : Execution}
    (executed : file'.executed = file.executed ++ [execution]) (isOpen : file.open_ = true)
    (unspent : execution.decision.action = .continueFlow ∨ execution.decision.action = .fallback →
      execution.decision.action.spent file.row = false)
    (spends : file'.open_ = true → execution.decision.action.spent file'.row = true)
    (spent : ∀ action : Action, action.spent file.row = true → action.spent file'.row = true)
    (budget : file.row.budgetSpent + 1 ≤ file'.row.budgetSpent + if file'.open_ then 0 else 1) :
    Tallied file' := by
  refine ⟨fun action which => ?_, ?_⟩
  · have times : file'.times action =
        file.times action + if execution.decision.action = action then 1 else 0 := by
      rw [TaskFile.times, executed, List.countP_append, TaskFile.times]
      simp [List.countP_cons]
    obtain ⟨at_most, none⟩ := holds.once action which
    by_cases same : execution.decision.action = action
    · subst same
      rw [times, none (unspent which) isOpen]
      refine ⟨by simp, fun free opened => ?_⟩
      simp [spends opened] at free
    · rw [times, if_neg same]
      refine ⟨at_most, fun free opened => none ?_ isOpen⟩
      cases before : action.spent file.row with
      | false => rfl
      | true => simp [spent action before] at free
  · have more : file'.decided ≤ file.decided + 1 := by
      rw [TaskFile.decided, executed, List.countP_append, TaskFile.decided]
      exact Nat.add_le_add_left (List.countP_le_length.trans_eq rfl) _
    have before := holds.decided
    rw [if_pos isOpen] at before
    omega

end Tallied

/-- The decisions executed for any task are within its budget. -/
theorem reachable_tallied {deployment : Deployment} {s : OrdersService}
    (reachable : (ordersMachine deployment).Reachable s) {task : TaskId} {file : TaskFile}
    (found : s.file? task = some file) : Tallied file := by
  refine reachable_file ?_ ?_ reachable task file found
  · intro task _ now n _
    exact ⟨fun _ _ => ⟨Nat.zero_le _, fun _ _ => rfl⟩, Nat.zero_le _⟩
  · intro s label task file file' reachable found holds step
    have controlled := reachable_controlled reachable found
    cases step with
    | same => exact holds
    | closed busy =>
      refine holds.of_quiet rfl (fun _ => id) le_rfl fun _ => ?_
      simp [TaskFile.open_, busy]
    | built state opened =>
      refine holds.of_quiet rfl (fun _ => id) le_rfl fun _ => ?_
      simp [TaskFile.open_, opened]
    | noted => exact holds.of_quiet rfl (fun _ => id) le_rfl id
    | declined owner output decisionId draw state decision labels built seen valid resolved approved refused =>
      have isOpen : file.open_ = true := by simp [TaskFile.open_, built]
      have settled : file.row.status.terminal = true := by
        by_contra alive
        rw [Bool.not_eq_true] at alive
        obtain ⟨error, raised⟩ := refused.resolve_right (by simp [alive])
        exact not_declined reachable found alive (seen.resolve_left (by simp [alive])) valid approved error
          raised
      have shut : ∀ executed, ({ file with point := .closed, executed } : TaskFile).open_ = false := by
        simp [TaskFile.open_, settled]
      refine holds.of_execution rfl isOpen (fun once => ?_) (fun opened => ?_) (fun _ => id) ?_
      · obtain ⟨target, used⟩ := reachable_seen reachable found built
        have approves := approved.resolve_right (by rcases once with once | once <;>
          simp [Execution.of] at once <;> simp [once])
        rcases once with once | once <;> simp only [Execution.of] at once ⊢ <;>
          simp only [SystemState.Approves, once] at approves ⊢
        · simp [Action.spent, ← target, approves.2]
        · simp [Action.spent, ← used, approves.2.1]
      · simp [shut] at opened
      · simp [shut]
    | moved draw cause row' columns effects opens point executed move happens =>
      have alive_before : row'.status.terminal = false → file.row.status.terminal = false := by
        intro alive
        cases before : file.row.status.terminal with
        | false => rfl
        | true => rw [move.status_of_terminal before, before] at alive; cases alive
      generalize before : file.point = openPoint at happens
      cases happens with
      | message message redelivered draw promised fresh =>
        refine holds.of_quiet (List.append_nil _) move.spent_mono move.budgetSpent_mono fun opened => ?_
        cases opens with
        | true => simp [TaskFile.open_, move.alive_of_opens]
        | false =>
          have alive : row'.status.terminal = false := by simpa [TaskFile.open_, TaskFile.after] using opened
          simp [TaskFile.open_, alive_before alive]
      | decision owner output decisionId draw state decision built own describes resolved permits =>
        refine holds.of_execution rfl (by simp [TaskFile.open_, before]) permits.unspent
          (fun _ => move.spends) move.spent_mono ?_
        cases settled : row'.status.terminal with
        | true => simpa [TaskFile.open_, TaskFile.after, settled] using move.budgetSpent_mono
        | false =>
          simpa [TaskFile.open_, TaskFile.after, settled, Nat.succ_le_iff] using
            move.budgetSpent_lt controlled.attempt_pos settled
      | deadLetter letter now =>
        have settled := move.terminal_of_deadLetter
        refine holds.of_quiet (List.append_nil _) move.spent_mono move.budgetSpent_mono fun opened => ?_
        have busy : point ≠ .closed := by simpa [TaskFile.open_, TaskFile.after, settled] using opened
        simp [TaskFile.open_, before, busy]

/-! ## Requests -/

private theorem length_le_of_increasing {l : List ℕ} {n : ℕ} (increasing : l.Pairwise (· < ·))
    (bounded : ∀ k ∈ l, 1 ≤ k ∧ k ≤ n) : l.length ≤ n := by
  have distinct : l.Nodup := increasing.imp fun less => less.ne
  have within : l ⊆ List.range' 1 n := fun k member => by
    obtain ⟨low, high⟩ := bounded k member
    exact List.mem_range'_1.mpr ⟨low, by omega⟩
  simpa using (List.subperm_of_subset distinct within).length_le

namespace Requested

variable {file : TaskFile}

/-- No two requests on the primary route are of the same attempt. -/
theorem length_primary_le (holds : Requested file) :
    (file.requests.filter (·.target = some .inventoryPrimary)).length ≤ file.row.attemptNumber := by
  have increasing := (holds.spread.filter (·.target = some .inventoryPrimary)).imp_of_mem
    fun _ later spread => spread.2 (by simpa using (List.mem_filter.mp later).2)
  rw [← List.length_map (·.attemptNumber)]
  refine length_le_of_increasing (List.pairwise_map.mpr increasing) ?_
  simp only [List.mem_map, List.mem_filter]
  rintro _ ⟨request, ⟨member, -⟩, rfl⟩
  exact (holds.bounded request member).2

theorem length_other_le (holds : Requested file) :
    (file.requests.filter fun request => !decide (request.target = some .inventoryPrimary)).length ≤ 1 := by
  refine length_le_one_of_pairwise (holds.spread.filter _) fun request member _ _ spread => ?_
  simp [spread.1] at member

end Requested

/-! ## The bounds -/

/-- What a configuration allows one task. -/
structure BoundedWork (config : ExperimentConfig) (s : OrdersService) (row : TaskRow) : Prop where
  attempts : row.attemptNumber ≤ config.messaging.maxAttempts
  waits : row.waitCount ≤ config.messaging.maxWaits
  continues : (s.executedFor row.taskId).countP (·.decision.action = .continueFlow) ≤ 1
  fallbacks : (s.executedFor row.taskId).countP (·.decision.action = .fallback) ≤ 1
  requests : (s.requestsFor row.taskId).length ≤ config.messaging.maxAttempts + 1
  toFallback : (s.publishedTo row.taskId .inventoryFallback).length ≤ 1
  fallbackLast : ∀ before request after, s.requestsFor row.taskId = before ++ request :: after →
    request ∈ s.publishedTo row.taskId .inventoryFallback → after = []
  decisions : (s.executedFor row.taskId).countP (!·.phase.terminal) ≤
    config.messaging.maxAttempts + config.messaging.maxWaits + 2

/-- Every task of every reachable state is within its bounds. -/
theorem work_bounded {deployment : Deployment} {s : OrdersService}
    (reachable : (ordersMachine deployment).Reachable s) {task : TaskId} {row : TaskRow}
    (found : s.db.task? task = some row) : BoundedWork deployment.config s row := by
  obtain ⟨file, here, rfl, -, -⟩ := file?_of_task? found
  have own := OrdersService.taskId_of_file here
  have controlled := reachable_controlled reachable here
  have requested := reachable_requested reachable here
  have tallied := reachable_tallied reachable here
  have executed : s.executedFor file.row.taskId = file.executed := by
    rw [own, OrdersService.executedFor, (file?_eq_some_iff.mp here).2.2.2.2.2.2]
  have requests : s.requestsFor file.row.taskId = file.requests := by
    rw [own, OrdersService.requestsFor_eq here]
  have toFallback : s.publishedTo file.row.taskId .inventoryFallback =
      file.requests.filter (·.target = some .inventoryFallback) := by
    rw [own, OrdersService.publishedTo_eq requested here]
  refine ⟨controlled.attempt_le, controlled.waits_le, ?_, ?_, ?_, ?_, ?_, ?_⟩
  · rw [executed]
    exact (tallied.once .continueFlow (.inl rfl)).1
  · rw [executed]
    exact (tallied.once .fallback (.inr rfl)).1
  · rw [requests, List.length_eq_length_filter_add fun request => request.target = some .inventoryPrimary]
    exact Nat.add_le_add (requested.length_primary_le.trans controlled.attempt_le) requested.length_other_le
  · rw [toFallback]
    refine length_le_one_of_pairwise (requested.spread.filter _) fun request member _ _ spread => ?_
    simp [spread.1] at member
  · rw [requests, toFallback]
    intro before request after split member
    have spread := requested.spread
    rw [split, List.pairwise_append] at spread
    cases after with
    | nil => rfl
    | cons next rest =>
      have first := (List.rel_of_pairwise_cons spread.2.1 (List.mem_cons_self ..)).1
      simp [first] at member
  · rw [executed]
    refine tallied.decided.trans ?_
    have dispatched := Bool.toNat_le file.row.currentTarget.isSome
    have used := Bool.toNat_le file.row.fallbackUsed
    have attempt := controlled.attempt_le
    have waits := controlled.waits_le
    have positive := deployment.config.messaging.maxAttempts_pos
    rw [TaskRow.budgetSpent]
    split_ifs <;> omega

/-- The bounds of a task after its first dispatch. -/
theorem work_bounded_pilot : ∃ s row, (ordersMachine .pilot).Reachable s ∧ s.db.task? 1 = some row ∧
    row.status = .dispatched ∧ BoundedWork Deployment.pilot.config s row := by
  obtain ⟨s, reachable, passes⟩ := Machine.exists_reachable_of_replay? (m := ordersMachine .pilot)
    firstDispatch (p := fun s => (s.db.task? 1).any (·.status = .dispatched)) (by decide +kernel)
  obtain ⟨row, found, status⟩ := (Option.any_eq_true _ _).mp passes
  exact ⟨s, row, reachable, found, of_decide_eq_true status, work_bounded reachable found⟩

end OrchLab
