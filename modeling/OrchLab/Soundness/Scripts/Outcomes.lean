import OrchLab.Model.Scripts.Consolidate
import OrchLab.Soundness.Orders.Final
import OrchLab.Soundness.Scripts.Export

/-! # The outcomes the analysis sees

The analysis reads the outcome of a task off the first closing event of its trajectory. A trajectory has
none while its task is alive, and the transaction that ends the task records one for the status it sets;
whatever is recorded afterwards comes behind it.
-/

namespace OrchLab

/-- The closing events of a trajectory, with their times. -/
def closings (events : List TaskEvent) : List (Timestamp × TaskStatus) :=
  events.filterMap fun event => (terminalEvent? event.eventType).map fun status => (event.recordedAt, status)

theorem closings_append (events added : List TaskEvent) :
    closings (events ++ added) = closings events ++ closings added := List.filterMap_append

namespace Move

variable {config : ExperimentConfig} {db : OrdersDb} {draw : Draw} {row row' : TaskRow} {cause : Cause}
  {columns : List EventColumns} {effects : List Effect} {opens : Bool}

/-- The rows of a move are recorded at its time. -/
theorem columns_recordedAt (move : Move config db draw row cause row' columns effects opens) :
    columns ≠ [] ∧ ∀ event ∈ columns, event.recordedAt = draw.now := by
  cases move <;> simp [messageColumns, internalColumns, requestColumns]

/-- A move of a task that is alive records a closing event exactly when it ends the task. -/
theorem closings_numbered (move : Move config db draw row cause row' columns effects opens)
    (alive : row.status.terminal = false) (n : ℕ) : closings (numbered n columns) =
      if row'.status.terminal then [(draw.now, row'.status)] else [] := by
  have quiet : ∀ event : MessageEnvelope, terminalEvent? event.eventType = none := by
    intro event
    rcases eventType_of_message event with type | type | type <;> rw [type] <;> rfl
  have ends : terminalEvent? .taskCompleted = some .completed := rfl
  have schedules : terminalEvent? .fallbackScheduled = none := rfl
  cases move with
  | repeated => simp [closings, numbered, messageColumns, quiet, alive]
  | inert => simp [closings, numbered, messageColumns, quiet, TaskRow.bumpSeq, alive]
  | failed => simp [closings, numbered, messageColumns, quiet, TaskRow.bumpSeq, TaskRow.setLastResult, alive]
  | completed =>
    simp [closings, numbered, messageColumns, internalColumns, quiet, ends, TaskRow.bumpSeq, TaskRow.complete,
      TaskStatus.terminal]
  | timedOut =>
    simp [closings, numbered, internalColumns, terminalEvent?, TaskRow.bumpSeq, TaskRow.setLastResult, alive]
  | waitOver => simp [closings, numbered, internalColumns, terminalEvent?, TaskRow.bumpSeq, alive]
  | retryDispatched | continued =>
    simp [closings, numbered, requestColumns, messageColumns, quiet, TaskRow.bumpSeq, TaskRow.setStatus,
      TaskRow.dispatchTo, TaskStatus.terminal]
  | retried | waited =>
    simp [closings, numbered, internalColumns, terminalEvent?, TaskRow.bumpSeq, TaskRow.retry, TaskRow.wait,
      TaskStatus.terminal]
  | fellBack =>
    simp [closings, numbered, internalColumns, requestColumns, messageColumns, quiet, schedules,
      TaskRow.bumpSeq, TaskRow.fallBack, TaskStatus.terminal]
  | aborted | deadLettered =>
    simp [closings, numbered, internalColumns, terminalEvent?, TaskRow.bumpSeq, TaskRow.setStatus,
      TaskStatus.terminal]
  | deadLetterLogged _ _ settled => rw [settled] at alive; cases alive

end Move

/-- The first closing event of a task is for its status, and there is none while it is alive. -/
theorem reachable_closings {deployment : Deployment} {s : OrdersService}
    (reachable : (ordersMachine deployment).Reachable s) {task : TaskId} {file : TaskFile}
    (found : s.file? task = some file) : (closings file.events).head?.map Prod.snd =
      if file.row.status.terminal then some file.row.status else none := by
  refine reachable_file (P := fun file => (closings file.events).head?.map Prod.snd =
    if file.row.status.terminal then some file.row.status else none) ?_ ?_ reachable task file found
  · rintro task _ now n -
    rfl
  · intro s label task file file' reachable found holds step
    cases step with
    | same | closed | built | noted | declined => exact holds
    | moved draw cause row' columns effects opens point executed move happens =>
      rw [TaskFile.after, closings_append]
      cases settled : file.row.status.terminal with
      | true =>
        rw [settled, if_pos rfl] at holds
        obtain ⟨first, head, same⟩ := Option.map_eq_some_iff.mp holds
        rw [List.head?_append, head, Option.some_or, Option.map_some, same, move.status_of_terminal settled,
          settled, if_pos rfl]
      | false =>
        rw [settled, if_neg Bool.false_ne_true, Option.map_eq_none_iff, List.head?_eq_none_iff] at holds
        rw [holds, List.nil_append, move.closings_numbered settled]
        split_ifs <;> rfl

/-! ## The moment a task ends -/

/-- The task is in a terminal status. -/
def OrdersDb.finished (db : OrdersDb) (task : TaskId) : Bool := (db.task? task).any (·.status.terminal)

/-- At this moment a transaction that records its rows at `now` ends the task. -/
def Finishes (deployment : Deployment) (task : TaskId) (now : Timestamp) (moment : OrdersService × OrdersLabel) :
    Prop :=
  moment.1.db.finished task = false ∧ ∃ t added, moment.1.step deployment moment.2 = some t ∧
    t.db.finished task = true ∧ t.db.trajectory task = moment.1.db.trajectory task ++ added ∧ added ≠ [] ∧
    ∀ event ∈ added, event.recordedAt = now

/-- A task ends by a transaction on it. -/
theorem exists_finishes {deployment : Deployment} {s t : OrdersService} {label : OrdersLabel} {task : TaskId}
    (reachable : (ordersMachine deployment).Reachable s)
    (offered : (ordersMachine deployment).admissible s label)
    (step : (ordersMachine deployment).step s label = some t) (alive : ¬s.db.finished task = true)
    (ended : t.db.finished task = true) : ∃ now, Finishes deployment task now (s, label) := by
  obtain ⟨row', found, settled⟩ := (Option.any_eq_true _ _).mp ended
  obtain ⟨file', here, rfl, -, events⟩ := file?_of_task? found
  rcases step_file reachable offered step here with ⟨request, now, -, -, rfl⟩ | ⟨file, before, moves⟩
  · cases settled
  · have running : s.db.finished task = file.row.status.terminal := by
      rw [OrdersDb.finished, (file?_eq_some_iff.mp before).1, Option.any_some]
    rw [running] at alive
    cases moves with
    | same | closed | built | noted | declined => exact absurd settled alive
    | moved draw cause row' columns effects opens point executed move happens =>
      obtain ⟨nonempty, recorded⟩ := move.columns_recordedAt
      refine ⟨draw.now, running.trans (Bool.eq_false_iff.mpr alive), t,
        numbered s.db.taskEvents.rows.length columns, step, ended, ?_, ?_, ?_⟩
      · rw [← events, ← (file?_eq_some_iff.mp before).2.2.1]
        rfl
      · intro none
        rw [← List.length_eq_zero_iff, length_numbered, List.length_eq_zero_iff] at none
        exact nonempty none
      · exact fun event added => recorded _ (mem_of_mem_numbered added)

/-- A task that is alive, or does not exist, has no closing event. -/
theorem closings_of_alive {deployment : Deployment} {s : OrdersService}
    (reachable : (ordersMachine deployment).Reachable s) {task : TaskId} (alive : s.db.finished task = false) :
    closings (s.db.trajectory task) = [] := by
  cases known : s.db.task? task with
  | none =>
    rw [(reachable_ledger reachable).trajectory_of_absent known]
    rfl
  | some row =>
    obtain ⟨file, found, rfl, -, events⟩ := file?_of_task? known
    rw [OrdersDb.finished, known, Option.any_some] at alive
    have none := reachable_closings reachable found
    rw [alive, if_neg Bool.false_ne_true, Option.map_eq_none_iff, List.head?_eq_none_iff] at none
    rwa [← events]

/-- A finished task has one, for its status. -/
theorem closings_of_finished {deployment : Deployment} {s : OrdersService}
    (reachable : (ordersMachine deployment).Reachable s) {task : TaskId} {row : TaskRow}
    (known : s.db.task? task = some row) (settled : row.status.terminal = true) :
    (closings (s.db.trajectory task)).head?.map Prod.snd = some row.status := by
  obtain ⟨file, found, rfl, -, events⟩ := file?_of_task? known
  rw [← events, reachable_closings reachable found, settled, if_pos rfl]

/-- The time of the first closing event stays. -/
theorem closings_of_step {deployment : Deployment} {s t : OrdersService} {label : OrdersLabel} {task : TaskId}
    {first : Timestamp × TaskStatus} (closed : (closings (s.db.trajectory task)).head? = some first)
    (step : (ordersMachine deployment).step s label = some t) :
    (closings (t.db.trajectory task)).head? = some first := by
  obtain ⟨added, rows⟩ := exists_rows_of_step step
  rw [OrdersDb.trajectory, rows, List.filter_append, closings_append, List.head?_append]
  rw [OrdersDb.trajectory] at closed
  rw [closed, Option.some_or]

/-- The first closing event is recorded by the transaction that ends the task. -/
theorem closing_iff {deployment : Deployment} {moments : List (OrdersService × OrdersLabel)} {s : OrdersService}
    (run : (ordersMachine deployment).Run moments s) (task : TaskId) (now : Timestamp) :
    (closings (s.db.trajectory task)).head?.map Prod.fst = some now ↔
      ∃ moment ∈ moments, Finishes deployment task now moment := by
  have recorded : ∀ now, (∃ moment ∈ moments, Finishes deployment task now moment) →
      (closings (s.db.trajectory task)).head?.map Prod.fst = some now := by
    rintro now ⟨moment, member, alive, t, added, step, ended, rows, -, stamped⟩
    refine run.of_step_stable (P := fun s => (closings (s.db.trajectory task)).head?.map Prod.fst = some now)
      ?_ member ?_
    · rintro s l t - closed - step
      obtain ⟨first, head, same⟩ := Option.map_eq_some_iff.mp closed
      rw [closings_of_step head step, Option.map_some, same]
    · intro t' step'
      obtain rfl : t = t' := Option.some_inj.mp (step.symm.trans step')
      have unclosed := closings_of_alive (run.reachable_of_mem member) alive
      obtain ⟨row, known, settled⟩ := (Option.any_eq_true _ _).mp ended
      have closed := closings_of_finished ((run.reachable_of_mem member).snoc (run.admissible_of_mem member) step)
        known settled
      rw [rows, closings_append, unclosed, List.nil_append] at closed ⊢
      obtain ⟨first, head, -⟩ := Option.map_eq_some_iff.mp closed
      obtain ⟨event, here, closes⟩ := List.mem_filterMap.mp (List.mem_of_head? head)
      obtain ⟨status, -, rfl⟩ := Option.map_eq_some_iff.mp closes
      rw [head, Option.map_some, stamped event here]
  refine ⟨fun closed => ?_, recorded now⟩
  have ended : s.db.finished task = true := by
    by_contra alive
    rw [closings_of_alive run.reachable (Bool.eq_false_iff.mpr alive)] at closed
    cases closed
  obtain ⟨moment, member, alive, offered, t, step, ends⟩ := run.exists_turn (P := fun s => s.db.finished task = true)
    (by rintro ⟨⟩) ended
  obtain ⟨time, finishes⟩ := exists_finishes (run.reachable_of_mem member) offered step alive ends
  have also := recorded time ⟨moment, member, finishes⟩
  obtain rfl : now = time := Option.some_inj.mp (closed.symm.trans also)
  exact ⟨moment, member, finishes⟩

/-! ## The outcomes of a run -/

/-- The outcome says what became of the task in the run: when it was created, its status once it is terminal,
and the time of the transaction that ended it. -/
structure TaskOutcome.Reports (deployment : Deployment) (moments : List (OrdersService × OrdersLabel))
    (outcome : TaskOutcome) (row : TaskRow) : Prop where
  createdAt : outcome.createdAt = row.createdAt
  status : outcome.status = if row.status.terminal then some row.status else none
  finishedAt : ∀ now, outcome.finishedAt = some now ↔
    ∃ moment ∈ moments, Finishes deployment outcome.taskId now moment

section Scan

variable {deployment : Deployment} {s : OrdersService} (reachable : (ordersMachine deployment).Reachable s)
include reachable

theorem closing_get? (task : TaskId) :
    (OutcomeScan.of (exportTaskEvents deployment.executionId s.db)).terminal.get? task =
      (closings (s.db.trajectory task)).head? := by
  rw [OutcomeScan.terminal_get?, filter_exportTaskEvents reachable, List.filterMap_map, ← List.head?_map,
    List.map_filterMap, closings]
  congr 2
  funext event
  simp only [Function.comp_apply, OutcomeScan.closing?, Option.map_map]
  rfl

/-- A task is created in the export when its row was. -/
theorem created_get? (task : TaskId) :
    (OutcomeScan.of (exportTaskEvents deployment.executionId s.db)).created.get? task =
      (s.db.task? task).map (·.createdAt) := by
  rw [OutcomeScan.created_get?, filter_exportTaskEvents reachable]
  cases known : s.db.task? task with
  | none =>
    rw [(reachable_ledger reachable).trajectory_of_absent known]
    rfl
  | some row =>
    obtain ⟨file, found, rfl, -, events⟩ := file?_of_task? known
    obtain ⟨first, rest, rows, type, recorded, -⟩ := (reachable_recorded reachable found).created
    have creation : OutcomeScan.created? (taskEventRecord first) = some (first.taskId, first.recordedAt) := by
      rw [OutcomeScan.created?]
      exact if_pos type
    rw [← events, rows, List.map_cons, List.filterMap_cons_some creation, List.head?_cons, Option.map_some,
      Option.map_some, recorded]

end Scan

/-- In every run, the outcomes computed from the exported events are those of the tasks of the database, one
for each, and every one of them reports its task. -/
theorem outcomes_reported {deployment : Deployment} {moments : List (OrdersService × OrdersLabel)}
    {s : OrdersService} (run : (ordersMachine deployment).Run moments s) (decisions : List DecisionRecord) :
    ((taskOutcomes (exportTaskEvents deployment.executionId s.db) decisions).map (·.taskId)).Perm
        (s.db.tasks.rows.map (·.taskId)) ∧
      ∀ outcome ∈ taskOutcomes (exportTaskEvents deployment.executionId s.db) decisions,
        ∃ row, s.db.task? outcome.taskId = some row ∧ outcome.Reports deployment moments row := by
  have reachable := run.reachable
  constructor
  · refine (taskId_taskOutcomes _ _).trans ?_
    refine (List.perm_ext_iff_of_nodup (OutcomeScan.of _).created.unique s.db.tasks.unique).mpr fun task => ?_
    have created := created_get? reachable task
    rw [Table.mem_map_key, Table.mem_map_key, ne_eq, ← Dict.get?_eq_none_iff, created, Option.map_eq_none_iff]
    rfl
  · intro outcome member
    obtain ⟨⟨task, createdAt⟩, listed, rfl⟩ := List.mem_map.mp member
    rw [mem_sortOn, ← Dict.get?_eq_some_iff, created_get? reachable] at listed
    obtain ⟨row, known, rfl⟩ := Option.map_eq_some_iff.mp listed
    refine ⟨row, known, rfl, ?_, fun now => ?_⟩
    · change Option.map Prod.snd _ = _
      rw [closing_get? reachable]
      split_ifs with settled
      · exact closings_of_finished reachable known settled
      · rw [closings_of_alive reachable (by rw [OrdersDb.finished, known]; simpa using settled)]
        rfl
    · change Option.map Prod.fst _ = _ ↔ _
      rw [closing_get? reachable, closing_iff run]
      rfl

/-- An order that succeeds and one that is abandoned; the dead letter of the first comes after its end. -/
def twoOutcomes : List OrdersLabel :=
  firstCompleted ++ [.deadLetter ⟨none, some 1, none, none, none, none⟩ 150, .createOrder .single 200]

/-- The first task finished at its completion, not at the dead letter, and the second has not finished. -/
theorem outcomes_reported_pilot : ∃ moments s, (ordersMachine .pilot).Run moments s ∧
    (s.db.task? 1).map (·.status) = some .completed ∧ (s.db.task? 2).map (·.status) = some .pending ∧
    ∀ outcome ∈ taskOutcomes (exportTaskEvents Deployment.pilot.executionId s.db) [],
      ∃ row, s.db.task? outcome.taskId = some row ∧ outcome.Reports .pilot moments row := by
  obtain ⟨s, run, passes⟩ := Machine.exists_run_of_replay? (m := ordersMachine .pilot) twoOutcomes
    (p := fun s => decide ((s.db.task? 1).map (·.status) = some .completed ∧
      (s.db.task? 2).map (·.status) = some .pending)) (by decide +kernel)
  have statuses := of_decide_eq_true passes
  exact ⟨_, s, run, statuses.1, statuses.2, (outcomes_reported run []).2⟩

end OrchLab
