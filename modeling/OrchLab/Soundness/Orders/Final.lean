import OrchLab.Soundness.Orders.Transactions

/-! # Finished tasks

Ten updates change a task row, each behind a guard of its own. Whatever is delivered, decided or dead
lettered in whatever order, the order of a task follows its status, the last result is `ok` exactly when the
task is completed, and a finished task keeps its columns: its trajectory takes events of the inventory and
dead letters only, and nothing is requested for it.
-/

namespace OrchLab

/-- The order of a task follows its status, and so does the result `ok`. -/
structure TaskRow.Mirrored (row : TaskRow) (order : Option OrderRow) : Prop where
  order : order.map (·.status) = some (orderStatusFor row.status)
  lastResult : row.lastResult = some .ok ↔ row.status = .completed

/-- Every task has an order of its own number, and is mirrored in it. -/
structure OrdersDb.Mirrored (db : OrdersDb) : Prop where
  orderId : ∀ task row, db.task? task = some row → row.orderId = task
  mirrored : ∀ task row, db.task? task = some row → row.Mirrored (db.order? row.orderId)

namespace Move

variable {config : ExperimentConfig} {db : OrdersDb} {draw : Draw} {row row' : TaskRow} {cause : Cause}
  {columns : List EventColumns} {effects : List Effect} {opens : Bool}

/-- Only a completion writes `ok`, and nothing is written after it. -/
theorem lastResult (move : Move config db draw row cause row' columns effects opens)
    (before : row.lastResult = some .ok ↔ row.status = .completed) :
    row'.lastResult = some .ok ↔ row'.status = .completed := by
  have alive : row.status.terminal = false → row.lastResult ≠ some .ok := by
    intro alive written
    rw [before.mp written] at alive
    cases alive
  cases move with
  | repeated | inert | waitOver | deadLetterLogged => exact before
  | completed => exact iff_of_true rfl rfl
  | failed event payload redelivered task fresh type running =>
    refine iff_of_false ?_ fun completed => ?_
    · change some (failureResult payload.failureReason event.target) ≠ some .ok
      rw [failureResult]
      split_ifs
      · simp
      · cases payload.failureReason <;> simp [FailureReason.result]
    · change row.status = .completed at completed
      rw [completed] at running
      cases running
  | timedOut request running =>
    refine iff_of_false ?_ fun completed => ?_
    · change some (timeoutResult row.currentTarget) ≠ some .ok
      rw [timeoutResult]
      split_ifs <;> simp
    · change row.status = .completed at completed
      rw [completed] at running
      cases running
  | retryDispatched _ _ _ retrying => exact iff_of_false (alive (by rw [retrying]; rfl)) (by rintro ⟨⟩)
  | continued _ _ _ _ status =>
    refine iff_of_false (alive ?_) (by rintro ⟨⟩)
    rcases status with status | status <;> rw [status] <;> rfl
  | retried _ _ _ running | waited _ _ _ running | fellBack _ _ _ _ _ _ running | aborted _ _ _ running
  | deadLettered _ _ running => exact iff_of_false (alive running) (by rintro ⟨⟩)

/-- The order of a mirrored task follows its move. -/
theorem mirrored {order : Option OrderRow} (move : Move config db draw row cause row' columns effects opens)
    (before : row.Mirrored order) :
    row'.Mirrored (if row'.status.terminal ≠ row.status.terminal then
      order.map (·.setStatus (orderStatusFor row'.status) row'.updatedAt) else order) := by
  refine ⟨?_, move.lastResult before.lastResult⟩
  split_ifs with ends
  · obtain ⟨placed, here, -⟩ := Option.map_eq_some_iff.mp before.order
    rw [here]
    rfl
  · rw [before.order, move.orderStatusFor_eq (not_not.mp ends)]

end Move

namespace OrdersDb

variable {config : ExperimentConfig} {db : OrdersDb}

theorem mirrored_empty : OrdersDb.empty.Mirrored where
  orderId _ _ found := by cases found
  mirrored _ _ found := by cases found

/-- A transaction keeps every task mirrored. -/
theorem Mirrored.perform (holds : db.Mirrored) (transaction : Transaction) :
    (db.perform config transaction).1.Mirrored := by
  have performs := perform_cases config db transaction
  generalize (db.perform config transaction).1 = after, (db.perform config transaction).2 = returned at performs ⊢
  cases performs with
  | unchanged => exact holds
  | created _ _ now _ number creates =>
    constructor
    · intro task row found
      rw [creates.task?] at found
      split_ifs at found with new
      · obtain rfl := Option.some_inj.mp found
        exact new.symm
      · exact holds.orderId task row found
    · intro task row found
      rw [creates.task?] at found
      rw [creates.order?]
      split_ifs at found with new
      · obtain rfl := Option.some_inj.mp found
        exact ⟨congrArg (Option.map OrderRow.status) (if_pos rfl), by simp [TaskRow.created]⟩
      · rw [if_neg (by rwa [holds.orderId task row found])]
        exact holds.mirrored task row found
  | moved _ cause row row' columns opens _ _ caused about move commits =>
    have own := holds.orderId row.taskId row commits.found
    constructor
    · intro task other found
      rw [commits.task?] at found
      split_ifs at found with same
      · obtain rfl := Option.some_inj.mp found
        rw [move.keeps.orderId, own, same]
      · exact holds.orderId task other found
    · intro task other found
      rw [commits.task?] at found
      rw [commits.order?]
      split_ifs at found with same
      · obtain rfl := Option.some_inj.mp found
        have mirrored := move.mirrored (holds.mirrored row.taskId row commits.found)
        simp only [move.keeps.orderId, true_and]
        exact mirrored
      · rw [if_neg fun both => same ?_]
        · exact holds.mirrored task other found
        · rw [← holds.orderId task other found, both.1, own]

theorem Mirrored.performAll (holds : db.Mirrored) (transactions : List Transaction) :
    (db.performAll config transactions).1.Mirrored :=
  performAll_invariant (fun _ transaction before => before.perform transaction) holds transactions

end OrdersDb

/-! ## What a finished task keeps -/

/-- The columns a finished task keeps; only its position and the time of its last update move. -/
structure TaskRow.Frozen (row row' : TaskRow) : Prop where
  taskId : row'.taskId = row.taskId
  orderId : row'.orderId = row.orderId
  status : row'.status = row.status
  attemptNumber : row'.attemptNumber = row.attemptNumber
  waitCount : row'.waitCount = row.waitCount
  fallbackUsed : row'.fallbackUsed = row.fallbackUsed
  currentTarget : row'.currentTarget = row.currentTarget
  lastResult : row'.lastResult = row.lastResult

namespace TaskRow.Frozen

variable {row row' row'' : TaskRow}

theorem refl (row : TaskRow) : row.Frozen row := ⟨rfl, rfl, rfl, rfl, rfl, rfl, rfl, rfl⟩

theorem trans (first : row.Frozen row') (second : row'.Frozen row'') : row.Frozen row'' where
  taskId := second.taskId.trans first.taskId
  orderId := second.orderId.trans first.orderId
  status := second.status.trans first.status
  attemptNumber := second.attemptNumber.trans first.attemptNumber
  waitCount := second.waitCount.trans first.waitCount
  fallbackUsed := second.fallbackUsed.trans first.fallbackUsed
  currentTarget := second.currentTarget.trans first.currentTarget
  lastResult := second.lastResult.trans first.lastResult

theorem bumpSeq (row : TaskRow) (now : Timestamp) : row.Frozen (row.bumpSeq now) :=
  ⟨rfl, rfl, rfl, rfl, rfl, rfl, rfl, rfl⟩

end TaskRow.Frozen

/-- What transactions leave of a finished task: its row frozen, the status of its order, its trajectory with
events of the inventory and dead letters behind it, and no request for it. -/
structure TaskRow.Kept (row : TaskRow) (db : OrdersDb) (after : OrdersDb × List Returned) : Prop where
  frozen : ∃ row', after.1.task? row.taskId = some row' ∧ row.Frozen row'
  order : (after.1.order? row.orderId).map (·.status) = (db.order? row.orderId).map (·.status)
  trajectory : ∃ added, after.1.trajectory row.taskId = db.trajectory row.taskId ++ added ∧
    ∀ event ∈ added, event.service = .inventory ∨ event.eventType = .messageDeadLettered
  unrequested : ∀ returned ∈ after.2, ∀ request ∈ returned.effects.filterMap Effect.request?,
    request.taskId ≠ row.taskId

namespace TaskRow.Kept

variable {config : ExperimentConfig} {db db' db'' : OrdersDb} {row row' : TaskRow}

theorem nil (found : db.task? row.taskId = some row) : row.Kept db (db, []) where
  frozen := ⟨row, found, .refl row⟩
  order := rfl
  trajectory := ⟨[], (List.append_nil _).symm, by simp⟩
  unrequested := by simp

/-- What is kept at first and then stays is kept. -/
theorem append {first second : List Returned} (kept : row.Kept db (db', first)) (frozen : row.Frozen row')
    (later : row'.Kept db' (db'', second)) : row.Kept db (db'', first ++ second) := by
  obtain ⟨⟨last, found, still⟩, order, ⟨added, rows, only⟩, quiet⟩ := later
  obtain ⟨more, before, only'⟩ := kept.trajectory
  rw [frozen.taskId] at found rows quiet
  rw [frozen.orderId] at order
  constructor
  · exact ⟨last, found, frozen.trans still⟩
  · exact order.trans kept.order
  · refine ⟨more ++ added, ?_, ?_⟩
    · rw [rows, before, List.append_assoc]
    · exact List.forall_mem_append.mpr ⟨only', only⟩
  · exact List.forall_mem_append.mpr ⟨kept.unrequested, quiet⟩

/-- A transaction keeps a finished task. -/
theorem perform (mirrored : db.Mirrored) (found : db.task? row.taskId = some row)
    (settled : row.status.terminal = true) (transaction : Transaction) :
    row.Kept db ((db.perform config transaction).1, [(db.perform config transaction).2]) := by
  have performs := perform_cases config db transaction
  generalize (db.perform config transaction).1 = after, (db.perform config transaction).2 = returned at performs ⊢
  have silent : returned.effects = [] → ∀ result ∈ [returned],
      ∀ request ∈ result.effects.filterMap Effect.request?, request.taskId ≠ row.taskId := by
    intro quiet result member
    obtain rfl := List.mem_singleton.mp member
    simp [quiet]
  have own := mirrored.orderId row.taskId row found
  cases performs with
  | unchanged _ _ quiet => exact ⟨⟨row, found, .refl row⟩, rfl, ⟨[], by simp⟩, silent quiet⟩
  | created _ _ now _ number creates =>
    have other : row.taskId ≠ number := by
      intro same
      rw [same, creates.absent] at found
      cases found
    constructor
    · exact ⟨row, by rwa [creates.task?, if_neg other], .refl row⟩
    · rw [creates.order?, if_neg (by rwa [own])]
    · exact ⟨[], by rw [creates.trajectory, if_neg other, List.append_nil], by simp⟩
    · exact silent rfl
  | moved _ cause mover moved columns opens _ _ caused about move commits =>
    by_cases same : mover.taskId = row.taskId
    · obtain rfl : mover = row := by
        have here := commits.found
        rw [same, found] at here
        exact (Option.some_inj.mp here).symm
      obtain ⟨still, quiet, only⟩ := move.of_terminal settled
      constructor
      · refine ⟨moved, commits.task?_self, ?_⟩
        rcases still with rfl | rfl
        · exact .refl _
        · exact .bumpSeq _ _
      · rw [commits.order?, if_neg (by simp [move.status_of_terminal settled])]
      · refine ⟨_, by rw [commits.trajectory, if_pos rfl], fun event member => ?_⟩
        exact only _ (mem_of_mem_numbered member)
      · exact silent quiet
    · have apart : row.taskId ≠ mover.taskId := Ne.symm same
      constructor
      · exact ⟨row, by rwa [commits.task?, if_neg apart], .refl row⟩
      · rw [commits.order?, if_neg fun both => apart ?_]
        rw [← own, both.1, mirrored.orderId mover.taskId mover commits.found]
      · exact ⟨[], by rw [commits.trajectory, if_neg apart, List.append_nil], by simp⟩
      · intro result member request asked
        obtain rfl := List.mem_singleton.mp member
        rcases move.requests with none | ⟨only, is, -, theirs⟩
        · rw [none] at asked
          cases asked
        · rw [is] at asked
          obtain rfl := List.mem_singleton.mp asked
          rw [theirs]
          exact same

/-- A run of transactions keeps a finished task. -/
theorem performAll (mirrored : db.Mirrored) (found : db.task? row.taskId = some row)
    (settled : row.status.terminal = true) (transactions : List Transaction) :
    row.Kept db (db.performAll config transactions) := by
  induction transactions generalizing db row with
  | nil => exact .nil found
  | cons transaction rest ih =>
    have first : row.Kept db ((db.perform config transaction).1, [(db.perform config transaction).2]) :=
      perform mirrored found settled transaction
    obtain ⟨row', found', frozen⟩ := first.frozen
    rw [← frozen.taskId] at found'
    exact first.append frozen (ih (mirrored.perform transaction) found' (by rwa [frozen.status]))

end TaskRow.Kept

/-- From any reachable state, whatever transactions follow: every task is mirrored in its order, and a task
that is finished stays as it is. -/
theorem finished_is_final {deployment : Deployment} {s : OrdersService}
    (reachable : (ordersMachine deployment).Reachable s) (transactions : List Transaction) :
    (s.db.performAll deployment.config transactions).1.Mirrored ∧
      ∀ task row, s.db.task? task = some row → row.status.terminal = true →
        row.Kept s.db (s.db.performAll deployment.config transactions) := by
  obtain ⟨earlier, same⟩ := exists_performAll_of_reachable reachable
  have mirrored : s.db.Mirrored := same ▸ OrdersDb.mirrored_empty.performAll earlier
  refine ⟨mirrored.performAll transactions, fun task row found settled => ?_⟩
  rw [← OrdersDb.taskId_of_task? found] at found
  exact .performAll mirrored found settled transactions

/-- The first request succeeds. -/
def firstCompleted : List OrdersLabel :=
  firstDispatch ++ [.consume (.inventoryEvent (firstReply 20 (.succeeded ⟨1, .primary⟩))) false ⟨11, 100⟩]

/-- A stale abort and a dead letter reach a completed task. -/
theorem finished_is_final_pilot : ∃ s row, (ordersMachine .pilot).Reachable s ∧
    s.db.task? 1 = some row ∧ row.status = .completed ∧
    row.Kept s.db (s.db.performAll Deployment.pilot.config
      [.execute 1 2 ⟨.abort, none, "INVALID_DATA", by decide, by decide⟩ ⟨12, 200⟩,
        .deadLetter ⟨none, some 1, none, none, none, none⟩ 300]) := by
  obtain ⟨s, reachable, passes⟩ : ∃ s, (ordersMachine .pilot).Reachable s ∧
      ((s.db.task? 1).any fun row => row.status = .completed) = true :=
    Machine.exists_reachable_of_replay? firstCompleted (by decide +kernel)
  obtain ⟨row, found, completed⟩ := (Option.any_eq_true _ _).mp passes
  have status := of_decide_eq_true completed
  exact ⟨s, row, reachable, found, status,
    (finished_is_final reachable _).2 1 row found (by rw [status]; rfl)⟩

end OrchLab
