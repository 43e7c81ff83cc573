import OrchLab.Model.Scripts.Collect
import OrchLab.Soundness.Orders.Results

/-! # The exported trajectories

Every row of the log is of the execution of the deployment, so the export leaves none out; sorted by task and
number, the rows of one task are its trajectory, which starts with its creation and has no other.
-/

namespace OrchLab

namespace Move

variable {config : ExperimentConfig} {db : OrdersDb} {draw : Draw} {row row' : TaskRow} {cause : Cause}
  {columns : List EventColumns} {effects : List Effect} {opens : Bool}

/-- A move appends rows of the execution of its task or of the event it handles, and none creates a task. -/
theorem columns_executionId (move : Move config db draw row cause row' columns effects opens) :
    ∀ event ∈ columns, event.eventType ≠ .taskCreated ∧ (event.executionId = row.executionId ∨
      ∃ reply, cause = .message (.inventoryEvent reply) ∧ event.executionId = reply.executionId) := by
  have created : ∀ event : MessageEnvelope, event.eventType ≠ .taskCreated := by
    intro event
    rcases eventType_of_message event with type | type | type <;> simp [type]
  cases move <;> simp [messageColumns, internalColumns, requestColumns, requestOf, TaskRow.bumpSeq,
    TaskRow.complete, TaskRow.setLastResult, TaskRow.setStatus, TaskRow.dispatchTo, TaskRow.retry, TaskRow.wait,
    TaskRow.fallBack, created]

theorem requests_executionId (move : Move config db draw row cause row' columns effects opens) :
    ∀ request ∈ effects.filterMap Effect.request?, request.executionId = row.executionId := by
  cases move <;> simp [requestEffects, requestOf, Effect.request?, List.filterMap_cons, TaskRow.bumpSeq,
    TaskRow.setStatus, TaskRow.dispatchTo, TaskRow.fallBack]

end Move

/-- What is recorded of a task is of the execution of the deployment, and starts with its creation. -/
structure Recorded (deployment : Deployment) (file : TaskFile) : Prop where
  row : file.row.executionId = deployment.executionId
  requests : ∀ request ∈ file.requests, request.executionId = deployment.executionId
  events : ∀ event ∈ file.events, event.executionId = deployment.executionId
  created : ∃ first rest, file.events = first :: rest ∧ first.eventType = .taskCreated ∧
    first.recordedAt = file.row.createdAt ∧ ∀ event ∈ rest, event.eventType ≠ .taskCreated

theorem reachable_recorded {deployment : Deployment} {s : OrdersService}
    (reachable : (ordersMachine deployment).Reachable s) {task : TaskId} {file : TaskFile}
    (found : s.file? task = some file) : Recorded deployment file := by
  refine reachable_file ?_ ?_ reachable task file found
  · rintro task _ now n -
    refine ⟨rfl, by simp [TaskFile.requests, TaskFile.created], ?_, _, [], rfl, rfl, rfl, by simp⟩
    simp [TaskFile.created, numbered, OrdersDb.taskCreatedColumns]
  · intro s label task file file' reachable found holds step
    cases step with
    | same => exact holds
    | closed | built | noted | declined => exact ⟨holds.row, holds.requests, holds.events, holds.created⟩
    | moved draw cause row' columns effects opens point executed move happens =>
      constructor
      · exact move.keeps.executionId.trans holds.row
      · intro request asked
        rw [TaskFile.requests_after] at asked
        rcases List.mem_append.mp asked with old | new
        · exact holds.requests request old
        · exact (move.requests_executionId request new).trans holds.row
      · refine List.forall_mem_append.mpr ⟨holds.events, fun event added => ?_⟩
        rcases (move.columns_executionId _ (mem_of_mem_numbered added)).2 with own | ⟨reply, rfl, same⟩
        · exact own.trans holds.row
        · have about := move.message_taskId
          generalize file.point = before at happens
          cases happens with
          | message _ _ _ promised =>
            obtain ⟨request, asked, answers⟩ := OrdersService.exists_request_of_deliverable found promised
              (about.trans (OrdersService.taskId_of_file found))
            rw [same, answers.1, holds.requests request asked]
      · obtain ⟨first, rest, events, type, recorded, only⟩ := holds.created
        refine ⟨first, rest ++ numbered s.db.taskEvents.rows.length columns, ?_, type,
          recorded.trans move.keeps.createdAt.symm, ?_⟩
        · rw [TaskFile.after, events, List.cons_append]
        · refine List.forall_mem_append.mpr ⟨only, fun event added => ?_⟩
          exact (move.columns_executionId _ (mem_of_mem_numbered added)).1

/-- Every row is of a task, and of the execution of the deployment. -/
theorem executionId_of_mem_rows {deployment : Deployment} {s : OrdersService}
    (reachable : (ordersMachine deployment).Reachable s) {event : TaskEvent}
    (member : event ∈ s.db.taskEvents.rows) : event.executionId = deployment.executionId := by
  obtain ⟨row, known⟩ := Option.ne_none_iff_exists'.mp ((reachable_ledger reachable).events event member)
  obtain ⟨file, found, -, -, events⟩ := file?_of_task? known
  refine (reachable_recorded reachable found).events event ?_
  rw [events]
  exact OrdersDb.mem_trajectory.mpr ⟨member, rfl⟩

/-- The exported rows of a task are its trajectory. -/
theorem filter_exportTaskEvents {deployment : Deployment} {s : OrdersService}
    (reachable : (ordersMachine deployment).Reachable s) (task : TaskId) :
    (exportTaskEvents deployment.executionId s.db).filter (·.taskId = task) =
      (s.db.trajectory task).map taskEventRecord := by
  have all : s.db.taskEvents.rows.filter (fun row => row.executionId = deployment.executionId) =
      s.db.taskEvents.rows :=
    List.filter_eq_self.mpr fun row member => by simpa using executionId_of_mem_rows reachable member
  rw [exportTaskEvents, all, List.filter_map, OrdersDb.trajectory]
  congr 1
  refine filter_sortOn exportKey (fun row : TaskEvent => decide (row.taskId = task)) ?_
  refine ((EventLog.pairwise_eventId _).filter _).imp_of_mem fun {earlier later} here there increases => ?_
  have own := of_decide_eq_true (List.mem_filter.mp here).2
  have also := of_decide_eq_true (List.mem_filter.mp there).2
  refine Prod.Lex.toLex_le_toLex.mpr (.inr ⟨?_, increases.le⟩)
  rw [own, also]

end OrchLab
