import OrchLab.Soundness.Orders.Repeats
import OrchLab.Soundness.Orders.Window
import OrchLab.Soundness.Orders.Timeouts
import OrchLab.Soundness.Orders.Renumbering

/-! # The latency a snapshot shows

The latency is measured from the latest request to the first unmarked row of the inventory behind it. Rows do
not name the request they answer, so a late reply to an older request ends the measurement, and a reply that
the broker flagged does not. What the snapshot shows is the latency of the latest request exactly when the row
it picks was recorded with the first reply to that request.
-/

namespace OrchLab

/-! ## What every row carries -/

namespace Move

variable {config : ExperimentConfig} {db : OrdersDb} {draw : Draw} {row row' : TaskRow} {cause : Cause}
  {columns : List EventColumns} {effects : List Effect} {opens : Bool}

/-- A row carries the attempt of its task, or of the event it records. -/
theorem columns_attempt (move : Move config db draw row cause row' columns effects opens) :
    ∀ event ∈ columns, event.attemptNumber = row'.attemptNumber ∨
      ∃ reply, cause = .message (.inventoryEvent reply) ∧ event.attemptNumber = reply.attemptNumber := by
  cases move <;> simp [messageColumns, internalColumns, requestColumns, requestOf, TaskRow.bumpSeq,
    TaskRow.setStatus, TaskRow.complete, TaskRow.fallBack]

end Move

/-- Attempts are counted from 1, and the row of a request says when it was published. -/
structure Dated (file : TaskFile) : Prop where
  attempts : ∀ row ∈ file.events, 1 ≤ row.attemptNumber
  published : ∀ row ∈ file.events, row.isRequest = true → ∃ request ∈ file.requests,
    row.messageId = some request.messageId ∧ row.publishedAt = some request.publishedAt

theorem reachable_dated {deployment : Deployment} {s : OrdersService}
    (reachable : (ordersMachine deployment).Reachable s) {task : TaskId} {file : TaskFile}
    (found : s.file? task = some file) : Dated file := by
  refine reachable_file ?_ ?_ reachable task file found
  · intro task _ now n _
    refine ⟨fun row member => ?_, fun row member asks => ?_⟩
    · obtain rfl := List.mem_singleton.mp member
      exact le_rfl
    · obtain rfl := List.mem_singleton.mp member
      cases asks
  · intro s label task file file' reachable found holds step
    have requested := reachable_requested reachable found
    have controlled := reachable_controlled reachable found
    cases step with
    | same => exact holds
    | closed | built | noted | declined => exact ⟨holds.attempts, holds.published⟩
    | moved draw cause row' columns effects opens point executed move happens =>
      have quiet_or_asks := move.quiet_or_asks happens.permitted happens.replies
      have attempt : 1 ≤ row'.attemptNumber := by
        rcases quiet_or_asks with quiet | asks
        · exact controlled.attempt_pos.trans quiet.attempt
        · exact asks.attempt ▸ controlled.attempt_pos
      refine ⟨fun row member => ?_, fun row member asks => ?_⟩
      · rcases List.mem_append.mp member with old | new
        · exact holds.attempts row old
        · rcases move.columns_attempt _ (mem_of_mem_numbered new) with same | ⟨reply, rfl, same⟩
          · rw [same]
            exact attempt
          · have about := move.message_taskId
            generalize file.point = openPoint at happens
            cases happens with
            | message _ _ _ promised =>
              have own := about.trans (OrdersService.taskId_of_file found)
              obtain ⟨request, asked, answers⟩ :=
                OrdersService.exists_request_of_deliverable found promised own
              rw [same, answers.2.2.2.1]
              exact (requested.bounded request asked).2.1
      · rcases List.mem_append.mp member with old | new
        · obtain ⟨request, asked, rest⟩ := holds.published row old asks
          refine ⟨request, ?_, rest⟩
          rw [TaskFile.requests_after]
          exact List.mem_append_left _ asked
        · rcases quiet_or_asks with quiet | asks'
          · exact absurd asks (not_isRequest_of_mem_numbered quiet.columns row new)
          · obtain ⟨decisionId, items, route, first, -, rfl, rfl, internal⟩ := asks'.request
            refine ⟨requestOf row' decisionId draw items, ?_, ?_⟩
            · rw [TaskFile.requests_after]
              exact List.mem_append_right _ (List.mem_singleton_self _)
            · rcases List.mem_append.mp (mem_of_mem_numbered new) with noted | published
              · simp [TaskEvent.isRequest, internal _ noted] at asks
              · have columns := List.mem_singleton.mp published
                exact ⟨congrArg EventColumns.messageId columns, congrArg EventColumns.publishedAt columns⟩

/-! ## Snapshots are always built -/

section Build

variable {deployment : Deployment} {s : OrdersService} {task : TaskId} {file : TaskFile}

/-- The row of the latest request says when the request was published. -/
theorem latestRequest_of_last (reachable : (ordersMachine deployment).Reachable s)
    (found : s.file? task = some file) {request : MessageEnvelope}
    (last : file.requests.getLast? = some request) :
    ∃ row, latestRequest file.events = some row ∧ row.messageId = some request.messageId ∧
      row.publishedAt = some request.publishedAt := by
  obtain ⟨row, latest, key⟩ := (reachable_requested reachable found).exists_latestRequest last
  have names : row.messageId = some request.messageId := congrArg RequestKey.messageId key
  obtain ⟨other, asked, also, published⟩ := (reachable_dated reachable found).published row
    (mem_of_lastWhere latest) (holds_of_lastWhere latest)
  have same : other = request := OrdersService.eq_of_messageId (reachable_ledger reachable) found asked
    (List.mem_of_getLast? last) (Option.some_inj.mp (also.symm.trans names))
  exact ⟨row, latest, names, same ▸ published⟩

/-- What the code measures for a task. -/
theorem latencyMs_of_reachable (reachable : (ordersMachine deployment).Reachable s)
    (found : s.file? task = some file) (now : Timestamp) :
    latencyMs file.events now = .ok (file.requests.getLast?.map fun request =>
      ((firstReplyRow file.events).elim now (·.recordedAt) - request.publishedAt).toNat) := by
  cases last : file.requests.getLast? with
  | none =>
    have keys := (reachable_requested reachable found).latestRequest_eq
    rw [last, Option.map_none, Option.map_eq_none_iff] at keys
    rw [latencyMs, keys]
    rfl
  | some request =>
    obtain ⟨row, latest, -, published⟩ := latestRequest_of_last reachable found last
    rw [latencyMs, firstReplyRow, latest]
    simp only [published, Option.bind_some, Option.map_some]

/-- A snapshot shows what the code measures. -/
theorem OrdersDb.latencyMs_of_build {db : OrdersDb} {config : ExperimentConfig} {seen : Observation}
    {state : SystemState} (built : db.build config task seen = .ok state) :
    latencyMs (db.trajectory task) seen.now = .ok state.service.latencyMs := by
  obtain ⟨row, latency, -, measured, -, rfl⟩ := exists_snapshot_of_build built
  exact measured

/-- In every reachable state of an execution, a snapshot of any task is built unless the clock runs behind its
creation. -/
theorem exists_build_of_reachable (reachable : (ordersMachine deployment).Reachable s)
    (execution : isExecutionId deployment.executionId = true) (config : ExperimentConfig)
    (found : s.file? task = some file) (seen : Observation) (elapsed : file.row.createdAt ≤ seen.now) :
    ∃ state, s.db.build config task seen = .ok state := by
  have controlled := reachable_controlled reachable found
  have dated := reachable_dated reachable found
  obtain ⟨known, -, trajectory, -⟩ := file?_eq_some_iff.mp found
  have latency := latencyMs_of_reachable reachable found seen.now
  rw [trajectory] at latency
  have positions := reachable_positions reachable found
  have window : ((s.db.recentEvents task config.context.recentEventsLimit).map fun event =>
      (⟨event.eventType, event.attemptNumber, event.eventSeq⟩ : RecentEvent)).all
        (fun event => 1 ≤ event.attemptNumber && 1 ≤ event.eventSeq) = true := by
    rw [OrdersDb.recentEvents_eq, distinctOccurrences_eq (reachable_ledger reachable) found, List.all_eq_true]
    intro event member
    obtain ⟨row, last, rfl⟩ := List.mem_map.mp member
    have occurs := List.mem_of_mem_drop last
    have position := List.mem_map_of_mem (f := fun row : TaskEvent => row.eventSeq) occurs
    rw [positions, List.mem_range'_1] at position
    have attempt := dated.attempts row (List.mem_of_mem_filter occurs)
    simp only [TaskEvent.shown, attempt, position.1, decide_true, Bool.and_self]
  have valid : ∀ latency redelivered, (snapshot config file.row latency redelivered
      (s.db.recentEvents task config.context.recentEventsLimit) seen).valid = true := by
    intro latency redelivered
    have positive : 1 ≤ config.messaging.maxAttempts := config.messaging.maxAttempts_pos
    simp only [SystemState.valid, snapshot, window, controlled.executionId, execution, controlled.eventSeq_pos,
      controlled.attempt_pos, positive, decide_true, Bool.and_self]
  cases built : s.db.build config task seen with
  | ok state => exact ⟨state, rfl⟩
  | error error =>
    rw [OrdersDb.build, known] at built
    simp only [latency, valid, and_true, Int.sub_nonneg_of_le elapsed, if_true, reduceCtorEq] at built

/-- What is sent is sent under a valid execution. -/
theorem execution_of_sent (reachable : (ordersMachine deployment).Reachable s)
    (found : s.file? task = some file) (sent : file.sent ≠ []) :
    isExecutionId deployment.executionId = true := by
  refine reachable_file (P := fun file => file.sent ≠ [] → isExecutionId deployment.executionId = true)
    ?_ ?_ reachable task file found sent
  · exact fun task _ now n _ none => absurd rfl none
  · intro s label task file file' reachable found holds step
    cases step with
    | same | closed | built | noted | declined => exact holds
    | moved draw cause row' columns effects opens point executed move happens =>
      intro nonempty
      have controlled := reachable_controlled reachable found
      generalize file.point = before at happens
      cases happens with
      | message message redelivered draw promised fresh =>
        obtain ⟨effect, earlier, about⟩ := exists_sent_of_deliverable promised
        refine holds (List.ne_nil_of_mem (a := effect) ?_)
        rw [(file?_eq_some_iff.mp found).2.2.2.2.2.1, List.mem_filter, decide_eq_true_eq, about,
          move.message_taskId]
        exact ⟨earlier, OrdersService.taskId_of_file found⟩
      | decision owner output decisionId draw state decision built task describes =>
        have valid := (reachable_coherent reachable).valid owner state built
        rw [← controlled.executionId, ← describes.executionId]
        exact state.executionId_of_valid valid
      | deadLetter =>
        have quiet : effects = [] := by cases move <;> rfl
        rw [TaskFile.after, quiet, List.append_nil] at nonempty
        exact holds nonempty

end Build

/-! ## The latency of the latest request -/

namespace OrdersService

/-- The first row that records a reply to a request. -/
def firstReplyTo (s : OrdersService) (request : MessageEnvelope) : Option TaskEvent :=
  s.db.taskEvents.rows.find? fun row => s.received.any fun event =>
    row.messageId = some event.messageId ∧ event.Answers request

/-- The latency of the latest request of a task, up to the first reply to it. -/
def latency (s : OrdersService) (task : TaskId) (now : Timestamp) : Option ℕ :=
  (s.requestsFor task).getLast?.map fun request =>
    ((s.firstReplyTo request).elim now (·.recordedAt) - request.publishedAt).toNat

/-- Every snapshot of the task shows the latency of its latest request. -/
def ShowsLatency (s : OrdersService) (config : ExperimentConfig) (task : TaskId) : Prop :=
  ∀ seen state, s.db.build config task seen = .ok state → state.service.latencyMs = s.latency task seen.now

/-- The first unmarked row of the inventory behind the latest request, if any, was recorded with the first reply
to that request, if any, or neither was recorded after the publication. -/
def RepliesInTurn (s : OrdersService) (task : TaskId) : Prop :=
  ∀ request, (s.requestsFor task).getLast? = some request →
    match firstReplyRow (s.db.trajectory task), s.firstReplyTo request with
    | none, none => True
    | some row, some reply => row.recordedAt = reply.recordedAt ∨
        row.recordedAt ≤ request.publishedAt ∧ reply.recordedAt ≤ request.publishedAt
    | _, _ => False

end OrdersService

/-- Two moments are equally far behind a third one if they are the same, or neither is behind it. -/
private theorem toNat_sub_eq_iff (a b start : ℤ) :
    (a - start).toNat = (b - start).toNat ↔ a = b ∨ a ≤ start ∧ b ≤ start := by
  omega

/-- Some moment is further behind than a given one. -/
private theorem exists_toNat_sub_ne (a start since : ℤ) :
    ∃ now, since ≤ now ∧ (now - start).toNat ≠ (a - start).toNat :=
  ⟨max since (max a start + 1), by omega, by omega⟩

theorem exists_file_of_requestsFor {deployment : Deployment} {s : OrdersService}
    (reachable : (ordersMachine deployment).Reachable s) {task : TaskId} {request : MessageEnvelope}
    (asked : request ∈ s.requestsFor task) : ∃ file, s.file? task = some file := by
  obtain ⟨effect, sent, -⟩ := List.mem_filterMap.mp asked
  obtain ⟨earlier, about⟩ := List.mem_filter.mp sent
  have known := ((reachable_coherent reachable).sent effect earlier).1
  rw [of_decide_eq_true about] at known
  obtain ⟨row, stored⟩ := Option.ne_none_iff_exists'.mp known
  obtain ⟨file, found, -⟩ := file?_of_task? stored
  exact ⟨file, found⟩

/-- Snapshots show the latency of the latest request exactly when replies are recorded in turn. -/
theorem shows_latency_iff {deployment : Deployment} {s : OrdersService}
    (reachable : (ordersMachine deployment).Reachable s) (config : ExperimentConfig) (task : TaskId) :
    s.ShowsLatency config task ↔ s.RepliesInTurn task := by
  constructor
  · intro shows request last
    obtain ⟨file, found⟩ := exists_file_of_requestsFor reachable (List.mem_of_getLast? last)
    have trajectory := (file?_eq_some_iff.mp found).2.2.1
    have requests := OrdersService.requestsFor_eq found
    have execution := execution_of_sent reachable found (by
      rintro none
      rw [requests, TaskFile.requests, none] at last
      cases last)
    have measured : ∀ now, file.row.createdAt ≤ now →
        ((firstReplyRow (s.db.trajectory task)).elim now (·.recordedAt) - request.publishedAt).toNat =
          ((s.firstReplyTo request).elim now (·.recordedAt) - request.publishedAt).toNat := by
      intro now elapsed
      obtain ⟨state, built⟩ := exists_build_of_reachable reachable execution config found
        (.calm now 0) elapsed
      have code := OrdersDb.latencyMs_of_build built
      rw [← trajectory, latencyMs_of_reachable reachable found, ← requests, last, shows _ _ built,
        OrdersService.latency, last] at code
      simpa [trajectory, Observation.calm] using code
    cases row : firstReplyRow (s.db.trajectory task) with
    | none =>
      cases reply : s.firstReplyTo request with
      | none => trivial
      | some reply' =>
        obtain ⟨now, later, apart⟩ :=
          exists_toNat_sub_ne reply'.recordedAt request.publishedAt file.row.createdAt
        have same := measured now later
        rw [row, reply] at same
        exact apart same
    | some row' =>
      cases reply : s.firstReplyTo request with
      | none =>
        obtain ⟨now, later, apart⟩ :=
          exists_toNat_sub_ne row'.recordedAt request.publishedAt file.row.createdAt
        have same := measured now later
        rw [row, reply] at same
        exact apart same.symm
      | some reply' =>
        have same := measured file.row.createdAt (Int.le_refl _)
        rw [row, reply] at same
        exact (toNat_sub_eq_iff ..).mp same
  · intro turn seen state built
    obtain ⟨row, known, -, -⟩ := OrdersDb.build_eq_ok built
    obtain ⟨file, found, rfl, -, -⟩ := file?_of_task? known
    have code := OrdersDb.latencyMs_of_build built
    rw [← (file?_eq_some_iff.mp found).2.2.1, latencyMs_of_reachable reachable found,
      ← OrdersService.requestsFor_eq found, Except.ok.injEq] at code
    rw [← code, OrdersService.latency]
    cases last : (s.requestsFor task).getLast? with
    | none => rfl
    | some request =>
      have here := turn request last
      rw [← (file?_eq_some_iff.mp found).2.2.1] at here
      rw [Option.map_some, Option.map_some]
      apply congrArg some
      cases row : firstReplyRow file.events with
      | none =>
        cases reply : s.firstReplyTo request with
        | none => rfl
        | some reply' => simp [row, reply] at here
      | some row' =>
        cases reply : s.firstReplyTo request with
        | none => simp [row, reply] at here
        | some reply' =>
          rw [row, reply] at here
          exact (toNat_sub_eq_iff ..).mpr here

/-! ## A measurement that ends too early -/

/-- A late failure of the first attempt ends the measurement of the retry. -/
theorem not_shows_latency : ¬∀ (deployment : Deployment) (s : OrdersService) (config : ExperimentConfig)
    (task : TaskId), (ordersMachine deployment).Reachable s → s.ShowsLatency config task := by
  intro claim
  obtain ⟨s, reachable, passes⟩ := Machine.exists_reachable_of_replay? (m := ordersMachine .pilot) lateReply
    (p := fun s => match s.db.build .pilot 1 (.calm 9000 9) with
      | .ok state => decide (state.service.latencyMs ≠ s.latency 1 9000)
      | .error _ => false) (by decide +kernel)
  cases built : s.db.build .pilot 1 (.calm 9000 9) with
  | error error => simp [built] at passes
  | ok state =>
    rw [built] at passes
    exact of_decide_eq_true passes (claim .pilot s .pilot 1 reachable (.calm 9000 9) state built)

/-- The equivalence after the late failure. -/
theorem shows_latency_iff_pilot : ∃ s, (ordersMachine .pilot).Reachable s ∧
    (s.ShowsLatency .pilot 1 ↔ s.RepliesInTurn 1) := by
  obtain ⟨s, reachable, -⟩ := Machine.exists_reachable_of_replay? (m := ordersMachine .pilot) lateReply
    (p := fun s => decide (s.latestReplied 1)) (by decide +kernel)
  exact ⟨s, reachable, shows_latency_iff reachable .pilot 1⟩

end OrchLab
