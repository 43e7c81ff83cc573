import OrchLab.Soundness.Orders.Approval

/-! # Results and decision points

A result is written for the latest request of a task, by its reply or by its timeout, and either opens a
decision point. So at a decision point, and while waiting for one, the last result is one the current
route can have: none before the first dispatch, and only a failed fallback or invalid data on the
fallback route.
-/

namespace OrchLab

/-! ## Replies and the requests they answer -/

namespace OrdersService

variable {s : OrdersService} {task : TaskId} {file : TaskFile}

theorem requests_of_file (found : s.file? task = some file) :
    file.requests = s.requests.filter (·.taskId = task) := by
  obtain ⟨-, -, -, -, -, sent, -⟩ := file?_eq_some_iff.mp found
  rw [TaskFile.requests, sent, requests, List.filterMap_filter, List.filter_filterMap]
  refine List.filterMap_congr fun effect _ => ?_
  cases effect with
  | publish envelope route =>
    by_cases same : envelope.taskId = task <;> simp [Effect.taskId, Effect.request?, same, Option.filter]
  | _ => simp [Effect.request?]

/-- What answers a request of a task answers one in its file. -/
theorem mem_requests_of_answers (found : s.file? task = some file) {event request : MessageEnvelope}
    (asked : request ∈ s.requests) (answers : event.Answers request) (own : event.taskId = task) :
    request ∈ file.requests := by
  rw [requests_of_file found]
  exact List.mem_filter.mpr ⟨asked, by simpa using answers.2.1.symm.trans own⟩

/-- The identifier of a request names it. -/
theorem eq_of_messageId (ledger : Ledger s) (found : s.file? task = some file) {request other : MessageEnvelope}
    (here : request ∈ file.requests) (there : other ∈ file.requests)
    (same : request.messageId = other.messageId) : request = other := by
  rw [requests_of_file found] at here there
  exact List.inj_on_of_nodup_map ledger.requests (List.mem_of_mem_filter here) (List.mem_of_mem_filter there) same

theorem exists_request_of_deliverable (found : s.file? task = some file) {event : MessageEnvelope}
    (promised : s.deliverable (.inventoryEvent event)) (own : event.taskId = task) :
    ∃ request ∈ file.requests, event.Answers request := by
  obtain ⟨⟨request, asked, answers⟩, -⟩ := promised
  exact ⟨request, mem_requests_of_answers found asked answers own, answers⟩

theorem exists_request_of_received (ledger : Ledger s) (found : s.file? task = some file)
    {event : MessageEnvelope} (member : event ∈ file.received) :
    ∃ request ∈ file.requests, event.Answers request := by
  obtain ⟨-, -, -, -, received, -⟩ := file?_eq_some_iff.mp found
  rw [received] at member
  obtain ⟨here, own⟩ := List.mem_filter.mp member
  obtain ⟨request, asked, answers⟩ := ledger.answers event here
  exact ⟨request, mem_requests_of_answers found asked answers (of_decide_eq_true own), answers⟩

/-- What was received is older than the position of the task. -/
theorem eventSeq_le_of_received {deployment : Deployment} (reachable : (ordersMachine deployment).Reachable s)
    (found : s.file? task = some file) :
    ∀ event ∈ file.received, event.eventSeq ≤ file.row.currentEventSeq := by
  intro event member
  obtain ⟨request, asked, answers⟩ := exists_request_of_received (reachable_ledger reachable) found member
  exact answers.2.2.1 ▸ ((reachable_requested reachable found).bounded request asked).1

end OrdersService

namespace Requested

variable {file : TaskFile}

/-- The position of a request names it. -/
theorem eq_of_eventSeq (holds : Requested file) {request other : MessageEnvelope}
    (here : request ∈ file.requests) (there : other ∈ file.requests)
    (same : request.eventSeq = other.eventSeq) : request = other := by
  have apart : (file.requests.map (·.eventSeq)).Nodup :=
    List.pairwise_map.mpr (holds.increasing.imp fun less => less.ne)
  exact List.inj_on_of_nodup_map apart here there same

/-- The latest request row is the row of the latest request. -/
theorem latestRequest_eq (holds : Requested file) :
    (latestRequest file.events).map TaskEvent.requestKey =
      file.requests.getLast?.map MessageEnvelope.requestKey := by
  rw [latestRequest, lastWhere, ← List.getLast?_map, holds.rows, List.getLast?_map]

theorem exists_latestRequest (holds : Requested file) {request : MessageEnvelope}
    (last : file.requests.getLast? = some request) :
    ∃ row, latestRequest file.events = some row ∧ row.requestKey = request.requestKey := by
  have keys := holds.latestRequest_eq
  rw [last, Option.map_some] at keys
  exact Option.map_eq_some_iff.mp keys

theorem exists_last (holds : Requested file) {row : TaskEvent} (latest : latestRequest file.events = some row) :
    ∃ request, file.requests.getLast? = some request ∧ row.requestKey = request.requestKey := by
  have keys := holds.latestRequest_eq
  rw [latest, Option.map_some, eq_comm] at keys
  obtain ⟨request, last, key⟩ := Option.map_eq_some_iff.mp keys
  exact ⟨request, last, key.symm⟩

/-- The latest request is on the route of the task. -/
theorem target_of_getLast? (holds : Requested file) {request : MessageEnvelope}
    (last : file.requests.getLast? = some request) :
    file.row.currentTarget = request.target ∧ file.row.currentTarget ≠ none := by
  have latest := holds.latest
  rw [last, Option.map_some] at latest
  cases target : file.row.currentTarget with
  | none => simp [target] at latest
  | some route => simpa [target, eq_comm] using latest

end Requested

/-- The current events are those at the position of the latest request. -/
theorem isCurrent_iff {deployment : Deployment} {s : OrdersService}
    (reachable : (ordersMachine deployment).Reachable s) {task : TaskId} {file : TaskFile}
    (found : s.file? task = some file) {request event : MessageEnvelope}
    (latest : file.requests.getLast? = some request) (own : event.taskId = task) :
    s.db.isCurrent event = true ↔ event.eventSeq = request.eventSeq := by
  obtain ⟨row, last, key⟩ := (reachable_requested reachable found).exists_latestRequest latest
  have seq : row.eventSeq = request.eventSeq := congrArg RequestKey.eventSeq key
  rw [OrdersDb.isCurrent, own, ← (file?_eq_some_iff.mp found).2.2.1, last, Option.any_some, seq,
    decide_eq_true_eq, eq_comm]

/-- An event that answers a request is current exactly when the request is the latest. -/
theorem isCurrent_iff_latest {deployment : Deployment} {s : OrdersService}
    (reachable : (ordersMachine deployment).Reachable s) {task : TaskId} {file : TaskFile}
    (found : s.file? task = some file) {request event : MessageEnvelope} (asked : request ∈ file.requests)
    (answers : event.Answers request) (own : event.taskId = task) :
    s.db.isCurrent event = true ↔ file.requests.getLast? = some request := by
  have requested := reachable_requested reachable found
  constructor
  · intro current
    rw [OrdersDb.isCurrent, own, ← (file?_eq_some_iff.mp found).2.2.1] at current
    obtain ⟨row, last, same⟩ := (Option.any_eq_true _ _).mp current
    obtain ⟨latest, ends, key⟩ := requested.exists_last last
    have seq : row.eventSeq = latest.eventSeq := congrArg RequestKey.eventSeq key
    have is := requested.eq_of_eventSeq (List.mem_of_getLast? ends) asked
      (seq.symm.trans ((of_decide_eq_true same).trans answers.2.2.1))
    rw [ends, is]
  · intro latest
    exact (isCurrent_iff reachable found latest own).mpr answers.2.2.1

/-! ## What a decision is taken on -/

/-- The last results a live task can have at a decision point, by its route. -/
inductive Outcome : Option Target → Option TaskResult → Prop
  | undispatched : Outcome none none
  | timeout : Outcome (some .inventoryPrimary) (some .timeout)
  | transientError : Outcome (some .inventoryPrimary) (some .transientError)
  | invalidData {route : Target} : Outcome (some route) (some .invalidData)
  | fallbackFailed : Outcome (some .inventoryFallback) (some .fallbackFailed)

theorem Outcome.of_failure (route : Target) (reason : FailureReason) :
    Outcome (some route) (some (failureResult reason (some route))) := by
  cases route <;> cases reason
  · exact .transientError
  · exact .invalidData
  · exact .fallbackFailed
  · exact .invalidData

theorem Outcome.of_timeout (route : Target) : Outcome (some route) (some (timeoutResult (some route))) := by
  cases route
  · exact .timeout
  · exact .fallbackFailed

/-- A live task that waits or has a decision point open. -/
def TaskFile.undecided (file : TaskFile) : Prop :=
  file.row.status.terminal = false ∧ (file.row.status = .waiting ∨ file.point ≠ .closed)

/-- At a decision point the last result is one of the route. -/
theorem reachable_outcome {deployment : Deployment} {s : OrdersService}
    (reachable : (ordersMachine deployment).Reachable s) {task : TaskId} {file : TaskFile}
    (found : s.file? task = some file) (undecided : file.undecided) :
    Outcome file.row.currentTarget file.row.lastResult := by
  refine reachable_file (P := fun file => file.undecided → Outcome file.row.currentTarget
    file.row.lastResult) ?_ ?_ reachable task file found undecided
  · exact fun _ _ _ _ _ _ => .undispatched
  · rintro s label task file file' reachable found holds step ⟨alive, waits⟩
    have requested := reachable_requested reachable found
    cases step with
    | same => exact holds ⟨alive, waits⟩
    | closed busy => exact holds ⟨alive, .inr busy⟩
    | built state opened => exact holds ⟨alive, .inr (by simp [opened])⟩
    | noted event redelivered draw labels task promised processed => exact holds ⟨alive, waits⟩
    | declined _ _ _ _ _ _ _ built => exact holds ⟨alive, .inr (by simp [built])⟩
    | moved draw cause row' columns effects opens point executed move happens =>
      have waiting : file.row.status = .waiting → Outcome file.row.currentTarget file.row.lastResult :=
        fun waiting => holds ⟨by simp [waiting, TaskStatus.terminal], .inl waiting⟩
      generalize before : file.point = openPoint at happens
      cases happens with
      | message message redelivered draw promised fresh =>
        cases move with
        | repeated | inert => exact waiting (waits.resolve_right (by simp [TaskFile.after]))
        | failed event payload redelivered own fresh type live current =>
          have mine := own.trans (OrdersService.taskId_of_file found)
          obtain ⟨request, asked, answers⟩ := s.exists_request_of_deliverable found promised mine
          have last := (isCurrent_iff_latest reachable found asked answers mine).mp current
          obtain ⟨target, dispatched⟩ := requested.target_of_getLast? last
          obtain ⟨route, here⟩ := Option.ne_none_iff_exists'.mp dispatched
          change Outcome file.row.currentTarget (some (failureResult payload.failureReason event.target))
          rw [answers.2.2.2.2.2.1, ← target, here]
          exact .of_failure route payload.failureReason
        | completed => cases alive
        | timedOut request live awaiting =>
          have dispatched : file.row.currentTarget ≠ none := by
            intro none
            have latest := requested.latest
            have keys := requested.latestRequest_eq
            rw [none, Option.map_none, Option.map_eq_none_iff] at latest
            rw [latest, Option.map_none, Option.map_eq_none_iff, (file?_eq_some_iff.mp found).2.2.1] at keys
            rw [isAwaitingReply, OrdersService.taskId_of_file found, keys] at awaiting
            cases awaiting
          obtain ⟨route, here⟩ := Option.ne_none_iff_exists'.mp dispatched
          change Outcome file.row.currentTarget (some (timeoutResult file.row.currentTarget))
          rw [here]
          exact .of_timeout route
        | waitOver wait => exact waiting wait
        | retryDispatched => exact waits.elim (by rintro ⟨⟩) (absurd rfl)
      | decision owner output decisionId draw state decision built own describes =>
        have here : file.undecided := ⟨move.alive_of_decision, .inr (by simp [before])⟩
        cases move with
        | waited => exact holds here
        | aborted => cases alive
        | continued | retried | fellBack => exact waits.elim (by rintro ⟨⟩) (absurd rfl)
      | deadLetter letter now =>
        have settled := move.terminal_of_deadLetter
        exact absurd (settled.symm.trans alive) (by rintro ⟨⟩)

end OrchLab
