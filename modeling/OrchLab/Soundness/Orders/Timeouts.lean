import OrchLab.Soundness.Orders.Results

/-! # When a timeout is registered

`register_timeout` takes a request for answered when any row of the inventory follows it. A reply to the
request itself is such a row, so a registered timeout always applies; but a late or repeated reply to an
older request is one too, and then a timeout that applies is lost.
-/

namespace OrchLab

/-! ## Replies in the log -/

namespace Move

variable {config : ExperimentConfig} {db : OrdersDb} {draw : Draw} {row row' : TaskRow} {cause : Cause}
  {columns : List EventColumns} {effects : List Effect} {opens : Bool}

/-- A received event is recorded. -/
theorem records_received (move : Move config db draw row cause row' columns effects opens)
    (received : cause.received ≠ []) : ∃ event ∈ columns, event.service = .inventory := by
  cases move with
  | repeated | inert | failed | completed => exact ⟨_, List.mem_cons_self .., rfl⟩
  | timedOut | waitOver | retryDispatched | continued | retried | waited | fellBack | aborted
  | deadLettered | deadLetterLogged => exact absurd rfl received

end Move

theorem exists_mem_numbered {n : ℕ} {columns : List EventColumns} {event : EventColumns}
    (member : event ∈ columns) : ∃ row ∈ numbered n columns, row.toEventColumns = event := by
  induction columns generalizing n with
  | nil => cases member
  | cons first rest ih =>
    rcases List.mem_cons.mp member with rfl | later
    · exact ⟨_, List.mem_cons_self .., rfl⟩
    · obtain ⟨row, here, same⟩ := ih (n := n + 1) later
      exact ⟨row, List.mem_cons_of_mem _ here, same⟩

/-- Some row of the inventory follows a row. -/
def repliedAfter (events : List TaskEvent) (row : TaskEvent) : Prop :=
  ∃ later ∈ events, later.service = .inventory ∧ row.eventId < later.eventId

/-- A request whose reply was received is followed by a row of the inventory. -/
def Answered (file : TaskFile) : Prop :=
  ∀ event ∈ file.received, ∀ row ∈ file.events, row.isRequest = true → row.eventSeq = event.eventSeq →
    repliedAfter file.events row

theorem repliedAfter.append {events added : List TaskEvent} {row : TaskEvent}
    (replied : repliedAfter events row) : repliedAfter (events ++ added) row :=
  let ⟨later, member, rest⟩ := replied
  ⟨later, List.mem_append_left _ member, rest⟩

theorem reachable_answered {deployment : Deployment} {s : OrdersService}
    (reachable : (ordersMachine deployment).Reachable s) {task : TaskId} {file : TaskFile}
    (found : s.file? task = some file) : Answered file := by
  refine reachable_file ?_ ?_ reachable task file found
  · exact fun _ _ _ _ _ event member => by cases member
  · intro s label task file file' reachable found holds step
    have ledger := reachable_ledger reachable
    have requested := reachable_requested reachable found
    have own := OrdersService.taskId_of_file found
    obtain ⟨-, -, trajectory, -, received, -, -⟩ := file?_eq_some_iff.mp found
    cases step with
    | same | closed | built | declined => exact holds
    | noted event redelivered draw labels task promised processed =>
      intro other member
      rcases List.mem_append.mp member with old | new
      · exact holds other old
      · obtain rfl := List.mem_singleton.mp new
        obtain ⟨earlier, here, same⟩ := (ledger.processed other.messageId).mp processed
        obtain rfl := promised.2.2 earlier here same
        refine holds earlier ?_
        rw [received, List.mem_filter]
        exact ⟨here, by simpa [own] using task⟩
    | moved draw cause row' columns effects opens point executed move happens =>
      have earlier := OrdersService.eventId_le_of_file found
      have quiet_or_asks := move.quiet_or_asks happens.permitted happens.replies
      intro event member row logged isRequest same
      rcases List.mem_append.mp logged with before | added
      · rcases List.mem_append.mp member with old | new
        · exact (holds event old row before isRequest same).append
        · obtain ⟨columns', recorded, service⟩ := move.records_received (List.ne_nil_of_mem new)
          obtain ⟨later, here, rfl⟩ := exists_mem_numbered (n := s.db.taskEvents.rows.length) recorded
          exact ⟨later, List.mem_append_right _ here, service,
            (earlier row before).trans_lt (lt_of_mem_numbered here)⟩
      · rcases quiet_or_asks with quiet | asks
        · exact absurd isRequest (not_isRequest_of_mem_numbered quiet.columns row added)
        · obtain ⟨decisionId, items, route, first, -, sent, rfl, internal⟩ := asks.request
          have old : event ∈ file.received := by
            refine (List.mem_append.mp member).resolve_right fun new => ?_
            rw [move.effects_of_received (List.ne_nil_of_mem new)] at sent
            cases sent
          obtain ⟨request, asked, answers⟩ := OrdersService.exists_request_of_received ledger found old
          have before := (requested.bounded request asked).1
          rcases List.mem_append.mp (mem_of_mem_numbered added) with noted | published
          · simp [TaskEvent.isRequest, internal _ noted] at isRequest
          · have seq : row.eventSeq = row'.currentEventSeq :=
              congrArg EventColumns.eventSeq (List.mem_singleton.mp published)
            have after := asks.eventSeq
            rw [← answers.2.2.1, ← same, seq] at before
            omega

/-! ## When it registers and when it applies -/

/-- `register_timeout` returns `True`, and then the timeout and its result are recorded. -/
def OrdersDb.registers (db : OrdersDb) (now : Timestamp) (task : TaskId) (request : MessageId) : Prop :=
  ∃ db', db.registerTimeout now task request = .ok (db', true) ∧
    timeoutRegistered (db'.trajectory task) request = true ∧
    ∃ row row', db.task? task = some row ∧ db'.task? task = some row' ∧
      row'.lastResult = some (timeoutResult row.currentTarget)

namespace OrdersService

/-- The task is live, the request is its latest, and neither a reply to it nor its timeout is recorded. -/
def timeoutApplies (s : OrdersService) (task : TaskId) (request : MessageEnvelope) : Prop :=
  (∃ row, s.db.task? task = some row ∧ row.status.terminal = false) ∧
    (s.requestsFor task).getLast? = some request ∧
    (∀ event ∈ s.received, event.taskId = task → event.eventSeq ≠ request.eventSeq) ∧
    timeoutRegistered (s.db.trajectory task) request.messageId = false

/-- Some row of the inventory was recorded after the latest request of the task. -/
def latestReplied (s : OrdersService) (task : TaskId) : Prop :=
  ∃ latest, latestRequest (s.db.trajectory task) = some latest ∧
    repliedAfter (s.db.trajectory task) latest

end OrdersService

theorem registers_iff {db : OrdersDb} {now : Timestamp} {task : TaskId} {request : MessageId} :
    db.registers now task request ↔ (∃ row, db.task? task = some row ∧ row.status.terminal = false) ∧
      isAwaitingReply (db.trajectory task) request = true ∧
      timeoutRegistered (db.trajectory task) request = false := by
  cases found : db.task? task with
  | none => simp [OrdersDb.registers, found]
  | some row =>
    simp only [OrdersDb.registers, OrdersDb.registerTimeout, found, Option.some_inj, exists_eq_left']
    cases settled : row.status.terminal with
    | true => simp
    | false =>
      cases awaiting : isAwaitingReply (db.trajectory task) request with
      | false => simp
      | true =>
        cases registered : timeoutRegistered (db.trajectory task) request with
        | true => simp
        | false =>
          have set : (db.setLastResult task (timeoutResult row.currentTarget) now).task? task =
              some (row.setLastResult (timeoutResult row.currentTarget) now) := by
            rw [OrdersDb.setLastResult, OrdersDb.task?_modifyTask, if_pos rfl, found, Option.map_some]
          simp only [Bool.false_eq_true, ↓reduceIte, Bool.not_true, OrdersDb.recordInternalEvent_of_found set,
            Except.map]
          have own := OrdersDb.taskId_of_task? found
          refine iff_of_true ⟨_, rfl, ?_, row, (row.setLastResult (timeoutResult row.currentTarget)
            now).bumpSeq now, rfl, ?_, rfl⟩ (by simp)
          · rw [OrdersDb.trajectory_appendEvent, if_pos, timeoutRegistered_concat]
            · simp [internalColumns, EventPayload.requestMessageId?]
            · exact own
          · rw [OrdersDb.task?_appendEvent, OrdersDb.task?_modifyTask, if_pos rfl, set, Option.map_some]

theorem isAwaitingReply_iff {events : List TaskEvent} {request : MessageId} :
    isAwaitingReply events request = true ↔ ∃ latest, latestRequest events = some latest ∧
      latest.messageId = some request ∧ ¬repliedAfter events latest := by
  rw [isAwaitingReply]
  cases latestRequest events with
  | none => simp
  | some latest => simp [repliedAfter]

/-- The code registers a timeout when it applies and no row of the inventory follows the request. -/
theorem registers_iff_applies {deployment : Deployment} {s : OrdersService}
    (reachable : (ordersMachine deployment).Reachable s) {task : TaskId} {request : MessageEnvelope}
    (asked : request ∈ s.requestsFor task) (now : Timestamp) :
    s.db.registers now task request.messageId ↔ s.timeoutApplies task request ∧ ¬s.latestReplied task := by
  have ledger := reachable_ledger reachable
  rw [registers_iff, isAwaitingReply_iff, OrdersService.timeoutApplies, OrdersService.latestReplied]
  constructor
  · rintro ⟨⟨row, found, alive⟩, ⟨latest, last, same, unanswered⟩, unregistered⟩
    obtain ⟨file, here, rfl, -, events⟩ := file?_of_task? found
    have requested := reachable_requested reachable here
    have answered := reachable_answered reachable here
    rw [OrdersService.requestsFor_eq here] at asked ⊢
    obtain ⟨final, ends, key⟩ := requested.exists_last (events.symm ▸ last)
    obtain rfl : final = request := OrdersService.eq_of_messageId ledger here (List.mem_of_getLast? ends) asked
      (Option.some_inj.mp ((congrArg RequestKey.messageId key).symm.trans same))
    refine ⟨⟨⟨file.row, found, alive⟩, ends, fun event member own replies => unanswered ?_, unregistered⟩, ?_⟩
    · rw [← events]
      refine answered event ?_ latest (events ▸ mem_of_lastWhere last) (holds_of_lastWhere last)
        ((congrArg RequestKey.eventSeq key).trans replies.symm)
      rw [(file?_eq_some_iff.mp here).2.2.2.2.1, List.mem_filter]
      exact ⟨member, decide_eq_true own⟩
    · rintro ⟨other, last', replied⟩
      obtain rfl := Option.some_inj.mp (last.symm.trans last')
      exact unanswered replied
  · rintro ⟨⟨⟨row, found, alive⟩, ends, -, unregistered⟩, unreplied⟩
    obtain ⟨file, here, rfl, -, events⟩ := file?_of_task? found
    rw [OrdersService.requestsFor_eq here] at ends
    obtain ⟨latest, last, key⟩ := (reachable_requested reachable here).exists_latestRequest ends
    rw [events] at last
    exact ⟨⟨file.row, found, alive⟩, ⟨latest, last, congrArg RequestKey.messageId key,
      fun replied => unreplied ⟨latest, last, replied⟩⟩, unregistered⟩

/-- A timeout is registered exactly when it applies, unless it applies to a request that a row of the
inventory follows. -/
theorem timeout_registered_iff {deployment : Deployment} {s : OrdersService}
    (reachable : (ordersMachine deployment).Reachable s) {task : TaskId} {request : MessageEnvelope}
    (asked : request ∈ s.requestsFor task) (now : Timestamp) :
    (s.db.registers now task request.messageId ↔ s.timeoutApplies task request) ↔
      ¬(s.timeoutApplies task request ∧ s.latestReplied task) := by
  rw [registers_iff_applies reachable asked now, not_and, and_iff_left_iff_imp]

/-! ## A timeout that is lost -/

instance (events : List TaskEvent) (row : TaskEvent) : Decidable (repliedAfter events row) :=
  inferInstanceAs (Decidable (∃ later ∈ events, _))

instance (s : OrdersService) (task : TaskId) : Decidable (s.latestReplied task) :=
  decidable_of_iff ((latestRequest (s.db.trajectory task)).any fun latest =>
    repliedAfter (s.db.trajectory task) latest) (by simp [OrdersService.latestReplied, Option.any_eq_true])

instance (s : OrdersService) (task : TaskId) (request : MessageEnvelope) :
    Decidable (s.timeoutApplies task request) :=
  have : Decidable (∃ row, s.db.task? task = some row ∧ row.status.terminal = false) :=
    decidable_of_iff ((s.db.task? task).any (!·.status.terminal)) (by simp [Option.any_eq_true])
  inferInstanceAs (Decidable (_ ∧ _ ∧ _ ∧ _))

/-- The first attempt times out, its retry is dispatched under message 15, and then the late failure of
the first attempt arrives. -/
def lateReply : List OrdersLabel :=
  firstDispatch ++
    [.consume (.timeoutCheck 1 10) false ⟨11, 2002⟩, .build .worker (.calm 2003 2),
      .decide .worker (.proposing .retry (some .inventoryPrimary) .transientRetry) 2 ⟨12, 2004⟩,
      .consume (.dispatchAttempt 1 2) false ⟨15, 2504⟩,
      .consume (.inventoryEvent (firstReply 20 (.failed ⟨1, .primary, .transientError⟩))) false ⟨13, 2600⟩]

/-- The timeout of the second attempt is lost. -/
theorem not_timeout_registered : ¬∀ (deployment : Deployment) (s : OrdersService),
    (ordersMachine deployment).Reachable s → ∀ task, ∀ request ∈ s.requestsFor task, ∀ now,
      (s.db.registers now task request.messageId ↔ s.timeoutApplies task request) := by
  intro claim
  obtain ⟨s, reachable, passes⟩ : ∃ s, (ordersMachine .pilot).Reachable s ∧
      ((s.requestsFor 1).getLast?.any fun request =>
        decide (s.timeoutApplies 1 request) && decide (s.latestReplied 1)) = true :=
    Machine.exists_reachable_of_replay? lateReply (by decide +kernel)
  obtain ⟨request, last, both⟩ := (Option.any_eq_true _ _).mp passes
  rw [Bool.and_eq_true, decide_eq_true_eq, decide_eq_true_eq] at both
  have asked := List.mem_of_getLast? last
  have registers := (claim _ s reachable 1 request asked 4600).mpr both.1
  exact ((registers_iff_applies reachable asked 4600).mp registers).2 both.2

/-- The timeout of the first attempt, before anything answers. -/
theorem timeout_registered_iff_pilot : ∃ s request, (ordersMachine .pilot).Reachable s ∧
    request ∈ s.requestsFor 1 ∧
    ((s.db.registers 2002 1 request.messageId ↔ s.timeoutApplies 1 request) ↔
      ¬(s.timeoutApplies 1 request ∧ s.latestReplied 1)) := by
  obtain ⟨s, reachable, passes⟩ : ∃ s, (ordersMachine .pilot).Reachable s ∧
      (s.requestsFor 1).getLast?.isSome = true :=
    Machine.exists_reachable_of_replay? firstDispatch (by decide +kernel)
  obtain ⟨request, last⟩ := Option.isSome_iff_exists.mp passes
  have asked := List.mem_of_getLast? last
  exact ⟨s, request, reachable, asked, timeout_registered_iff reachable asked 2002⟩

end OrchLab
