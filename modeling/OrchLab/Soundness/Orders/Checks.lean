import OrchLab.Soundness.Orders.Occurrences
import OrchLab.Soundness.Orders.Timeouts
import OrchLab.ToMathlib.Pairwise

/-! # Timeout and wait checks

A check that acts leaves its row in the trajectory, and looks for it before it acts. A finished wait changes
neither the status nor the count, so the row is what makes it act once; leaving a wait does change the
status, and entering another one the count, so a reevaluation that was left behind finds nothing to do. In
the log every wait is finished at most once, behind its own beginning and before the next.
-/

namespace OrchLab

namespace EventColumns

variable (event : EventColumns)

/-- The request whose timeout a row records. -/
def timedOut? : Option MessageId :=
  if event.eventType = .inventoryTimeout then event.payload.bind EventPayload.requestMessageId? else none

/-- The wait a row begins. -/
def scheduledWait? : Option ℕ :=
  if event.eventType = .waitScheduled then event.payload.bind EventPayload.waitCount? else none

/-- The wait a row finishes. -/
def finishedWait? : Option ℕ :=
  if event.eventType = .waitFinished then event.payload.bind EventPayload.waitCount? else none

/-- A row that a decision has written. -/
def isDecision : Bool :=
  match event.eventType with
  | .waitScheduled | .retryScheduled | .fallbackScheduled | .taskAborted => true
  | .stockReservationRequested => !event.redelivered
  | _ => false

end EventColumns

theorem timeoutRegistered_iff {events : List TaskEvent} {request : MessageId} :
    timeoutRegistered events request = true ↔ ∃ event ∈ events, event.timedOut? = some request := by
  simp [timeoutRegistered, EventColumns.timedOut?]

theorem waitFinished_iff {events : List TaskEvent} {waitCount : ℕ} :
    waitFinished events waitCount = true ↔ ∃ event ∈ events, event.finishedWait? = some waitCount := by
  simp [waitFinished, EventColumns.finishedWait?]

/-! ## Waits in the log -/

/-- What two rows of a task say about its waits when one comes before the other. -/
structure WaitOrder (earlier later : EventColumns) : Prop where
  scheduled : ∀ m n, earlier.scheduledWait? = some m → later.scheduledWait? = some n → m < n
  finished : ∀ m n, earlier.finishedWait? = some m → later.finishedWait? = some n → m ≠ n
  after : ∀ m n, earlier.scheduledWait? = some m → later.finishedWait? = some n → m ≤ n
  before : ∀ m n, earlier.finishedWait? = some m → later.scheduledWait? = some n → m < n

/-- A row about no wait. -/
def EventColumns.NoWait (event : EventColumns) : Prop :=
  event.scheduledWait? = none ∧ event.finishedWait? = none

theorem WaitOrder.of_left {earlier later : EventColumns} (none : earlier.NoWait) : WaitOrder earlier later := by
  constructor <;> intro m n <;> simp [none.1, none.2]

theorem WaitOrder.of_right {earlier later : EventColumns} (none : later.NoWait) : WaitOrder earlier later := by
  constructor <;> intro m n <;> simp [none.1, none.2]

/-- The waits of a task and the row they have led to. -/
structure Waited (file : TaskFile) : Prop where
  ordered : file.events.Pairwise fun earlier later =>
    WaitOrder earlier.toEventColumns later.toEventColumns ∧ earlier.eventId < later.eventId
  scheduled : ∀ event ∈ file.events, ∀ n, event.scheduledWait? = some n → n ≤ file.row.waitCount
  finished : ∀ event ∈ file.events, ∀ n, event.finishedWait? = some n → n ≤ file.row.waitCount ∧
    ∃ scheduled ∈ file.events, scheduled.scheduledWait? = some n
  waiting : file.row.status = .waiting → ∃ scheduled ∈ file.events,
    scheduled.scheduledWait? = some file.row.waitCount ∧
      ∀ later ∈ file.events, scheduled.eventId < later.eventId → later.isDecision = false

namespace Move

variable {config : ExperimentConfig} {db : OrdersDb} {draw : Draw} {row row' : TaskRow} {cause : Cause}
  {columns : List EventColumns} {effects : List Effect} {opens : Bool}

/-- What a move does to the waits of its task. -/
theorem waits (move : Move config db draw row cause row' columns effects opens)
    (replies : ∀ event, cause = .message (.inventoryEvent event) →
      event.eventType ≠ .stockReservationRequested) :
    ((∀ event ∈ columns, event.NoWait) ∧ row'.waitCount = row.waitCount ∧
      (row'.status = .waiting → row.status = .waiting ∧ ∀ event ∈ columns, event.isDecision = false)) ∨
    (∃ event, columns = [event] ∧ event.scheduledWait? = some (row.waitCount + 1) ∧
      event.finishedWait? = none ∧ row'.waitCount = row.waitCount + 1) ∨
    ∃ event, columns = [event] ∧ event.finishedWait? = some row.waitCount ∧ event.scheduledWait? = none ∧
      event.isDecision = false ∧ row' = row.bumpSeq draw.now ∧ row.status = .waiting ∧
      waitFinished (db.trajectory row.taskId) row.waitCount = false := by
  cases move with
  | waited => exact .inr (.inl ⟨_, rfl, rfl, rfl, rfl⟩)
  | waitOver waiting unfinished => exact .inr (.inr ⟨_, rfl, rfl, rfl, rfl, rfl, waiting, unfinished⟩)
  | repeated event | inert event | failed event =>
    refine .inl ⟨?_, rfl, fun waiting => ⟨waiting, ?_⟩⟩
    · simp [EventColumns.NoWait, EventColumns.scheduledWait?, EventColumns.finishedWait?, messageColumns,
        EventPayload.waitCount?]
    · rcases eventType_of_message event with type | type | type
      · exact absurd type (replies event rfl)
      · simp [EventColumns.isDecision, messageColumns, type]
      · simp [EventColumns.isDecision, messageColumns, type]
  | timedOut | deadLetterLogged =>
    refine .inl ⟨?_, rfl, fun waiting => ⟨waiting, ?_⟩⟩
    · simp [EventColumns.NoWait, EventColumns.scheduledWait?, EventColumns.finishedWait?, internalColumns]
    · simp [EventColumns.isDecision, internalColumns]
  | completed | retryDispatched | continued | retried | fellBack | aborted | deadLettered =>
    refine .inl ⟨?_, rfl, by rintro ⟨⟩⟩
    simp [EventColumns.NoWait, EventColumns.scheduledWait?, EventColumns.finishedWait?, messageColumns,
      internalColumns, requestColumns, EventPayload.waitCount?]

end Move

namespace Waited

variable {file : TaskFile} {n : ℕ} {row' : TaskRow} {columns : List EventColumns} {point : DecisionPoint}
  {received : List MessageEnvelope} {effects : List Effect} {executed : List Execution} {event : EventColumns}

/-- Rows behind the log keep the order of the waits when each of them fits behind each earlier row. -/
theorem ordered_append {events : List TaskEvent} (bounded : ∀ row ∈ events, row.eventId ≤ n)
    (ordered : events.Pairwise fun earlier later =>
      WaitOrder earlier.toEventColumns later.toEventColumns ∧ earlier.eventId < later.eventId)
    (new : columns.Pairwise WaitOrder)
    (behind : ∀ row ∈ events, ∀ event ∈ columns, WaitOrder row.toEventColumns event) :
    (events ++ numbered n columns).Pairwise fun earlier later =>
      WaitOrder earlier.toEventColumns later.toEventColumns ∧ earlier.eventId < later.eventId := by
  refine List.pairwise_append.mpr ⟨ordered, pairwise_numbered n new, fun earlier old later added => ?_⟩
  exact ⟨behind earlier old _ (mem_of_mem_numbered added), (bounded earlier old).trans_lt (lt_of_mem_numbered added)⟩

theorem of_quiet (holds : Waited file) (bounded : ∀ row ∈ file.events, row.eventId ≤ n)
    (quiet : ∀ event ∈ columns, event.NoWait) (count : row'.waitCount = file.row.waitCount)
    (waiting : row'.status = .waiting →
      file.row.status = .waiting ∧ ∀ event ∈ columns, event.isDecision = false) :
    Waited (file.after n row' columns point received effects executed) := by
  have none : ∀ row ∈ numbered n columns, row.NoWait := fun row member => quiet _ (mem_of_mem_numbered member)
  constructor
  · refine ordered_append bounded holds.ordered ?_ fun _ _ later member => .of_right (quiet later member)
    exact List.pairwise_of_forall_mem_list fun earlier member _ _ => .of_left (quiet earlier member)
  · intro row member counted named
    rw [TaskFile.after, count]
    rcases List.mem_append.mp member with old | new
    · exact holds.scheduled row old counted named
    · rw [(none row new).1] at named
      cases named
  · intro row member counted named
    rw [TaskFile.after, count]
    rcases List.mem_append.mp member with old | new
    · obtain ⟨at_most, scheduled, here, same⟩ := holds.finished row old counted named
      exact ⟨at_most, scheduled, List.mem_append_left _ here, same⟩
    · rw [(none row new).2] at named
      cases named
  · intro still
    obtain ⟨before, undecided⟩ := waiting still
    obtain ⟨scheduled, here, same, later⟩ := holds.waiting before
    refine ⟨scheduled, List.mem_append_left _ here, same.trans (congrArg some count.symm), ?_⟩
    intro row member behind
    rcases List.mem_append.mp member with old | new
    · exact later row old behind
    · exact undecided _ (mem_of_mem_numbered new)

theorem of_scheduled (holds : Waited file) (bounded : ∀ row ∈ file.events, row.eventId ≤ n)
    (scheduled : event.scheduledWait? = some (file.row.waitCount + 1)) (unfinished : event.finishedWait? = none)
    (count : row'.waitCount = file.row.waitCount + 1) :
    Waited (file.after n row' [event] point received effects executed) := by
  have only : ∀ row ∈ numbered n [event], row = { event with eventId := n + 1 } :=
    fun row member => List.mem_singleton.mp member
  constructor
  · refine ordered_append bounded holds.ordered (List.pairwise_singleton ..) fun earlier member later new => ?_
    obtain rfl := List.mem_singleton.mp new
    constructor <;> intro m k before after
    · rw [scheduled, Option.some_inj] at after
      exact after ▸ Nat.lt_succ_of_le (holds.scheduled earlier member m before)
    · rw [unfinished] at after
      cases after
    · rw [unfinished] at after
      cases after
    · rw [scheduled, Option.some_inj] at after
      exact after ▸ Nat.lt_succ_of_le (holds.finished earlier member m before).1
  · intro row member k named
    rw [TaskFile.after, count]
    rcases List.mem_append.mp member with old | new
    · exact (holds.scheduled row old k named).trans (Nat.le_succ _)
    · obtain rfl := only row new
      exact (Option.some_inj.mp (named.symm.trans scheduled)).le
  · intro row member k named
    rw [TaskFile.after, count]
    rcases List.mem_append.mp member with old | new
    · obtain ⟨at_most, begun, here, same⟩ := holds.finished row old k named
      exact ⟨at_most.trans (Nat.le_succ _), begun, List.mem_append_left _ here, same⟩
    · obtain rfl := only row new
      cases unfinished.symm.trans named
  · intro _
    refine ⟨{ event with eventId := n + 1 }, List.mem_append_right _ (List.mem_singleton_self _), ?_, ?_⟩
    · exact scheduled.trans (congrArg some count.symm)
    · intro row member behind
      rcases List.mem_append.mp member with old | new
      · exact absurd (behind.trans_le (bounded row old)) (by simp)
      · obtain rfl := only row new
        exact absurd behind (lt_irrefl _)

theorem of_finished (holds : Waited file) (bounded : ∀ row ∈ file.events, row.eventId ≤ n)
    (finished : event.finishedWait? = some file.row.waitCount) (unscheduled : event.scheduledWait? = none)
    (undecided : event.isDecision = false) (now : Timestamp) (waiting : file.row.status = .waiting)
    (first : waitFinished file.events file.row.waitCount = false) :
    Waited (file.after n (file.row.bumpSeq now) [event] point received effects executed) := by
  have only : ∀ row ∈ numbered n [event], row = { event with eventId := n + 1 } :=
    fun row member => List.mem_singleton.mp member
  obtain ⟨begun, here, same, later⟩ := holds.waiting waiting
  constructor
  · refine ordered_append bounded holds.ordered (List.pairwise_singleton ..) fun earlier member _ new => ?_
    obtain rfl := List.mem_singleton.mp new
    constructor <;> intro m k before after
    · rw [unscheduled] at after
      cases after
    · rw [finished, Option.some_inj] at after
      rintro rfl
      rw [Bool.eq_false_iff] at first
      exact first (waitFinished_iff.mpr ⟨earlier, member, after ▸ before⟩)
    · rw [finished, Option.some_inj] at after
      exact after ▸ holds.scheduled earlier member m before
    · rw [unscheduled] at after
      cases after
  · intro row member k named
    rcases List.mem_append.mp member with old | new
    · exact holds.scheduled row old k named
    · obtain rfl := only row new
      cases unscheduled.symm.trans named
  · intro row member k named
    rcases List.mem_append.mp member with old | new
    · obtain ⟨at_most, scheduled, there, is⟩ := holds.finished row old k named
      exact ⟨at_most, scheduled, List.mem_append_left _ there, is⟩
    · obtain rfl := only row new
      obtain rfl := Option.some_inj.mp (finished.symm.trans named)
      exact ⟨le_rfl, begun, List.mem_append_left _ here, same⟩
  · intro _
    refine ⟨begun, List.mem_append_left _ here, same, fun row member behind => ?_⟩
    rcases List.mem_append.mp member with old | new
    · exact later row old behind
    · obtain rfl := only row new
      exact undecided

/-- Two rows of a trajectory are ordered one way or the other. -/
theorem order (holds : Waited file) {row other : TaskEvent} (here : row ∈ file.events)
    (there : other ∈ file.events) (apart : row ≠ other) :
    WaitOrder row.toEventColumns other.toEventColumns ∧ row.eventId < other.eventId ∨
      WaitOrder other.toEventColumns row.toEventColumns ∧ other.eventId < row.eventId :=
  rel_or_rel_of_pairwise holds.ordered here there apart

theorem order_of_lt (holds : Waited file) {row other : TaskEvent} (here : row ∈ file.events)
    (there : other ∈ file.events) (less : row.eventId < other.eventId) :
    WaitOrder row.toEventColumns other.toEventColumns := by
  rcases holds.order here there (by rintro rfl; exact lt_irrefl _ less) with ⟨order, -⟩ | ⟨-, more⟩
  · exact order
  · exact absurd less more.asymm

/-- A wait begins once. -/
theorem eq_of_scheduled (holds : Waited file) {row other : TaskEvent} (here : row ∈ file.events)
    (there : other ∈ file.events) {waitCount : ℕ} (begins : row.scheduledWait? = some waitCount)
    (again : other.scheduledWait? = some waitCount) : row = other := by
  by_contra apart
  rcases holds.order here there apart with ⟨order, -⟩ | ⟨order, -⟩
  · exact lt_irrefl _ (order.scheduled waitCount waitCount begins again)
  · exact lt_irrefl _ (order.scheduled waitCount waitCount again begins)

end Waited

/-- The waits of every task of a reachable state. -/
theorem reachable_waited {deployment : Deployment} {s : OrdersService}
    (reachable : (ordersMachine deployment).Reachable s) {task : TaskId} {file : TaskFile}
    (found : s.file? task = some file) : Waited file := by
  refine reachable_file (P := Waited) ?_ ?_ reachable task file found
  · intro task itemsJson now n _
    have quiet : (OrdersDb.taskCreatedColumns task deployment.executionId now).NoWait := ⟨rfl, rfl⟩
    refine ⟨List.pairwise_singleton .., ?_, ?_, by rintro ⟨⟩⟩
    · intro row member count named
      obtain rfl := List.mem_singleton.mp member
      cases quiet.1.symm.trans named
    · intro row member count named
      obtain rfl := List.mem_singleton.mp member
      cases quiet.2.symm.trans named
  · intro s label task file file' reachable found holds step
    cases step with
    | same => exact holds
    | closed | built | noted | declined => exact ⟨holds.ordered, holds.scheduled, holds.finished, holds.waiting⟩
    | moved draw cause row' columns effects opens point executed move happens =>
      have events := (file?_eq_some_iff.mp found).2.2.1
      have bounded := OrdersService.eventId_le_of_file found
      rcases move.waits happens.replies with ⟨quiet, count, waiting⟩ | ⟨event, rfl, scheduled, unfinished, count⟩ |
        ⟨event, rfl, finished, unscheduled, undecided, rfl, waiting, first⟩
      · exact holds.of_quiet bounded quiet count waiting
      · exact holds.of_scheduled bounded scheduled unfinished count
      · rw [OrdersService.taskId_of_file found, ← events] at first
        exact holds.of_finished bounded finished unscheduled undecided _ waiting first

/-! ## Timeouts in the log -/

/-- A move records no timeout, or that of a request the task still waits for. -/
theorem Move.timeouts {config : ExperimentConfig} {db : OrdersDb} {draw : Draw} {row row' : TaskRow}
    {cause : Cause} {columns : List EventColumns} {effects : List Effect} {opens : Bool}
    (move : Move config db draw row cause row' columns effects opens) :
    (∀ event ∈ columns, event.timedOut? = none) ∨
      ∃ event request, columns = [event] ∧ event.timedOut? = some request ∧
        isAwaitingReply (db.trajectory row.taskId) request = true ∧
        timeoutRegistered (db.trajectory row.taskId) request = false := by
  cases move with
  | timedOut request alive awaiting unregistered =>
    exact .inr ⟨_, request, rfl, rfl, awaiting, unregistered⟩
  | repeated | inert | failed | completed | waitOver | retryDispatched | continued | retried | waited | fellBack
  | aborted | deadLettered | deadLetterLogged =>
    refine .inl ?_
    simp [EventColumns.timedOut?, messageColumns, internalColumns, requestColumns,
      EventPayload.requestMessageId?]

/-- The timeouts of a task are those of its requests, each recorded once. -/
structure TimedOut (file : TaskFile) : Prop where
  requested : ∀ event ∈ file.events, ∀ request, event.timedOut? = some request →
    ∃ asked ∈ file.events, asked.messageId = some request
  once : file.events.Pairwise fun earlier later => ∀ request, earlier.timedOut? = some request →
    later.timedOut? ≠ some request

theorem reachable_timedOut {deployment : Deployment} {s : OrdersService}
    (reachable : (ordersMachine deployment).Reachable s) {task : TaskId} {file : TaskFile}
    (found : s.file? task = some file) : TimedOut file := by
  refine reachable_file (P := TimedOut) ?_ ?_ reachable task file found
  · intro task itemsJson now n _
    refine ⟨fun row member request named => ?_, List.pairwise_singleton ..⟩
    obtain rfl := List.mem_singleton.mp member
    cases named
  · intro s label task file file' reachable found holds step
    cases step with
    | same => exact holds
    | closed | built | noted | declined => exact ⟨holds.requested, holds.once⟩
    | moved draw cause row' columns effects opens point executed move happens =>
      have events := (file?_eq_some_iff.mp found).2.2.1
      rcases move.timeouts with quiet | ⟨event, request, rfl, timedOut, awaiting, unregistered⟩
      · have none : ∀ row ∈ numbered s.db.taskEvents.rows.length columns, row.timedOut? = none :=
          fun row member => quiet _ (mem_of_mem_numbered member)
        constructor
        · intro row member request named
          rcases List.mem_append.mp member with old | new
          · obtain ⟨asked, here, same⟩ := holds.requested row old request named
            exact ⟨asked, List.mem_append_left _ here, same⟩
          · cases (none row new).symm.trans named
        · refine List.pairwise_append.mpr ⟨holds.once, ?_, ?_⟩
          · refine List.pairwise_of_forall_mem_list fun earlier member later _ request named => ?_
            cases (none earlier member).symm.trans named
          · intro earlier _ later member request _ named
            cases (none later member).symm.trans named
      · have only : ∀ row ∈ numbered s.db.taskEvents.rows.length [event], row.timedOut? = some request := by
          intro row member
          obtain rfl := List.mem_singleton.mp member
          exact timedOut
        rw [OrdersService.taskId_of_file found, ← events] at awaiting unregistered
        constructor
        · intro row member other named
          rcases List.mem_append.mp member with old | new
          · obtain ⟨asked, here, same⟩ := holds.requested row old other named
            exact ⟨asked, List.mem_append_left _ here, same⟩
          · obtain rfl := Option.some_inj.mp ((only row new).symm.trans named)
            obtain ⟨latest, is, same, -⟩ := isAwaitingReply_iff.mp awaiting
            exact ⟨latest, List.mem_append_left _ (mem_of_lastWhere is), same⟩
        · refine List.pairwise_append.mpr ⟨holds.once, List.pairwise_singleton .., ?_⟩
          intro earlier member later new other named again
          obtain rfl := Option.some_inj.mp ((only later new).symm.trans again)
          rw [Bool.eq_false_iff] at unregistered
          exact unregistered (timeoutRegistered_iff.mpr ⟨earlier, member, named⟩)

/-! ## Checks along a run -/

namespace OrdersService

/-- The step is a timeout check of the request, and `register_timeout` returns `True`. -/
def registersTimeout (request : MessageId) : OrdersService × OrdersLabel → Bool
  | (s, .consume (.timeoutCheck task other) _ draw) => other = request &&
    match s.db.registerTimeout draw.now task other with
    | .ok (_, registered) => registered
    | .error _ => false
  | _ => false

/-- The step is a reevaluation of the wait, and `finish_wait` returns `True`. -/
def finishesWait (task : TaskId) (waitCount : ℕ) : OrdersService × OrdersLabel → Bool
  | (s, .consume (.reevaluate other count) _ draw) => other = task && count = waitCount &&
    match s.db.finishWait draw.now other count with
    | .ok (_, finished) => finished
    | .error _ => false
  | _ => false

end OrdersService

section Run

variable {deployment : Deployment} {s t : OrdersService} {label : OrdersLabel}

/-- A row about a request, in the trajectory of any task, is of the task whose trajectory names it. -/
theorem taskId_of_timedOut (reachable : (ordersMachine deployment).Reachable s) {row asked : TaskEvent}
    {request : MessageId} (member : row ∈ s.db.taskEvents.rows) (timedOut : row.timedOut? = some request)
    (there : asked ∈ s.db.taskEvents.rows) (names : asked.messageId = some request) :
    row.taskId = asked.taskId := by
  have ledger := reachable_ledger reachable
  obtain ⟨stored, found⟩ := Option.ne_none_iff_exists'.mp (ledger.events row member)
  obtain ⟨file, here, -, -, events⟩ := file?_of_task? found
  have mine : row ∈ file.events := by
    rw [events]
    exact OrdersDb.mem_trajectory.mpr ⟨member, rfl⟩
  obtain ⟨own, logged, same⟩ := (reachable_timedOut reachable here).requested row mine request timedOut
  rw [events] at logged
  obtain ⟨logged, task⟩ := OrdersDb.mem_trajectory.mp logged
  rw [← task]
  exact ledger.taskId_eq logged there same names

/-- One row at most records the timeout of a request. -/
theorem countP_timedOut_le (reachable : (ordersMachine deployment).Reachable s) (request : MessageId) :
    s.db.taskEvents.rows.countP (fun event => event.timedOut? = some request) ≤ 1 := by
  by_cases registers : ∃ row ∈ s.db.taskEvents.rows, row.timedOut? = some request
  · obtain ⟨row, member, timedOut⟩ := registers
    obtain ⟨stored, found⟩ := Option.ne_none_iff_exists'.mp ((reachable_ledger reachable).events row member)
    obtain ⟨file, here, -, -, events⟩ := file?_of_task? found
    have holds := reachable_timedOut reachable here
    obtain ⟨asked, logged, names⟩ := holds.requested row
      (by rw [events]; exact OrdersDb.mem_trajectory.mpr ⟨member, rfl⟩) request timedOut
    rw [events] at logged
    obtain ⟨logged, task⟩ := OrdersDb.mem_trajectory.mp logged
    have alone : s.db.taskEvents.rows.countP (fun event => event.timedOut? = some request) =
        file.events.countP (fun event => event.timedOut? = some request) := by
      rw [events, OrdersDb.trajectory, List.countP_filter]
      refine List.countP_congr fun other there => ?_
      simp only [decide_eq_true_eq, Bool.and_eq_true, iff_self_and]
      intro same
      rw [taskId_of_timedOut reachable there same logged names, task]
    rw [alone]
    refine countP_le_one_of_pairwise (holds.once.imp fun {earlier} {later} apart first => ?_)
    exact decide_eq_false (apart request (of_decide_eq_true first))
  · rw [List.countP_eq_zero.mpr fun row member timedOut => registers ⟨row, member, of_decide_eq_true timedOut⟩]
    exact Nat.zero_le _

/-- One row at most of a trajectory finishes a wait. -/
theorem countP_finished_le (reachable : (ordersMachine deployment).Reachable s) (task : TaskId) (waitCount : ℕ) :
    (s.db.trajectory task).countP (fun event => event.finishedWait? = some waitCount) ≤ 1 := by
  cases found : s.db.task? task with
  | none =>
    rw [(reachable_ledger reachable).trajectory_of_absent found]
    exact Nat.zero_le _
  | some row =>
    obtain ⟨file, here, -, -, events⟩ := file?_of_task? found
    rw [← events]
    refine countP_le_one_of_pairwise ((reachable_waited reachable here).ordered.imp ?_)
    intro earlier later order first
    refine decide_eq_false fun again => ?_
    exact order.1.finished waitCount waitCount (of_decide_eq_true first) again rfl

theorem registersTimeout_iff {request : MessageId} :
    OrdersService.registersTimeout request (s, label) = true ↔ ∃ task redelivered draw db,
      label = .consume (.timeoutCheck task request) redelivered draw ∧
        s.db.registerTimeout draw.now task request = .ok (db, true) := by
  constructor
  · intro registers
    cases label with
    | consume message redelivered draw =>
      cases message with
      | timeoutCheck task other =>
        simp only [OrdersService.registersTimeout, Bool.and_eq_true, decide_eq_true_eq] at registers
        obtain ⟨rfl, succeeds⟩ := registers
        split at succeeds
        · next db registered ran =>
          subst succeeds
          exact ⟨task, redelivered, draw, db, rfl, ran⟩
        · cases succeeds
      | inventoryEvent | dispatchAttempt | reevaluate => cases registers
    | createOrder | build | decide | raise | deadLetter => cases registers
  · rintro ⟨task, redelivered, draw, db, rfl, ran⟩
    simp [OrdersService.registersTimeout, ran]

theorem finishesWait_iff {task : TaskId} {waitCount : ℕ} :
    OrdersService.finishesWait task waitCount (s, label) = true ↔ ∃ redelivered draw db,
      label = .consume (.reevaluate task waitCount) redelivered draw ∧
        s.db.finishWait draw.now task waitCount = .ok (db, true) := by
  constructor
  · intro finishes
    cases label with
    | consume message redelivered draw =>
      cases message with
      | reevaluate other count =>
        simp only [OrdersService.finishesWait, Bool.and_eq_true, decide_eq_true_eq] at finishes
        obtain ⟨⟨rfl, rfl⟩, succeeds⟩ := finishes
        split at succeeds
        · next db finished ran =>
          subst succeeds
          exact ⟨redelivered, draw, db, rfl, ran⟩
        · cases succeeds
      | inventoryEvent | dispatchAttempt | timeoutCheck => cases finishes
    | createOrder | build | decide | raise | deadLetter => cases finishes
  · rintro ⟨redelivered, draw, db, rfl, ran⟩
    simp [OrdersService.finishesWait, ran]

/-- A timeout check of a request acts at most once. -/
theorem countP_registersTimeout_le {moments : List (OrdersService × OrdersLabel)}
    (run : (ordersMachine deployment).Run moments s) (request : MessageId) :
    moments.countP (OrdersService.registersTimeout request) ≤ 1 := by
  refine run.countP_le_one (fun s => ∃ row ∈ s.db.taskEvents.rows, row.timedOut? = some request) ?_ ?_ ?_
  · intro s label t _ _ step fires
    obtain ⟨task, redelivered, draw, db, rfl, ran⟩ := registersTimeout_iff.mp fires
    have success : s.db.handle deployment.config (.timeoutCheck task request) redelivered draw =
        .ok ⟨db, true, []⟩ := by
      rw [OrdersDb.handle, ran]
      rfl
    rw [OrdersService.db_of_consume success step]
    rcases @registerTimeout_moves deployment.config _ _ _ draw _ _ ran with
      ⟨-, silent, -⟩ | ⟨row, row', columns, rfl, move, commits⟩
    · cases silent
    · cases move with
      | timedOut => exact ⟨_, by rw [commits.rows]; exact List.mem_append_right _ (List.mem_singleton_self _), rfl⟩
  · intro s label t _ spent _ step
    obtain ⟨added, rows⟩ := exists_rows_of_step step
    obtain ⟨row, member, timedOut⟩ := spent
    exact ⟨row, by rw [rows]; exact List.mem_append_left _ member, timedOut⟩
  · intro s label reachable _ fires spent
    obtain ⟨task, redelivered, draw, db, rfl, ran⟩ := registersTimeout_iff.mp fires
    obtain ⟨row, member, timedOut⟩ := spent
    rcases @registerTimeout_moves deployment.config _ _ _ draw _ _ ran with
      ⟨-, silent, -⟩ | ⟨stored, row', columns, rfl, move, commits⟩
    · cases silent
    · cases move with
      | timedOut _ alive awaiting unregistered =>
        obtain ⟨latest, is, names, -⟩ := isAwaitingReply_iff.mp awaiting
        obtain ⟨there, task⟩ := OrdersDb.mem_trajectory.mp (mem_of_lastWhere is)
        have own := taskId_of_timedOut reachable member timedOut there names
        rw [Bool.eq_false_iff] at unregistered
        exact unregistered (timeoutRegistered_iff.mpr
          ⟨row, OrdersDb.mem_trajectory.mpr ⟨member, own.trans task⟩, timedOut⟩)

/-- A reevaluation of a wait acts at most once. -/
theorem countP_finishesWait_le {moments : List (OrdersService × OrdersLabel)}
    (run : (ordersMachine deployment).Run moments s) (task : TaskId) (waitCount : ℕ) :
    moments.countP (OrdersService.finishesWait task waitCount) ≤ 1 := by
  refine run.countP_le_one (fun s => waitFinished (s.db.trajectory task) waitCount = true) ?_ ?_ ?_
  · intro s label t _ _ step fires
    obtain ⟨redelivered, draw, db, rfl, ran⟩ := finishesWait_iff.mp fires
    have success : s.db.handle deployment.config (.reevaluate task waitCount) redelivered draw =
        .ok ⟨db, true, []⟩ := by
      rw [OrdersDb.handle, ran]
      rfl
    rw [OrdersService.db_of_consume success step]
    rcases @finishWait_moves deployment.config _ _ _ draw _ _ ran with
      ⟨-, silent, -⟩ | ⟨row, row', columns, rfl, move, commits⟩
    · cases silent
    · cases move with
      | waitOver =>
        rw [commits.trajectory, if_pos rfl]
        exact waitFinished_iff.mpr ⟨_, List.mem_append_right _ (List.mem_singleton_self _), rfl⟩
  · intro s label t _ spent _ step
    obtain ⟨added, rows⟩ := exists_rows_of_step step
    obtain ⟨row, member, finished⟩ := waitFinished_iff.mp spent
    refine waitFinished_iff.mpr ⟨row, ?_, finished⟩
    rw [OrdersDb.trajectory, rows, List.filter_append]
    exact List.mem_append_left _ member
  · intro s label _ _ fires spent
    obtain ⟨redelivered, draw, db, rfl, ran⟩ := finishesWait_iff.mp fires
    rcases @finishWait_moves deployment.config _ _ _ draw _ _ ran with
      ⟨-, silent, -⟩ | ⟨stored, row', columns, rfl, move, commits⟩
    · cases silent
    · cases move with
      | waitOver waiting unfinished => exact Bool.false_ne_true (unfinished.symm.trans spent)

/-- A finished wait lies behind its own beginning and before every later one. -/
theorem exists_scheduled_of_finished (reachable : (ordersMachine deployment).Reachable s) {task : TaskId}
    {finished : TaskEvent} (member : finished ∈ s.db.trajectory task) {waitCount : ℕ}
    (named : finished.finishedWait? = some waitCount) :
    ∃ scheduled ∈ s.db.trajectory task, scheduled.scheduledWait? = some waitCount ∧
      scheduled.eventId < finished.eventId ∧
      ∀ later ∈ s.db.trajectory task, later.scheduledWait? ≠ none → scheduled.eventId < later.eventId →
        finished.eventId < later.eventId := by
  cases found : s.db.task? task with
  | none =>
    rw [(reachable_ledger reachable).trajectory_of_absent found] at member
    cases member
  | some row =>
    obtain ⟨file, here, -, -, events⟩ := file?_of_task? found
    have holds := reachable_waited reachable here
    rw [← events] at member ⊢
    obtain ⟨-, scheduled, begun, begins⟩ := holds.finished finished member waitCount named
    have other : ∀ row : TaskEvent, row.scheduledWait? ≠ none → row ≠ finished := by
      rintro row begins rfl
      rw [EventColumns.scheduledWait?] at begins
      rw [EventColumns.finishedWait?] at named
      split_ifs at named with type
      simp [type] at begins
    refine ⟨scheduled, begun, begins, ?_, fun later there schedules behind => ?_⟩
    · rcases holds.order begun member (other scheduled (by simp [begins])) with ⟨-, less⟩ | ⟨order, -⟩
      · exact less
      · exact absurd (order.before waitCount waitCount named begins) (lt_irrefl _)
    · obtain ⟨next, names⟩ := Option.ne_none_iff_exists'.mp schedules
      have more := (holds.order_of_lt begun there behind).scheduled waitCount next begins names
      rcases holds.order member there (other later schedules).symm with ⟨-, less⟩ | ⟨order, -⟩
      · exact less
      · exact absurd (order.after next waitCount names named) (Nat.not_le_of_lt more)

/-- A reevaluation of a wait that another decision has left finds nothing to do. -/
theorem finishWait_of_left (reachable : (ordersMachine deployment).Reachable s) {task : TaskId} {waitCount : ℕ}
    {scheduled later : TaskEvent} (begun : scheduled ∈ s.db.trajectory task)
    (named : scheduled.scheduledWait? = some waitCount) (decided : later ∈ s.db.trajectory task)
    (decision : later.isDecision = true) (behind : scheduled.eventId < later.eventId) (now : Timestamp) :
    s.db.finishWait now task waitCount = .ok (s.db, false) := by
  rw [OrdersDb.finishWait]
  cases found : s.db.task? task with
  | none => rfl
  | some row =>
    obtain ⟨file, here, rfl, -, events⟩ := file?_of_task? found
    have holds := reachable_waited reachable here
    rw [← events] at begun decided
    by_cases guard : file.row.status ≠ .waiting ∨ file.row.waitCount ≠ waitCount
    · simp only [guard, ↓reduceIte]
    · obtain ⟨waiting, rfl⟩ : file.row.status = .waiting ∧ file.row.waitCount = waitCount := by
        simpa using guard
      obtain ⟨last, there, begins, quiet⟩ := holds.waiting waiting
      obtain rfl := holds.eq_of_scheduled there begun begins named
      rw [quiet later decided behind] at decision
      cases decision

end Run

/-- Checks delivered any number of times, late and in any order act once: a request times out once, a wait is
finished once, behind its own beginning and before the next, and a wait that was left is not finished. -/
theorem checks_act_once {deployment : Deployment} {moments : List (OrdersService × OrdersLabel)}
    {s : OrdersService} (run : (ordersMachine deployment).Run moments s) :
    (∀ request, s.db.taskEvents.rows.countP (fun event => event.timedOut? = some request) ≤ 1 ∧
      moments.countP (OrdersService.registersTimeout request) ≤ 1) ∧
    ∀ task waitCount,
      ((s.db.trajectory task).countP (fun event => event.finishedWait? = some waitCount) ≤ 1 ∧
        moments.countP (OrdersService.finishesWait task waitCount) ≤ 1) ∧
      (∀ finished ∈ s.db.trajectory task, finished.finishedWait? = some waitCount →
        ∃ scheduled ∈ s.db.trajectory task, scheduled.scheduledWait? = some waitCount ∧
          scheduled.eventId < finished.eventId ∧
          ∀ later ∈ s.db.trajectory task, later.scheduledWait? ≠ none → scheduled.eventId < later.eventId →
            finished.eventId < later.eventId) ∧
      ∀ scheduled ∈ s.db.trajectory task, scheduled.scheduledWait? = some waitCount →
        ∀ later ∈ s.db.trajectory task, later.isDecision = true → scheduled.eventId < later.eventId →
          ∀ now, s.db.finishWait now task waitCount = .ok (s.db, false) := by
  have reachable := run.reachable
  refine ⟨fun request => ⟨countP_timedOut_le reachable request, countP_registersTimeout_le run request⟩,
    fun task waitCount => ⟨⟨?_, ?_⟩, ?_, ?_⟩⟩
  · exact countP_finished_le reachable task waitCount
  · exact countP_finishesWait_le run task waitCount
  · exact fun _ member named => exists_scheduled_of_finished reachable member named
  · exact fun _ begun named _ decided decision behind now =>
      finishWait_of_left reachable begun named decided decision behind now

/-- The first attempt times out, the task waits, and both the check and the reevaluation are delivered
twice. -/
def checkedTwice : List OrdersLabel :=
  firstDispatch ++
    [.consume (.timeoutCheck 1 10) false ⟨11, 2002⟩, .build .worker (.calm 2003 2),
      .decide .worker (.proposing .wait none .serviceUnavailable) 2 ⟨12, 2004⟩,
      .consume (.timeoutCheck 1 10) true ⟨13, 2005⟩, .consume (.reevaluate 1 1) false ⟨14, 3004⟩,
      .raise .worker, .consume (.reevaluate 1 1) true ⟨15, 3005⟩]

/-- Each of the checks acts in that run, and once. -/
theorem checks_act_once_pilot : ∃ moments s, (ordersMachine .pilot).Run moments s ∧
    moments.countP (OrdersService.registersTimeout 10) = 1 ∧
    moments.countP (OrdersService.finishesWait 1 1) = 1 ∧
    s.db.taskEvents.rows.countP (fun event => event.timedOut? = some 10) ≤ 1 ∧
    (s.db.trajectory 1).countP (fun event => event.finishedWait? = some 1) ≤ 1 := by
  obtain ⟨s, run, -⟩ := Machine.exists_run_of_replay? (m := ordersMachine .pilot)
    checkedTwice (p := fun _ => true) (by decide +kernel)
  have holds := checks_act_once run
  refine ⟨_, s, run, ?_, ?_, (holds.1 10).1, (holds.2 1 1).1.1⟩
  · decide +kernel
  · decide +kernel

end OrchLab
