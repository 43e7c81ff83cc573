import OrchLab.Soundness.Orders.Points

/-! # The ledger of identifiers

Identifiers are shared by all tasks. The ledger is what they name in a reachable state: every processed
message was received, every received event answers a request, no two messages share an identifier, and
every row of the log names a message of its own task.
-/

namespace OrchLab

/-- The event a cause brings. -/
def Cause.received : Cause → List MessageEnvelope
  | .message (.inventoryEvent event) => [event]
  | _ => []

theorem receive_eq (s : OrdersService) (message : OrdersMessage) :
    s.receive message = s.received ++ (Cause.message message).received := by
  cases message <;> simp [OrdersService.receive, Cause.received]

/-- What message identifiers and order numbers name. -/
structure Ledger (s : OrdersService) : Prop where
  processed : ∀ message, s.db.isEventProcessed message = true ↔
    ∃ event ∈ s.received, event.messageId = message
  answers : ∀ event ∈ s.received, ∃ request ∈ s.requests, event.Answers request
  apart : ∀ event ∈ s.received, ∀ request ∈ s.requests, request.messageId ≠ event.messageId
  unique : ∀ event ∈ s.received, ∀ other ∈ s.received, other.messageId = event.messageId → other = event
  requests : (s.requests.map (·.messageId)).Nodup
  logged : ∀ row ∈ s.db.taskEvents.rows, ∀ message, row.messageId = some message →
    (∃ request ∈ s.requests, request.messageId = message ∧ request.taskId = row.taskId) ∨
      ∃ event ∈ s.received, event.messageId = message ∧ event.taskId = row.taskId
  events : ∀ row ∈ s.db.taskEvents.rows, s.db.task? row.taskId ≠ none
  executed : ∀ execution ∈ s.executed, s.db.task? execution.taskId ≠ none
  orderId : ∀ task row, s.db.task? task = some row → row.orderId = task

namespace Ledger

variable {s : OrdersService} {config : ExperimentConfig} {draw : Draw} {row row' : TaskRow} {cause : Cause}
  {columns : List EventColumns} {effects : List Effect} {opens : Bool}

/-- A task that does not exist has no trajectory. -/
theorem trajectory_of_absent (ledger : Ledger s) {task : TaskId} (absent : s.db.task? task = none) :
    s.db.trajectory task = [] :=
  List.filter_eq_nil_iff.mpr fun event member own =>
    ledger.events event member (by rw [of_decide_eq_true own]; exact absent)

/-- A delivered event joins the ledger. -/
private theorem receive (ledger : Ledger s) {message : OrdersMessage} (promised : s.deliverable message) :
    ∀ event ∈ s.receive message, (∃ request ∈ s.requests, event.Answers request) ∧
      (∀ request ∈ s.requests, request.messageId ≠ event.messageId) ∧
      ∀ other ∈ s.receive message, other.messageId = event.messageId → other = event := by
  have old : ∀ event ∈ s.received, (∃ request ∈ s.requests, event.Answers request) ∧
      (∀ request ∈ s.requests, request.messageId ≠ event.messageId) ∧
      ∀ other ∈ s.received, other.messageId = event.messageId → other = event :=
    fun event member => ⟨ledger.answers event member, ledger.apart event member, ledger.unique event member⟩
  cases message with
  | timeoutCheck | dispatchAttempt | reevaluate => exact old
  | inventoryEvent event =>
    obtain ⟨answers, apart, unique⟩ := promised
    simp only [OrdersService.receive, List.forall_mem_append, List.forall_mem_singleton]
    refine ⟨fun earlier member => ⟨(old earlier member).1, (old earlier member).2.1,
      (old earlier member).2.2, fun same => ?_⟩, answers, apart, unique, fun _ => trivial⟩
    exact (unique earlier member same.symm).symm

/-- A move of a task keeps the ledger. -/
theorem move (ledger : Ledger s) {db : OrdersDb} {received : List MessageEnvelope}
    (move : Move config s.db draw row cause row' columns effects opens)
    (commits : Commits s.db db row cause row' columns)
    (fresh : effects.filterMap Effect.request? ≠ [] → s.freshMessage draw.messageId)
    (receives : received = s.received ++ cause.received)
    (answers : ∀ event ∈ received, (∃ request ∈ s.requests, event.Answers request) ∧
      (∀ request ∈ s.requests, request.messageId ≠ event.messageId) ∧
      ∀ other ∈ received, other.messageId = event.messageId → other = event)
    (about : ∀ event ∈ cause.received, event.taskId = row.taskId)
    (quiet : cause.received ≠ [] → effects = [])
    (points : DecisionOwner → DecisionPoint) {executed : List Execution}
    (of : ∀ execution ∈ executed, execution ∈ s.executed ∨ execution.taskId = row.taskId) :
    Ledger ⟨db, points, received, s.sent ++ effects, executed⟩ := by
  have published : ∀ request ∈ effects.filterMap Effect.request?,
      request.messageId = draw.messageId ∧ request.taskId = row.taskId := by
    intro request member
    rcases move.requests with none | ⟨only, one, same, task⟩
    · rw [none] at member
      cases member
    · rw [one] at member
      obtain rfl := List.mem_singleton.mp member
      exact ⟨same, task⟩
  have requests : (⟨db, points, received, s.sent ++ effects, executed⟩ : OrdersService).requests =
      s.requests ++ effects.filterMap Effect.request? := List.filterMap_append
  have silent : ∀ request ∈ effects.filterMap Effect.request?, ∀ event ∈ received,
      event ∈ s.received := by
    intro request member event here
    rw [receives] at here
    rcases List.mem_append.mp here with old | new
    · exact old
    · rw [quiet (List.ne_nil_of_mem new)] at member
      cases member
  refine ⟨fun message => ?_, fun event member => ?_, fun event member request => ?_,
    fun event member => (answers event member).2.2, ?_, ?_, fun event member => ?_,
    fun execution member => ?_, fun task other found => ?_⟩
  · rw [commits.processed, Bool.or_eq_true, ledger.processed, receives]
    simp only [List.mem_append, or_and_right, exists_or, decide_eq_true_eq]
    refine or_congr Iff.rfl ?_
    cases cause with
    | message m => cases m <;> simp [Cause.processes?, Cause.received]
    | decision | deadLetter => simp [Cause.processes?, Cause.received]
  · rw [requests]
    obtain ⟨request, asked, answered⟩ := (answers event member).1
    exact ⟨request, List.mem_append_left _ asked, answered⟩
  · rw [requests]
    intro asked
    rcases List.mem_append.mp asked with old | new
    · exact (answers event member).2.1 request old
    · rw [(published request new).1]
      have free := fresh (List.ne_nil_of_mem new)
      exact fun same => free.2 event (silent request new event member) same.symm
  · rw [requests, List.map_append]
    refine List.nodup_append.mpr ⟨ledger.requests, ?_, ?_⟩
    · rcases move.requests with none | ⟨only, one, -, -⟩
      · simp [none]
      · simp [one]
    · simp only [List.mem_map, ne_eq]
      rintro _ ⟨old, asked, rfl⟩ _ ⟨new, drawn, rfl⟩ same
      have free := fresh (List.ne_nil_of_mem drawn)
      exact free.1 old asked (same.trans (published new drawn).1)
  · rw [requests, commits.rows]
    intro event member message named
    rcases List.mem_append.mp member with old | new
    · rcases ledger.logged event old message named with ⟨request, asked, same⟩ | ⟨reply, here, same⟩
      · exact .inl ⟨request, List.mem_append_left _ asked, same⟩
      · exact .inr ⟨reply, by rw [receives]; exact List.mem_append_left _ here, same⟩
    · obtain ⟨columns', own, rfl⟩ : ∃ c ∈ columns, c = event.toEventColumns :=
        ⟨event.toEventColumns, mem_of_mem_numbered new, rfl⟩
      have task := commits.own _ own
      rcases move.columns_messageId _ own message named with ⟨reply, rfl, same⟩ | ⟨request, asked, same⟩
      · exact .inr ⟨reply, by rw [receives]; simp [Cause.received], same,
          (about reply (by simp [Cause.received])).trans task.symm⟩
      · exact .inl ⟨request, List.mem_append_right _ asked, same,
          (published request asked).2.trans task.symm⟩
  · change event ∈ db.taskEvents.rows at member
    change db.task? event.taskId ≠ none
    rw [commits.task?]
    split_ifs with here
    · simp
    · rw [commits.rows] at member
      rcases List.mem_append.mp member with old | new
      · exact ledger.events event old
      · exact absurd (mem_numbered_taskId commits.own event new) here
  · change db.task? execution.taskId ≠ none
    rw [commits.task?]
    split_ifs with here
    · simp
    · exact ledger.executed execution ((of execution member).resolve_right here)
  · change db.task? task = some other at found
    rw [commits.task?] at found
    split_ifs at found with here
    · cases found
      rw [move.keeps.orderId, here]
      exact ledger.orderId row.taskId row commits.found
    · exact ledger.orderId task other found

/-- A new order joins the ledger. -/
theorem create (ledger : Ledger s) {db : OrdersDb} {number : TaskId} {executionId itemsJson : String}
    {now : Timestamp} (creates : Creates s.db db number executionId itemsJson now)
    (points : DecisionOwner → DecisionPoint) : Ledger ⟨db, points, s.received, s.sent, s.executed⟩ := by
  refine ⟨fun message => (creates.processed message ▸ ledger.processed message :),
    ledger.answers, ledger.apart, ledger.unique, ledger.requests, ?_, fun event member => ?_,
    fun execution member => ?_, fun task row found => ?_⟩
  · change ∀ row ∈ db.taskEvents.rows, _
    rw [creates.rows]
    simp only [List.forall_mem_append]
    refine ⟨ledger.logged, ?_⟩
    simp [numbered, OrdersDb.taskCreatedColumns]
  · change event ∈ db.taskEvents.rows at member
    change db.task? event.taskId ≠ none
    rw [creates.task?]
    split_ifs with here
    · simp
    · rw [creates.rows] at member
      rcases List.mem_append.mp member with old | new
      · exact ledger.events event old
      · obtain rfl := List.mem_singleton.mp new
        exact absurd rfl here
  · change db.task? execution.taskId ≠ none
    rw [creates.task?]
    split_ifs
    · simp
    · exact ledger.executed execution member
  · change db.task? task = some row at found
    rw [creates.task?] at found
    split_ifs at found with here
    · cases found
      exact here.symm
    · exact ledger.orderId task row found

/-- A message that is ignored brings nothing the ledger does not know. -/
theorem ignore {deployment : Deployment} (ledger : Ledger s) (coherent : Coherent deployment s)
    {message : OrdersMessage} (promised : s.deliverable message) (ignores : s.db.Ignores message)
    (points : DecisionOwner → DecisionPoint) : Ledger ⟨s.db, points, s.receive message, s.sent, s.executed⟩ := by
  have all := ledger.receive promised
  refine ⟨fun id => ?_, fun event member => (all event member).1,
    fun event member => (all event member).2.1, fun event member => (all event member).2.2,
    ledger.requests, ?_, ledger.events, ledger.executed, ledger.orderId⟩
  · change s.db.isEventProcessed id = true ↔ ∃ event ∈ s.receive message, event.messageId = id
    rw [ledger.processed]
    cases message with
    | timeoutCheck | dispatchAttempt | reevaluate => exact Iff.rfl
    | inventoryEvent event =>
      have processed : ∃ earlier ∈ s.received, earlier.messageId = event.messageId := by
        rw [← ledger.processed]
        refine ignores.resolve_right fun absent => ?_
        obtain ⟨effect, sent, about⟩ := exists_sent_of_deliverable promised
        exact (coherent.sent effect sent).1 (by rw [about]; exact absent)
      simp only [OrdersService.receive, List.mem_append, List.mem_singleton, or_and_right, exists_or,
        exists_eq_left]
      refine ⟨.inl, ?_⟩
      rintro (old | rfl)
      · exact old
      · exact processed
  · intro row member id named
    rcases ledger.logged row member id named with old | ⟨event, old, same⟩
    · exact .inl old
    · refine .inr ⟨event, ?_, same⟩
      change event ∈ s.receive message
      rw [receive_eq]
      exact List.mem_append_left _ old

end Ledger

/-- Only an inventory event is received, and its transaction publishes nothing. -/
theorem Move.effects_of_received {config : ExperimentConfig} {db : OrdersDb} {draw : Draw}
    {row row' : TaskRow} {cause : Cause} {columns : List EventColumns} {effects : List Effect} {opens : Bool}
    (move : Move config db draw row cause row' columns effects opens) (received : cause.received ≠ []) :
    effects = [] := by
  cases move <;> first | rfl | simp [Cause.received] at received

/-- The ledger holds in every reachable state. -/
theorem reachable_ledger {deployment : Deployment} {s : OrdersService}
    (reachable : (ordersMachine deployment).Reachable s) : Ledger s := by
  refine Machine.Reachable.invariant ?_ ?_ reachable
  · refine ⟨fun message => ?_, ?_, ?_, ?_, ?_, ?_, ?_, ?_, ?_⟩ <;>
      simp [ordersMachine, OrdersService.initial, OrdersService.requests, OrdersDb.isEventProcessed,
        OrdersDb.empty, EventLog.empty, OrdersDb.task?]
  · intro s label t earlier ledger offered step
    cases step_cases step with
    | uncreated | unconsumed | unlettered => exact ledger
    | built | unbuilt | unresolved | raised =>
      exact ⟨ledger.processed, ledger.answers, ledger.apart, ledger.unique, ledger.requests,
        ledger.logged, ledger.events, ledger.executed, ledger.orderId⟩
    | declined owner output decisionId draw state decision built resolved approved refused =>
      refine ⟨ledger.processed, ledger.answers, ledger.apart, ledger.unique, ledger.requests,
        ledger.logged, ledger.events, fun execution member => ?_, ledger.orderId⟩
      rcases List.mem_append.mp member with old | new
      · exact ledger.executed execution old
      · obtain rfl := List.mem_singleton.mp new
        exact (reachable_coherent earlier).known owner state.taskId (by rw [built, DecisionPoint.task?])
    | created request now db number creates => exact ledger.create creates _
    | consumed message redelivered draw db row row' columns effects opens idle task move commits =>
      have about : ∀ event ∈ (Cause.message message).received, event.taskId = row.taskId := by
        rw [task]
        cases message <;> simp [Cause.received, OrdersMessage.taskId]
      exact ledger.move move commits (fun _ => offered.2) (receive_eq s message)
        (ledger.receive offered.1) about move.effects_of_received _ fun _ => .inl
    | ignored message redelivered draw idle ignores =>
      exact ledger.ignore (reachable_coherent earlier) offered.1 ignores _
    | decided owner output decisionId draw state decision db row row' columns effects built task resolved
        approved move commits =>
      exact ledger.move move commits (fun _ => offered.2) (List.append_nil _).symm
        (fun event member => ⟨ledger.answers event member, ledger.apart event member,
          ledger.unique event member⟩) (by simp [Cause.received]) (by simp [Cause.received]) _
        fun execution member => (List.mem_append.mp member).imp_right fun new => by
          obtain rfl := List.mem_singleton.mp new
          exact task.symm
    | lettered letter now db row row' columns task move commits =>
      have moved := ledger.move move commits (by simp) (List.append_nil _).symm
        (fun event member => ⟨ledger.answers event member, ledger.apart event member,
          ledger.unique event member⟩) (by simp [Cause.received]) (by simp) s.points fun _ => .inl
      simpa only [List.append_nil] using moved

end OrchLab
