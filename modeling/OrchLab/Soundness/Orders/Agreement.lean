import OrchLab.Soundness.Orders.Congruence

/-! # Databases that differ by repeated deliveries

Two databases agree when they hold the same orders, tasks and processed events and their logs answer
every query alike, except that one log has some more rows of repeated inventory events. The one query
these rows can change is `is_awaiting_reply`, so the agreement keeps what it would answer without them.
Every transaction preserves the agreement and returns the same on both sides, a timeout check only
when the added rows do not silence it.
-/

namespace OrchLab

/-- `is_awaiting_reply`, had the rows numbered in `inserted` not been written. -/
def awaitsWithout (inserted : List ℕ) (events : List TaskEvent) (requestMessageId : MessageId) : Bool :=
  match latestRequest events with
  | none => false
  | some request =>
    request.messageId = some requestMessageId &&
      !events.any fun event =>
        event.service = .inventory && request.eventId < event.eventId && event.eventId ∉ inserted

/-- Only the rows numbered in `inserted` keep a timeout check from registering the timeout. -/
def OrdersDb.silenced (db : OrdersDb) (inserted : List ℕ) (task : TaskId) (request : MessageId) : Bool :=
  (db.task? task).any (!·.status.terminal) && awaitsWithout inserted (db.trajectory task) request &&
    !timeoutRegistered (db.trajectory task) request && !isAwaitingReply (db.trajectory task) request

theorem awaitsWithout_nil (events : List TaskEvent) (request : MessageId) :
    awaitsWithout [] events request = isAwaitingReply events request := by
  cases found : latestRequest events <;> simp [awaitsWithout, isAwaitingReply, found]

theorem awaitsWithout_of_isAwaitingReply {inserted : List ℕ} {events : List TaskEvent}
    {request : MessageId} (awaiting : isAwaitingReply events request = true) :
    awaitsWithout inserted events request = true := by
  rw [isAwaitingReply] at awaiting
  rw [awaitsWithout]
  cases latest : latestRequest events with
  | none => simp [latest] at awaiting
  | some row =>
    simp only [latest, Bool.and_eq_true, Bool.not_eq_true', List.any_eq_false] at awaiting
    simp only [Bool.and_eq_true, Bool.not_eq_true', List.any_eq_false]
    exact ⟨awaiting.1, fun event member unseen => awaiting.2 event member unseen.1⟩

/-- Leaving out a row that is not there changes nothing. -/
theorem awaitsWithout_append_of_forall_ne {inserted : List ℕ} {events : List TaskEvent} {number : ℕ}
    (absent : ∀ event ∈ events, event.eventId ≠ number) {request : MessageId} :
    awaitsWithout (inserted ++ [number]) events request = awaitsWithout inserted events request := by
  have same : ∀ request : TaskEvent, (events.any fun event => event.service = .inventory &&
        request.eventId < event.eventId && event.eventId ∉ inserted ++ [number]) =
      events.any fun event => event.service = .inventory && request.eventId < event.eventId &&
        event.eventId ∉ inserted := by
    intro request
    rw [Bool.eq_iff_iff, List.any_eq_true, List.any_eq_true]
    refine exists_congr fun event => and_congr_right fun member => ?_
    simp [absent event member]
  simp only [awaitsWithout, same]

theorem awaitsWithout_concat {inserted : List ℕ} {events : List TaskEvent} {event : TaskEvent}
    (later : ∀ earlier ∈ events, earlier.eventId < event.eventId) (request : MessageId) :
    awaitsWithout inserted (events ++ [event]) request =
      if event.isRequest then decide (event.messageId = some request)
      else awaitsWithout inserted events request &&
        !(decide (event.service = .inventory) && decide (event.eventId ∉ inserted)) := by
  rw [awaitsWithout, latestRequest_concat]
  split_ifs with isRequest
  · have none_after : ((events ++ [event]).any fun other => decide (other.service = .inventory) &&
        decide (event.eventId < other.eventId) && decide (other.eventId ∉ inserted)) = false := by
      simp only [List.any_append, List.any_cons, List.any_nil, lt_irrefl, decide_false, Bool.and_false,
        Bool.false_and, Bool.or_false, List.any_eq_false, Bool.and_eq_true, decide_eq_true_eq, not_and]
      exact fun other member unseen => absurd unseen.2 (later other member).not_gt
    simp only [none_after, Bool.not_false, Bool.and_true]
  · rw [awaitsWithout]
    cases found : latestRequest events with
    | none => rfl
    | some latest =>
      have after := later latest (mem_of_lastWhere found)
      simp only [List.any_append, List.any_cons, List.any_nil, after, decide_true, Bool.true_and,
        Bool.or_false, Bool.not_or, Bool.and_assoc]

namespace OrdersDb

theorem eventSeqOfMessage_appendEvent (db : OrdersDb) (columns : EventColumns) (message : MessageId) :
    (db.appendEvent columns).eventSeqOfMessage message = (db.eventSeqOfMessage message).or
      (if columns.messageId = some message ∧ columns.redelivered = false then some columns.eventSeq
        else none) := by
  simp only [eventSeqOfMessage, appendEvent, EventLog.append, List.find?_append, Option.map_or,
    List.find?_singleton]
  congr 1
  by_cases same : columns.messageId = some message ∧ columns.redelivered = false
  · simp [same]
  · rw [if_neg same, if_neg (by simpa using same), Option.map_none]

/-- The later database is the earlier one with more rows of repeated deliveries in its log, those
numbered in `inserted`. -/
structure Agree (inserted : List ℕ) (db db' : OrdersDb) : Prop where
  orders : db'.orders = db.orders
  tasks : db'.tasks = db.tasks
  processedEvents : db'.processedEvents = db.processedEvents
  position : ∀ message, db'.eventSeqOfMessage message = db.eventSeqOfMessage message
  latest : ∀ task, (latestRequest (db'.trajectory task)).map TaskEvent.toEventColumns =
    (latestRequest (db.trajectory task)).map TaskEvent.toEventColumns
  registered : ∀ task request,
    timeoutRegistered (db'.trajectory task) request = timeoutRegistered (db.trajectory task) request
  finished : ∀ task waitCount,
    waitFinished (db'.trajectory task) waitCount = waitFinished (db.trajectory task) waitCount
  awaiting : ∀ task request,
    isAwaitingReply (db.trajectory task) request = awaitsWithout inserted (db'.trajectory task) request
  bounded : ∀ number ∈ inserted, number ≤ db'.taskEvents.rows.length

namespace Agree

variable {inserted : List ℕ} {db db' : OrdersDb}

theorem refl (db : OrdersDb) : Agree [] db db where
  orders := rfl
  tasks := rfl
  processedEvents := rfl
  position _ := rfl
  latest _ := rfl
  registered _ _ := rfl
  finished _ _ := rfl
  awaiting _ _ := (awaitsWithout_nil ..).symm
  bounded _ member := by cases member

theorem task? (agree : Agree inserted db db') (task : TaskId) : db'.task? task = db.task? task := by
  rw [OrdersDb.task?, agree.tasks]
  rfl

theorem order? (agree : Agree inserted db db') (order : OrderId) : db'.order? order = db.order? order := by
  rw [OrdersDb.order?, agree.orders]
  rfl

theorem isEventProcessed (agree : Agree inserted db db') (message : MessageId) :
    db'.isEventProcessed message = db.isEventProcessed message := by
  rw [OrdersDb.isEventProcessed, agree.processedEvents]
  rfl

/-! ## Writing on both sides -/

theorem modifyTask (agree : Agree inserted db db') (task : TaskId) (f : TaskRow → TaskRow)
    (keeps : ∀ row, (f row).taskId = row.taskId) :
    Agree inserted (db.modifyTask task f keeps) (db'.modifyTask task f keeps) :=
  { agree with tasks := by rw [OrdersDb.modifyTask, agree.tasks]; rfl }

theorem setOrderStatus (agree : Agree inserted db db') (order : OrderId) (status : OrderStatus)
    (now : Timestamp) :
    Agree inserted (db.setOrderStatus order status now) (db'.setOrderStatus order status now) :=
  { agree with orders := by rw [OrdersDb.setOrderStatus, agree.orders]; rfl }

theorem withProcessed (agree : Agree inserted db db') (processedEvents : Table ProcessedEvent.messageId) :
    Agree inserted { db with processedEvents } { db' with processedEvents } :=
  { agree with processedEvents := rfl }

theorem withCreated (agree : Agree inserted db db') (orders : Table OrderRow.orderId)
    (tasks : Table TaskRow.taskId) : Agree inserted { db with orders, tasks } { db' with orders, tasks } :=
  { agree with orders := rfl, tasks := rfl }

theorem appendEvent (agree : Agree inserted db db') (columns : EventColumns) :
    Agree inserted (db.appendEvent columns) (db'.appendEvent columns) where
  orders := agree.orders
  tasks := agree.tasks
  processedEvents := agree.processedEvents
  position message := by
    rw [eventSeqOfMessage_appendEvent, eventSeqOfMessage_appendEvent, agree.position]
  latest task := by
    simp only [trajectory_appendEvent]
    split_ifs
    · rw [latestRequest_concat, latestRequest_concat]
      have same : TaskEvent.isRequest { columns with eventId := db'.taskEvents.rows.length + 1 } =
        TaskEvent.isRequest { columns with eventId := db.taskEvents.rows.length + 1 } := rfl
      rw [same]
      split_ifs
      · rfl
      · exact agree.latest task
    · exact agree.latest task
  registered task request := by
    simp only [trajectory_appendEvent]
    split_ifs
    · simp only [timeoutRegistered_concat, agree.registered]
    · exact agree.registered task request
  finished task waitCount := by
    simp only [trajectory_appendEvent]
    split_ifs
    · simp only [waitFinished_concat, agree.finished]
    · exact agree.finished task waitCount
  awaiting task request := by
    have new : db'.taskEvents.rows.length + 1 ∉ inserted := fun member =>
      absurd (agree.bounded _ member) (Nat.not_succ_le_self _)
    simp only [trajectory_appendEvent]
    split_ifs
    · rw [isAwaitingReply_concat _ _ _ fun _ => eventId_lt_of_mem_trajectory,
        awaitsWithout_concat fun _ => eventId_lt_of_mem_trajectory, agree.awaiting]
      simp [TaskEvent.isRequest, new]
    · exact agree.awaiting task request
  bounded number member := (agree.bounded number member).trans (by simp [EventLog.append])

/-- The row of a repeated delivery, on one side only. -/
theorem appendRepeated (agree : Agree inserted db db') (event : MessageEnvelope) (eventSeq : ℕ)
    (reply : event.eventType = .stockReservationSucceeded ∨ event.eventType = .stockReservationFailed)
    (now : Timestamp) :
    Agree (inserted ++ [db'.taskEvents.rows.length + 1]) db
      (db'.appendEvent (messageColumns event eventSeq .inventory true now)) where
  orders := agree.orders
  tasks := agree.tasks
  processedEvents := agree.processedEvents
  position message := by simp [eventSeqOfMessage_appendEvent, messageColumns, agree.position]
  latest task := by
    rw [trajectory_appendEvent]
    split_ifs
    · simp [TaskEvent.isRequest, messageColumns, agree.latest]
    · exact agree.latest task
  registered task request := by
    rw [trajectory_appendEvent]
    split_ifs
    · rcases reply with type | type <;> simp [messageColumns, type, agree.registered]
    · exact agree.registered task request
  finished task waitCount := by
    rw [trajectory_appendEvent]
    split_ifs
    · rcases reply with type | type <;> simp [messageColumns, type, agree.finished]
    · exact agree.finished task waitCount
  awaiting task request := by
    have old : ∀ event ∈ db'.trajectory task, event.eventId ≠ db'.taskEvents.rows.length + 1 :=
      fun event member => (eventId_lt_of_mem_trajectory member).ne
    have widened : awaitsWithout (inserted ++ [db'.taskEvents.rows.length + 1]) (db'.trajectory task) request =
        awaitsWithout inserted (db'.trajectory task) request := awaitsWithout_append_of_forall_ne old
    rw [trajectory_appendEvent]
    split_ifs
    · rw [awaitsWithout_concat fun _ => eventId_lt_of_mem_trajectory, widened, agree.awaiting]
      simp [TaskEvent.isRequest, messageColumns]
    · rw [widened, agree.awaiting]
  bounded number member := by
    rcases List.mem_append.mp member with old | new
    · exact (agree.bounded number old).trans (by simp [EventLog.append])
    · simp [List.mem_singleton.mp new, EventLog.append]

end Agree

/-- Agreeing databases with the same value. -/
def AgreeWith (inserted : List ℕ) {α : Type} (x y : OrdersDb × α) : Prop :=
  Agree inserted x.1 y.1 ∧ y.2 = x.2

namespace Agree

variable {inserted : List ℕ} {db db' : OrdersDb}

theorem insertProcessedEvent (agree : Agree inserted db db') (event : MessageEnvelope) (now : Timestamp) :
    ExceptRel (Agree inserted) (db.insertProcessedEvent event now) (db'.insertProcessedEvent event now) := by
  rw [OrdersDb.insertProcessedEvent, OrdersDb.insertProcessedEvent, agree.processedEvents]
  cases db.processedEvents.insert? ⟨event.messageId, event.taskId, event.eventType, now⟩ with
  | none => exact .error _
  | some processedEvents => exact .ok (agree.withProcessed processedEvents)

/-- What a transaction reads of its task and writes to it respects the agreement. -/
theorem congruence (inserted : List ℕ) (task : TaskId) :
    Congruence (Agree inserted) task fun _ => True where
  task? agree := agree.task? task
  order? agree _ := agree.order? _
  isEventProcessed agree _ := agree.isEventProcessed _
  position agree _ := agree.position _
  latest agree := agree.latest task
  finished agree := agree.finished task
  modifyTask agree f keeps _ := agree.modifyTask task f keeps
  setOrderStatus agree _ := agree.setOrderStatus _
  insertProcessedEvent agree event now _ := agree.insertProcessedEvent event now
  appendEvent agree columns _ _ := agree.appendEvent columns

/-! ## The transactions that read more -/

theorem createOrderWithTask (agree : Agree inserted db db') (executionId itemsJson : String)
    (now : Timestamp) : ExceptRel (AgreeWith inserted) (db.createOrderWithTask executionId itemsJson now)
      (db'.createOrderWithTask executionId itemsJson now) := by
  have number : db'.nextOrderNumber = db.nextOrderNumber := by
    rw [nextOrderNumber, agree.orders]
    rfl
  simp only [OrdersDb.createOrderWithTask, number, agree.orders, agree.tasks]
  split
  · exact ((congruence inserted db.nextOrderNumber).recordEvent (agree.withCreated _ _) _ rfl
      fun _ _ => trivial).map fun _ _ agree => ⟨agree, rfl⟩
  · exact .error _

/-- A timeout check returns the same when the added rows do not silence it. -/
theorem registerTimeout (agree : Agree inserted db db') (now : Timestamp) (task : TaskId)
    (request : MessageId) (heard : db'.silenced inserted task request = false) :
    ExceptRel (AgreeWith inserted) (db.registerTimeout now task request)
      (db'.registerTimeout now task request) := by
  simp only [OrdersDb.registerTimeout, silenced, agree.task?, agree.registered, agree.awaiting] at heard ⊢
  cases found : db.task? task with
  | none => exact .ok ⟨agree, rfl⟩
  | some row =>
    have silent : awaitsWithout inserted (db'.trajectory task) request = false →
        isAwaitingReply (db'.trajectory task) request = false := fun none =>
      Bool.eq_false_iff.mpr fun awaiting => Bool.eq_false_iff.mp none (awaitsWithout_of_isAwaitingReply awaiting)
    simp only [found, Option.any_some, Bool.and_eq_false_imp, Bool.and_eq_true, Bool.not_eq_true',
      Bool.not_eq_false'] at heard
    simp only
    cases alive : row.status.terminal with
    | true => exact .ok ⟨agree, rfl⟩
    | false =>
      cases registered : timeoutRegistered (db.trajectory task) request with
      | true => simpa using .ok ⟨agree, rfl⟩
      | false =>
        cases awaiting : awaitsWithout inserted (db'.trajectory task) request with
        | false =>
          rw [silent awaiting]
          exact .ok ⟨agree, rfl⟩
        | true =>
          rw [heard ⟨⟨alive, awaiting⟩, registered⟩]
          exact ((congruence inserted task).recordInternalEvent (agree.modifyTask task _ _) _ _ _).map
            fun _ _ agree => ⟨agree, rfl⟩

/-- A silenced timeout check registers the timeout without the added rows and nothing with them. -/
theorem registerTimeout_of_silenced (agree : Agree inserted db db') (now : Timestamp) {task : TaskId}
    {request : MessageId} (silenced : db'.silenced inserted task request = true) :
    (∃ registered, db.registerTimeout now task request = .ok (registered, true)) ∧
      db'.registerTimeout now task request = .ok (db', false) := by
  simp only [OrdersDb.silenced, agree.task?, agree.registered, Bool.and_eq_true, Bool.not_eq_true'] at silenced
  obtain ⟨⟨⟨live, awaiting⟩, unregistered⟩, silent⟩ := silenced
  obtain ⟨row, found, alive⟩ := (Option.any_eq_true _ _).mp live
  have waits := (agree.awaiting task request).trans awaiting
  simp only [Bool.not_eq_true'] at alive
  constructor
  · simp only [OrdersDb.registerTimeout, found, alive, waits, unregistered, Bool.not_true,
      Bool.false_eq_true, ↓reduceIte]
    have noted : (db.setLastResult task (timeoutResult row.currentTarget) now).task? task =
        some (row.setLastResult (timeoutResult row.currentTarget) now) := by
      rw [OrdersDb.setLastResult, task?_modifyTask, if_pos rfl, found, Option.map_some]
    rw [recordInternalEvent_of_found noted]
    exact ⟨_, rfl⟩
  · simp [OrdersDb.registerTimeout, agree.task?, found, alive, silent]

end Agree

end OrdersDb

end OrchLab
