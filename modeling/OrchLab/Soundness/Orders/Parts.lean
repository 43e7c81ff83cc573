import OrchLab.Soundness.Orders.Congruence
import OrchLab.Soundness.Orders.Renumbering

/-! # What the database holds about one task

The part of a task: its row, its order, its trajectory without the numbers, its distinct occurrences, and for
the messages of the task the rows of the whole log that name them and what has been processed. The queries by
message identifier alone read no more than that as long as a message has one owner. A transaction on another
task leaves the part as it is, and a transaction on the task itself depends on nothing else.
-/

namespace OrchLab

namespace OrdersDb

/-- The rows that name a message, of whichever task. -/
def mentions (db : OrdersDb) (message : MessageId) : List TaskEvent :=
  db.taskEvents.rows.filter fun event => event.messageId = some message

/-- A row would name a message that is named before. -/
def namesAgain (db : OrdersDb) (columns : EventColumns) : Bool :=
  columns.messageId.any fun message => !(db.mentions message).isEmpty

theorem eventSeqOfMessage_eq (db : OrdersDb) (message : MessageId) : db.eventSeqOfMessage message =
    (((db.mentions message).map TaskEvent.toEventColumns).find? fun event => !event.redelivered).map
      EventColumns.eventSeq := by
  simp [eventSeqOfMessage, mentions, List.find?_map, List.find?_filter, Option.map_map, Function.comp_def]

theorem mentions_appendEvent (db : OrdersDb) (columns : EventColumns) (message : MessageId) :
    ((db.appendEvent columns).mentions message).map TaskEvent.toEventColumns =
      (db.mentions message).map TaskEvent.toEventColumns ++
        if columns.messageId = some message then [columns] else [] := by
  rw [mentions, appendEvent, EventLog.append, List.filter_append, List.map_append]
  congr 1
  split_ifs with names <;> simp [names]

/-- A row repeats the message of an earlier one. -/
def repeated (rows : List TaskEvent) (event : TaskEvent) : Bool := rows.any fun earlier =>
  event.messageId.isSome && earlier.messageId = event.messageId && earlier.eventId < event.eventId

theorem repeated_concat {rows : List TaskEvent} {event row : TaskEvent} (late : event.eventId ≤ row.eventId) :
    repeated (rows ++ [row]) event = repeated rows event := by
  simp [repeated, late.not_gt]

theorem repeated_new (db : OrdersDb) (columns : EventColumns) :
    repeated db.taskEvents.rows ⟨columns, db.taskEvents.rows.length + 1⟩ = db.namesAgain columns := by
  have numbered : ∀ event ∈ db.taskEvents.rows, event.eventId < db.taskEvents.rows.length + 1 :=
    fun event member => Nat.lt_succ_of_le (EventLog.eventId_le member)
  rw [Bool.eq_iff_iff, repeated, namesAgain, List.any_eq_true]
  cases columns.messageId with
  | none => simp
  | some message =>
    simp only [Option.isSome_some, Bool.true_and, Bool.and_eq_true, decide_eq_true_eq, Option.any_some,
      mentions, Bool.not_eq_true', List.isEmpty_eq_false_iff, ne_eq, List.filter_eq_nil_iff, not_forall, not_not]
    exact ⟨fun ⟨event, member, same, _⟩ => ⟨event, member, same⟩,
      fun ⟨event, member, same⟩ => ⟨event, member, same, numbered event member⟩⟩

/-- An appended row occurs unless it names a message again. -/
theorem distinctOccurrences_appendEvent (db : OrdersDb) (columns : EventColumns) (task : TaskId) :
    (db.appendEvent columns).distinctOccurrences task = db.distinctOccurrences task ++
      if columns.taskId = task ∧ db.namesAgain columns = false then
        [⟨columns, db.taskEvents.rows.length + 1⟩] else [] := by
  have old : ((db.trajectory task).filter fun event => !repeated (db.taskEvents.rows ++
        [⟨columns, db.taskEvents.rows.length + 1⟩]) event) =
      (db.trajectory task).filter fun event => !repeated db.taskEvents.rows event := by
    refine List.filter_congr fun event member => ?_
    rw [repeated_concat (eventId_lt_of_mem_trajectory member).le]
  have new : repeated (db.taskEvents.rows ++ [⟨columns, db.taskEvents.rows.length + 1⟩])
      ⟨columns, db.taskEvents.rows.length + 1⟩ = db.namesAgain columns := by
    rw [repeated_concat le_rfl, repeated_new]
  change ((db.appendEvent columns).trajectory task).filter (fun event => !repeated (db.taskEvents.rows ++
      [⟨columns, db.taskEvents.rows.length + 1⟩]) event) =
    (db.trajectory task).filter (fun event => !repeated db.taskEvents.rows event) ++ _
  rw [trajectory_appendEvent]
  by_cases own : columns.taskId = task
  · rw [if_pos own, List.filter_append, old, List.filter_singleton, new]
    cases again : db.namesAgain columns <;> simp [own]
  · rw [if_neg own, old, if_neg fun occurs => own occurs.1, List.append_nil]

end OrdersDb

/-- What the database holds about a task and about the messages `owner` gives to it. -/
@[ext] structure TaskPart where
  row : Option TaskRow
  order : Option OrderRow
  nextOrderNumber : ℕ
  trajectory : List EventColumns
  occurrences : List EventColumns
  mentions : MessageId → List EventColumns
  processed : MessageId → Option ProcessedEvent

/-- The part of the database that concerns a task. -/
def TaskPart.of (owner : MessageId → TaskId) (task : TaskId) (db : OrdersDb) : TaskPart where
  row := db.task? task
  order := db.order? task
  nextOrderNumber := db.nextOrderNumber
  trajectory := (db.trajectory task).map TaskEvent.toEventColumns
  occurrences := (db.distinctOccurrences task).map TaskEvent.toEventColumns
  mentions message := if owner message = task then (db.mentions message).map TaskEvent.toEventColumns else []
  processed message := if owner message = task then db.processedEvents.find? message else none

/-- A row of the task would name a message that is named before. -/
def TaskPart.namesAgain (part : TaskPart) (columns : EventColumns) : Bool :=
  columns.messageId.any fun message => !(part.mentions message).isEmpty

/-- The part with one more row of the task. -/
def TaskPart.append (part : TaskPart) (columns : EventColumns) : TaskPart :=
  { part with
    trajectory := part.trajectory ++ [columns]
    occurrences := part.occurrences ++ if part.namesAgain columns then [] else [columns]
    mentions := fun message =>
      part.mentions message ++ if columns.messageId = some message then [columns] else [] }

namespace TaskPart

variable {owner : MessageId → TaskId} {task other : TaskId} {db db' : OrdersDb}

/-! ## What the writes do to a part -/

theorem of_modifyTask (f : TaskRow → TaskRow) (keeps : ∀ row, (f row).taskId = row.taskId) :
    of owner task (db.modifyTask other f keeps) =
      if task = other then { of owner task db with row := (of owner task db).row.map f } else of owner task db := by
  split_ifs with same
  · subst same
    refine TaskPart.ext ?_ rfl rfl rfl rfl rfl rfl
    exact (db.task?_modifyTask task task f keeps).trans (if_pos rfl)
  · refine TaskPart.ext ?_ rfl rfl rfl rfl rfl rfl
    exact (db.task?_modifyTask other task f keeps).trans (if_neg same)

theorem of_setOrderStatus (order : OrderId) (status : OrderStatus) (now : Timestamp) :
    of owner task (db.setOrderStatus order status now) =
      if task = order then
        { of owner task db with order := (of owner task db).order.map (OrderRow.setStatus · status now) }
      else of owner task db := by
  have number : (db.setOrderStatus order status now).nextOrderNumber = db.nextOrderNumber := by
    simp [OrdersDb.nextOrderNumber, OrdersDb.setOrderStatus, Table.modify]
  split_ifs with same
  · subst same
    refine TaskPart.ext rfl ?_ number rfl rfl rfl rfl
    exact (db.order?_setOrderStatus task status now task).trans (if_pos rfl)
  · refine TaskPart.ext rfl ?_ number rfl rfl rfl rfl
    exact (db.order?_setOrderStatus order status now task).trans (if_neg same)

theorem of_processed {row : ProcessedEvent} {processedEvents : Table ProcessedEvent.messageId}
    (inserted : db.processedEvents.insert? row = some processedEvents) :
    of owner task { db with processedEvents } =
      if owner row.messageId = task then
        { of owner task db with processed := Function.update (of owner task db).processed row.messageId (some row) }
      else of owner task db := by
  split_ifs with own
  · refine TaskPart.ext rfl rfl rfl rfl rfl rfl (funext fun message => ?_)
    simp only [of, Table.find?_of_insert? inserted, Function.update_apply, eq_comm]
    split_ifs with here named <;> simp_all
  · refine TaskPart.ext rfl rfl rfl rfl rfl rfl (funext fun message => ?_)
    simp only [of, Table.find?_of_insert? inserted]
    split_ifs with here named <;> simp_all

theorem namesAgain_of {columns : EventColumns}
    (own : ∀ message, columns.messageId = some message → owner message = task) :
    (of owner task db).namesAgain columns = db.namesAgain columns := by
  rw [namesAgain, OrdersDb.namesAgain]
  cases names : columns.messageId with
  | none => rfl
  | some message => simp [of, own message names]

theorem of_appendEvent {columns : EventColumns}
    (own : ∀ message, columns.messageId = some message → owner message = columns.taskId) :
    of owner task (db.appendEvent columns) =
      if columns.taskId = task then (of owner task db).append columns else of owner task db := by
  split_ifs with about
  · subst about
    refine TaskPart.ext rfl rfl rfl ?_ ?_ (funext fun message => ?_) rfl
    · simp [of, append, OrdersDb.trajectory_appendEvent]
    · rw [append, namesAgain_of own]
      simp only [of, OrdersDb.distinctOccurrences_appendEvent, List.map_append, true_and]
      cases db.namesAgain columns <;> rfl
    · simp only [of, append, OrdersDb.mentions_appendEvent]
      by_cases here : owner message = columns.taskId
      · rw [if_pos here, if_pos here]
      · rw [if_neg here, if_neg here, if_neg fun names => here (own message names)]
        rfl
  · refine TaskPart.ext rfl rfl rfl ?_ ?_ (funext fun message => ?_) rfl
    · simp [of, OrdersDb.trajectory_appendEvent, about]
    · simp [of, OrdersDb.distinctOccurrences_appendEvent, about]
    · simp only [of, OrdersDb.mentions_appendEvent]
      by_cases here : owner message = task
      · rw [if_pos here, if_pos here, if_neg fun names => about ((own message names).symm.trans here),
          List.append_nil]
      · rw [if_neg here, if_neg here]

/-! ## What a part decides -/

section Reads

variable (same : of owner task db' = of owner task db)
include same

theorem task?_eq : db'.task? task = db.task? task := congrArg TaskPart.row same

theorem order?_eq : db'.order? task = db.order? task := congrArg TaskPart.order same

theorem find?_processedEvents_eq {message : MessageId} (own : owner message = task) :
    db'.processedEvents.find? message = db.processedEvents.find? message := by
  simpa [of, own] using congrFun (congrArg TaskPart.processed same) message

theorem isEventProcessed_eq {message : MessageId} (own : owner message = task) :
    db'.isEventProcessed message = db.isEventProcessed message :=
  congrArg Option.isSome (find?_processedEvents_eq same own)

theorem eventSeqOfMessage_eq {message : MessageId} (own : owner message = task) :
    db'.eventSeqOfMessage message = db.eventSeqOfMessage message := by
  have mentions : (db'.mentions message).map TaskEvent.toEventColumns =
      (db.mentions message).map TaskEvent.toEventColumns := by
    simpa [of, own] using congrFun (congrArg TaskPart.mentions same) message
  rw [db'.eventSeqOfMessage_eq, db.eventSeqOfMessage_eq, mentions]

theorem renumbered : Renumbered (db.trajectory task) (db'.trajectory task) :=
  .of_columns ((EventLog.pairwise_eventId _).filter _) ((EventLog.pairwise_eventId _).filter _)
    (congrArg TaskPart.trajectory same)

theorem recentEvents_eq (limit : ℕ) : db'.recentEvents task limit = db.recentEvents task limit := by
  have columns : ∀ db : OrdersDb, db.recentEvents task limit =
      ((((db.distinctOccurrences task).map TaskEvent.toEventColumns).reverse.take limit).map
        fun event => ⟨event.eventSeq, event.eventType, event.attemptNumber⟩).reverse := by
    intro db
    rw [OrdersDb.recentEvents, ← List.map_reverse (f := TaskEvent.toEventColumns),
      ← List.map_take (f := TaskEvent.toEventColumns), List.map_map]
    rfl
  have occurrences : (db'.distinctOccurrences task).map TaskEvent.toEventColumns =
      (db.distinctOccurrences task).map TaskEvent.toEventColumns := congrArg TaskPart.occurrences same
  rw [columns, columns, occurrences]

/-- Two databases with the same part build the same state. -/
theorem build_eq (config : ExperimentConfig) (seen : Observation) :
    db'.build config task seen = db.build config task seen := by
  have trajectory := renumbered same
  simp only [OrdersDb.build, task?_eq same, trajectory.latencyMs, trajectory.lastEventRedelivered,
    recentEvents_eq same]

end Reads

end TaskPart

/-! ## Transactions on the task and on another one -/

/-- The task, if there is one, is the task of the order with its number. -/
def OrdersDb.OwnOrder (db : OrdersDb) (task : TaskId) : Prop :=
  ∀ row, db.task? task = some row → row.orderId = task

namespace OrdersDb.OwnOrder

variable {db : OrdersDb} {task : TaskId}

theorem modifyTask (own : db.OwnOrder task) {f : TaskRow → TaskRow} (keeps : ∀ row, (f row).taskId = row.taskId)
    (order : ∀ row, (f row).orderId = row.orderId) : (db.modifyTask task f keeps).OwnOrder task := by
  intro row found
  rw [task?_modifyTask, if_pos rfl, Option.map_eq_some_iff] at found
  obtain ⟨before, there, rfl⟩ := found
  rw [order]
  exact own before there

end OrdersDb.OwnOrder

namespace TaskPart

variable {owner : MessageId → TaskId} {task other : TaskId}

/-- Two databases with the same part of a task. -/
structure Alike (owner : MessageId → TaskId) (task : TaskId) (db db' : OrdersDb) : Prop where
  part : of owner task db' = of owner task db
  ownOrder : db.OwnOrder task

/-- A database with a given part of a task, next to itself. -/
structure Untouched (owner : MessageId → TaskId) (task other : TaskId) (part : TaskPart) (db db' : OrdersDb) :
    Prop where
  eq : db' = db
  part : of owner task db = part
  ownOrder : db.OwnOrder other

/-- The transactions on a task read and write its part alone. -/
theorem congruence_alike (owner : MessageId → TaskId) (task : TaskId) :
    Congruence (Alike owner task) task fun message => owner message = task where
  task? alike := task?_eq alike.part
  order? alike found := by rw [alike.ownOrder _ found, order?_eq alike.part]
  isEventProcessed alike own := isEventProcessed_eq alike.part own
  position alike own := eventSeqOfMessage_eq alike.part own
  latest alike := (renumbered alike.part).latestRequest
  finished alike := (renumbered alike.part).waitFinished
  modifyTask alike f keeps order :=
    ⟨by rw [of_modifyTask, of_modifyTask, alike.part], alike.ownOrder.modifyTask keeps order⟩
  setOrderStatus alike _ status now :=
    ⟨by rw [of_setOrderStatus, of_setOrderStatus, alike.part], alike.ownOrder⟩
  insertProcessedEvent {db db'} alike event now own := by
    have known := find?_processedEvents_eq alike.part own
    rw [OrdersDb.insertProcessedEvent, OrdersDb.insertProcessedEvent]
    generalize made : (⟨event.messageId, event.taskId, event.eventType, now⟩ : ProcessedEvent) = row
    have key : row.messageId = event.messageId := by rw [← made]
    rw [← key] at known
    cases inserted : db.processedEvents.insert? row with
    | none =>
      have taken := known.trans_ne (Table.insert?_eq_none_iff.mp inserted)
      rw [Table.insert?_eq_none_iff.mpr taken]
      exact .error _
    | some processedEvents =>
      obtain ⟨_, inserted'⟩ := Table.insert?_isSome (known.trans (Table.insert?_eq_some_iff.mp inserted).1)
      rw [inserted']
      exact .ok ⟨by rw [of_processed inserted, of_processed inserted', alike.part], alike.ownOrder⟩
  appendEvent {db db'} alike columns about own := by
    have owned : ∀ message, columns.messageId = some message → owner message = columns.taskId :=
      fun message names => (own message names).trans about.symm
    exact ⟨by rw [of_appendEvent owned, of_appendEvent owned, alike.part], alike.ownOrder⟩

/-- The transactions on another task leave the part alone. -/
theorem congruence_untouched (apart : task ≠ other) (part : TaskPart) :
    Congruence (Untouched owner task other part) other fun message => owner message = other where
  task? untouched := by rw [untouched.eq]
  order? untouched _ := by rw [untouched.eq]
  isEventProcessed untouched _ := by rw [untouched.eq]
  position untouched _ := by rw [untouched.eq]
  latest untouched := by rw [untouched.eq]
  finished untouched _ := by rw [untouched.eq]
  modifyTask untouched f keeps order :=
    ⟨by rw [untouched.eq], by rw [of_modifyTask, if_neg apart, untouched.part],
      untouched.ownOrder.modifyTask keeps order⟩
  setOrderStatus {_ _ row} untouched found status now := by
    have own := untouched.ownOrder row found
    exact ⟨by rw [untouched.eq], by rw [of_setOrderStatus, own, if_neg apart, untouched.part], untouched.ownOrder⟩
  insertProcessedEvent {db db'} untouched event now own := by
    rw [untouched.eq, OrdersDb.insertProcessedEvent]
    cases inserted : db.processedEvents.insert? ⟨event.messageId, event.taskId, event.eventType, now⟩ with
    | none => exact .error _
    | some processedEvents =>
      refine .ok ⟨rfl, ?_, untouched.ownOrder⟩
      rw [of_processed inserted, if_neg fun mine => apart (mine.symm.trans own), untouched.part]
  appendEvent {db db'} untouched columns about own := by
    have owned : ∀ message, columns.messageId = some message → owner message = columns.taskId :=
      fun message names => (own message names).trans about.symm
    refine ⟨by rw [untouched.eq], ?_, untouched.ownOrder⟩
    rw [of_appendEvent owned, about, if_neg apart.symm, untouched.part]

end TaskPart

end OrchLab
