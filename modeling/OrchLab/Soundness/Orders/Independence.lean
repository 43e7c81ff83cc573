import OrchLab.Machine.Locality
import OrchLab.Soundness.Orders.Final
import OrchLab.Soundness.Orders.Items
import OrchLab.Soundness.Orders.Parts

/-! # Independent tasks

A transaction on a task leaves the row, the order and the trajectory of every other task as they are. What
the other task is later asked, or is built into, is the same with it and without it, and two adjacent
transactions on different tasks can be swapped but for the numbers of their rows. Messages of different tasks
must not share an identifier: deduplication, the position of a message and the window of a state go by it.
-/

namespace OrchLab

/-- No two messages of different tasks share an identifier. -/
def DistinctMessages (transactions : List Transaction) : Prop :=
  ∀ transaction ∈ transactions, ∀ other ∈ transactions, ∀ message ∈ transaction.messageIds,
    message ∈ other.messageIds → transaction.task? = other.task?

instance (transactions : List Transaction) : Decidable (DistinctMessages transactions) :=
  inferInstanceAs (Decidable (∀ transaction ∈ transactions, ∀ other ∈ transactions,
    ∀ message ∈ transaction.messageIds, message ∈ other.messageIds → transaction.task? = other.task?))

/-- The messages of a transaction are those of its task. -/
def Transaction.OwnedBy (owner : MessageId → TaskId) (transaction : Transaction) : Prop :=
  ∀ task, transaction.task? = some task → ∀ message ∈ transaction.messageIds, owner message = task

/-- Messages with identifiers of their own have an owner. -/
theorem DistinctMessages.exists_owner {transactions : List Transaction}
    (distinct : DistinctMessages transactions) :
    ∃ owner, ∀ transaction ∈ transactions, transaction.OwnedBy owner := by
  refine ⟨fun message => ((transactions.find? fun transaction => message ∈ transaction.messageIds).bind
    Transaction.task?).getD 0, fun transaction member task about message mine => ?_⟩
  cases found : transactions.find? fun transaction => message ∈ transaction.messageIds with
  | none => simpa [mine] using List.find?_eq_none.mp found transaction member
  | some first =>
    have named : message ∈ first.messageIds := by simpa using List.find?_some found
    have same := distinct first (List.mem_of_find?_eq_some found) transaction member message named mine
    simp only [found, Option.bind_some, same, about, Option.getD_some]

/-! ## One transaction -/

/-- What holds of the database of every run of transactions. -/
structure OrdersDb.Sound (db : OrdersDb) : Prop where
  mirrored : db.Mirrored
  consecutive : db.Consecutive

namespace OrdersDb.Sound

variable {db : OrdersDb}

theorem perform (sound : db.Sound) (config : ExperimentConfig) (transaction : Transaction) :
    (db.perform config transaction).1.Sound :=
  ⟨sound.mirrored.perform transaction, sound.consecutive.perform config transaction⟩

/-- The next number has no task. -/
theorem task?_next (sound : db.Sound) : db.task? db.nextOrderNumber = none := by
  by_contra taken
  obtain ⟨row, found⟩ := Option.ne_none_iff_exists'.mp taken
  have order := (sound.mirrored.mirrored _ row found).order
  rw [sound.mirrored.orderId _ row found, sound.consecutive.order?_next] at order
  cases order

end OrdersDb.Sound

/-- The database of a run of transactions, and so of every reachable state of the service. -/
theorem OrdersDb.sound_performAll (config : ExperimentConfig) (history : List Transaction) :
    (OrdersDb.empty.performAll config history).1.Sound :=
  performAll_invariant (fun _ transaction before => before.perform config transaction)
    ⟨mirrored_empty, .empty⟩ history

namespace TaskPart

variable {owner : MessageId → TaskId} {task : TaskId} {db db' : OrdersDb}

/-- A new order and its task show in the part of the task with their number. -/
theorem of_created {order : OrderRow} {row : TaskRow} {orders : Table OrderRow.orderId}
    {tasks : Table TaskRow.taskId} (ordered : db.orders.insert? order = some orders)
    (added : db.tasks.insert? row = some tasks) :
    of owner task { db with orders, tasks } =
      { of owner task db with
        row := if row.taskId = task then some row else (of owner task db).row
        order := if order.orderId = task then some order else (of owner task db).order
        nextOrderNumber := (of owner task db).nextOrderNumber + 1 } := by
  refine TaskPart.ext ?_ ?_ ?_ rfl rfl rfl rfl
  · exact Table.find?_of_insert? added task
  · exact Table.find?_of_insert? ordered task
  · change orders.rows.length + 1 = db.orders.rows.length + 1 + 1
    rw [(Table.insert?_eq_some_iff.mp ordered).2, List.length_append, List.length_singleton]

/-- A new order changes a part by what it is, and takes the same number. -/
theorem createOrder_congr (sound : db.Sound) (sound' : db'.Sound)
    (same : of owner task db' = of owner task db) (config : ExperimentConfig) (executionId itemsJson : String)
    (now : Timestamp) :
    of owner task (db'.perform config (.createOrder executionId itemsJson now)).1 =
        of owner task (db.perform config (.createOrder executionId itemsJson now)).1 ∧
      (db'.perform config (.createOrder executionId itemsJson now)).2 =
        (db.perform config (.createOrder executionId itemsJson now)).2 := by
  have number : db'.nextOrderNumber = db.nextOrderNumber := congrArg TaskPart.nextOrderNumber same
  obtain ⟨orders, tasks, ordered, added, success⟩ :=
    OrdersDb.createOrderWithTask_of_free sound.consecutive.order?_next sound.task?_next executionId itemsJson now
  obtain ⟨orders', tasks', ordered', added', success'⟩ :=
    OrdersDb.createOrderWithTask_of_free sound'.consecutive.order?_next sound'.task?_next executionId itemsJson now
  rw [number] at ordered' added' success'
  have unnamed : ∀ message, (OrdersDb.taskCreatedColumns db.nextOrderNumber executionId now).messageId =
      some message → owner message = db.nextOrderNumber := by rintro _ ⟨⟩
  rw [OrdersDb.perform, OrdersDb.perform, success, success']
  refine ⟨?_, rfl⟩
  simp only [OrdersDb.settle]
  rw [of_appendEvent unnamed, of_appendEvent unnamed, of_created ordered added, of_created ordered' added', same]

end TaskPart

/-- Transactions are local to the parts of their tasks. -/
theorem perform_locality (config : ExperimentConfig) (owner : MessageId → TaskId) :
    Locality (OrdersDb.perform config) Transaction.task? (TaskPart.of owner) OrdersDb.Sound
      (Transaction.OwnedBy owner) where
  valid_step before := before.perform config _
  frame {db transaction task other} sound owned about apart := by
    have untouched : TaskPart.Untouched owner task other (.of owner task db) db db :=
      ⟨rfl, rfl, sound.mirrored.orderId other⟩
    exact ((TaskPart.congruence_untouched apart _).perform untouched config about (owned other about)
      fun _ _ _ => ⟨rfl, rfl⟩).1.part
  congr {db db' transaction task} sound sound' owned about same := by
    rcases about with none | about
    · cases transaction with
      | createOrder => exact TaskPart.createOrder_congr sound sound' same config _ _ _
      | deadLetter letter now =>
        change letter.taskId = Option.none at none
        simp only [OrdersDb.perform, OrdersDb.handleDeadLetter, none]
        exact ⟨same, rfl⟩
      | _ => cases none
    · have alike : TaskPart.Alike owner task db db' := ⟨same, sound.mirrored.orderId task⟩
      have trajectory := TaskPart.renumbered same
      obtain ⟨after, returned⟩ := (TaskPart.congruence_alike owner task).perform alike config about
        (owned task about) fun request _ _ =>
          ⟨trajectory.isAwaitingReply request, trajectory.timeoutRegistered request⟩
      exact ⟨after.part, returned⟩

theorem performAll_eq_stepAll (config : ExperimentConfig) (db : OrdersDb) (transactions : List Transaction) :
    (db.performAll config transactions).1 = stepAll (OrdersDb.perform config) db transactions := by
  induction transactions generalizing db with
  | nil => rfl
  | cons transaction rest ih => exact ih (db.perform config transaction).1

/-! ## What another task keeps -/

/-- The row of a task, its order and its trajectory stay as they are. -/
structure OrdersDb.KeepsTask (db db' : OrdersDb) (task : TaskId) : Prop where
  row : db'.task? task = db.task? task
  order : ∀ row, db.task? task = some row → db'.order? row.orderId = db.order? row.orderId
  trajectory : db'.trajectory task = db.trajectory task

/-- A transaction keeps every other task. -/
theorem OrdersDb.Mirrored.keepsTask {config : ExperimentConfig} {db : OrdersDb} (mirrored : db.Mirrored)
    {transaction : Transaction} {task other : TaskId} (about : transaction.task? = some other)
    (apart : task ≠ other) : db.KeepsTask (db.perform config transaction).1 task := by
  have performs := perform_cases config db transaction
  generalize (db.perform config transaction).1 = after, (db.perform config transaction).2 = returned at performs ⊢
  cases performs with
  | created => cases about
  | unchanged => exact ⟨rfl, fun _ _ => rfl, rfl⟩
  | moved _ cause row row' columns opens _ _ caused own move commits =>
    have mover : task ≠ row.taskId := by
      rw [about, Option.some_inj] at own
      rwa [← own]
    constructor
    · rw [commits.task?, if_neg mover]
    · intro kept found
      have orders : kept.orderId ≠ row.orderId := by
        rw [mirrored.orderId task kept found, mirrored.orderId row.taskId row commits.found]
        exact mover
      rw [commits.order?, if_neg fun both => orders both.1]
    · rw [commits.trajectory, if_neg mover]

/-- Two databases that differ in the numbers of `task_events` at most. -/
structure OrdersDb.SameButNumbering (db db' : OrdersDb) : Prop where
  task? : ∀ task, db'.task? task = db.task? task
  order? : ∀ order, db'.order? order = db.order? order
  processedEvents : ∀ message, db'.processedEvents.find? message = db.processedEvents.find? message
  trajectory : ∀ task, (db'.trajectory task).map TaskEvent.toEventColumns =
    (db.trajectory task).map TaskEvent.toEventColumns
  build : ∀ config task seen, db'.build config task seen = db.build config task seen

theorem OrdersDb.SameButNumbering.of_parts {owner : MessageId → TaskId} {db db' : OrdersDb}
    (same : ∀ task, TaskPart.of owner task db' = TaskPart.of owner task db) : db.SameButNumbering db' where
  task? task := TaskPart.task?_eq (same task)
  order? order := TaskPart.order?_eq (same order)
  processedEvents message := TaskPart.find?_processedEvents_eq (same (owner message)) rfl
  trajectory task := congrArg TaskPart.trajectory (same task)
  build config task seen := TaskPart.build_eq (same task) config seen

/-- Tasks do not interfere: after every run of transactions, a transaction on one task keeps the others, changes
nothing another task is later asked or built into, and can be swapped with a transaction on the other. -/
theorem tasks_independent (config : ExperimentConfig) (history : List Transaction) {x : Transaction}
    {a b : TaskId} (about : x.task? = some a) (apart : b ≠ a) :
    let perform := OrdersDb.perform config
    let performAll := OrdersDb.performAll config
    let db := (performAll .empty history).1
    db.KeepsTask (perform db x).1 b ∧
      (∀ later y, y.task? = some b → DistinctMessages (x :: y :: later) →
        (perform (performAll (perform db x).1 later).1 y).2 = (perform (performAll db later).1 y).2) ∧
      (∀ later seen, DistinctMessages (x :: later) →
        (performAll (perform db x).1 later).1.build config b seen = (performAll db later).1.build config b seen) ∧
      ∀ y, y.task? = some b → DistinctMessages [x, y] →
        (perform (perform db x).1 y).2 = (perform db y).2 ∧
          (perform (perform db y).1 x).2 = (perform db x).2 ∧
          (perform (perform db x).1 y).1.SameButNumbering (perform (perform db y).1 x).1 := by
  intro perform performAll db
  have sound : db.Sound := OrdersDb.sound_performAll config history
  refine ⟨sound.mirrored.keepsTask about apart, ?_, ?_, ?_⟩
  · intro later y here distinct
    obtain ⟨owner, owned⟩ := distinct.exists_owner
    simp only [List.forall_mem_cons] at owned
    obtain ⟨ownedX, ownedY, ownedLater⟩ := owned
    have locality := perform_locality config owner
    simp only [perform, performAll, performAll_eq_stepAll]
    exact locality.returns_stepAll_step sound ownedX about apart ownedLater ownedY here
  · intro later seen distinct
    obtain ⟨owner, owned⟩ := distinct.exists_owner
    obtain ⟨ownedX, ownedLater⟩ := List.forall_mem_cons.mp owned
    have locality := perform_locality config owner
    simp only [perform, performAll, performAll_eq_stepAll]
    exact TaskPart.build_eq (locality.view_stepAll_step sound ownedX about apart ownedLater) config seen
  · intro y here distinct
    obtain ⟨owner, owned⟩ := distinct.exists_owner
    have locality := perform_locality config owner
    have ownedX := owned x (List.mem_cons_self ..)
    have ownedY := owned y (List.mem_cons_of_mem _ (List.mem_singleton_self _))
    constructor
    · exact locality.returns_comm sound ownedX about apart ownedY here
    constructor
    · exact locality.returns_comm sound ownedY here apart.symm ownedX about
    · exact .of_parts fun task => (locality.view_comm sound ownedX about apart ownedY here task).symm

/-- Two orders. -/
def twoOrders : List Transaction :=
  let items := canonicalJson CreateOrderRequest.single.items
  [.createOrder Deployment.pilot.executionId items 0, .createOrder Deployment.pilot.executionId items 1]

/-- Two first dispatches swapped, and one of them after a reply to the other or without the other. -/
theorem tasks_independent_pilot :
    let perform := OrdersDb.perform .pilot
    let performAll := OrdersDb.performAll .pilot
    let db := (performAll .empty twoOrders).1
    let first : Decision := ⟨.continueFlow, some .inventoryPrimary, "NORMAL_FLOW", by decide, by decide⟩
    let x := Transaction.execute 1 1 first ⟨10, 2⟩
    let y := Transaction.execute 2 2 first ⟨11, 3⟩
    let later := [Transaction.inventoryEvent (firstReply 20 (.succeeded ⟨1, .primary⟩)) false 3]
    (perform db x).2 ≠ (perform db y).2 ∧ db.KeepsTask (perform db x).1 2 ∧
      (perform (performAll (perform db x).1 later).1 y).2 = (perform (performAll db later).1 y).2 ∧
      (perform (perform db x).1 y).1.SameButNumbering (perform (perform db y).1 x).1 := by
  intro perform performAll db first x y later
  obtain ⟨keeps, returns, -, swaps⟩ := tasks_independent .pilot twoOrders (x := x) (a := 1) (b := 2) rfl (by decide)
  refine ⟨by decide +kernel, keeps, ?_, ?_⟩
  · exact returns later y rfl (by decide +kernel)
  · exact (swaps y rfl (by decide +kernel)).2.2

end OrchLab
