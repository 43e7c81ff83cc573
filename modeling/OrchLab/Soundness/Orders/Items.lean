import OrchLab.Model.Shared.Envelope
import OrchLab.Soundness.Orders.Requests
import OrchLab.Soundness.Orders.Transactions

/-! # The items of an order

An accepted body is stored under the next number, which no order has. From then on the order keeps the text of
its items, and every request of its task asks for these items and is a valid envelope.
-/

namespace OrchLab

/-! ## Numbering the orders -/

/-- The numbers of the orders are the first ones. -/
def OrdersDb.Consecutive (db : OrdersDb) : Prop := ∃ count, ∀ n, db.order? n ≠ none ↔ n ∈ List.range' 1 count

namespace OrdersDb.Consecutive

variable {db db' : OrdersDb}

theorem nextOrderNumber_eq {count : ℕ} (finds : ∀ n, db.order? n ≠ none ↔ n ∈ List.range' 1 count) :
    db.nextOrderNumber = count + 1 := by
  rw [OrdersDb.nextOrderNumber, Table.length_rows List.nodup_range' finds, List.length_range']

/-- The next number is free. -/
theorem order?_next (consecutive : db.Consecutive) : db.order? db.nextOrderNumber = none := by
  obtain ⟨count, finds⟩ := consecutive
  by_contra taken
  have member := (finds _).mp taken
  rw [nextOrderNumber_eq finds, List.mem_range'_1] at member
  omega

theorem of_same (consecutive : db.Consecutive) (same : ∀ n, db'.order? n ≠ none ↔ db.order? n ≠ none) :
    db'.Consecutive :=
  consecutive.imp fun _ finds n => (same n).trans (finds n)

theorem of_creates (consecutive : db.Consecutive) {executionId itemsJson : String} {now : Timestamp}
    (creates : Creates db db' db.nextOrderNumber executionId itemsJson now) : db'.Consecutive := by
  obtain ⟨count, finds⟩ := consecutive
  refine ⟨count + 1, fun (n : ℕ) => ?_⟩
  rw [creates.order?, nextOrderNumber_eq finds]
  by_cases new : n = count + 1
  · simp [new, List.mem_range'_1]
  · simp only [if_neg new, finds, List.mem_range'_1]
    omega

theorem perform (consecutive : db.Consecutive) (config : ExperimentConfig) (transaction : Transaction) :
    (db.perform config transaction).1.Consecutive := by
  have performs := perform_cases config db transaction
  cases transaction with
  | createOrder executionId itemsJson now =>
    rw [OrdersDb.perform]
    cases ran : db.createOrderWithTask executionId itemsJson now with
    | error error => exact consecutive
    | ok result =>
      obtain ⟨number, creates⟩ := createOrderWithTask_creates ran
      exact consecutive.of_creates (number ▸ creates)
  | _ =>
    generalize OrdersDb.perform config db _ = after at performs ⊢
    cases performs with
    | unchanged => exact consecutive
    | moved _ cause row row' columns opens _ _ caused task move commits =>
      refine consecutive.of_same fun n => ?_
      rw [commits.order?]
      split_ifs <;> simp

theorem empty : OrdersDb.empty.Consecutive := ⟨0, fun n => by simp [OrdersDb.empty, OrdersDb.order?]⟩

end OrdersDb.Consecutive

/-- The orders of a reachable state are numbered consecutively. -/
theorem reachable_consecutive {deployment : Deployment} {s : OrdersService}
    (reachable : (ordersMachine deployment).Reachable s) : s.db.Consecutive := by
  obtain ⟨transactions, same⟩ := exists_performAll_of_reachable reachable
  rw [← same]
  exact OrdersDb.performAll_invariant (fun _ transaction before => before.perform _ transaction) .empty transactions

/-- A free number takes an order and its task. -/
theorem OrdersDb.createOrderWithTask_of_free {db : OrdersDb} (unordered : db.order? db.nextOrderNumber = none)
    (absent : db.task? db.nextOrderNumber = none) (executionId itemsJson : String) (now : Timestamp) :
    ∃ orders tasks,
      db.orders.insert? ⟨db.nextOrderNumber, executionId, .pending, itemsJson, now, now⟩ = some orders ∧
      db.tasks.insert? (.created db.nextOrderNumber executionId now) = some tasks ∧
      db.createOrderWithTask executionId itemsJson now = .ok (({ db with orders, tasks } : OrdersDb).appendEvent
        (taskCreatedColumns db.nextOrderNumber executionId now), db.nextOrderNumber) := by
  obtain ⟨orders, ordered⟩ : ∃ orders, db.orders.insert?
      ⟨db.nextOrderNumber, executionId, .pending, itemsJson, now, now⟩ = some orders := Table.insert?_isSome unordered
  obtain ⟨tasks, added⟩ : ∃ tasks, db.tasks.insert? (.created db.nextOrderNumber executionId now) = some tasks :=
    Table.insert?_isSome absent
  have here : ({ db with orders, tasks } : OrdersDb).task? db.nextOrderNumber =
      some (.created db.nextOrderNumber executionId now) := (Table.find?_of_insert? added _).trans (if_pos rfl)
  refine ⟨orders, tasks, ordered, added, ?_⟩
  simp only [createOrderWithTask, ordered, added, recordEvent_of_found (taskCreatedColumns
    db.nextOrderNumber executionId now) here]
  rfl

/-- The next number of a reachable state is free. -/
theorem exists_createOrderWithTask {deployment : Deployment} {s : OrdersService}
    (reachable : (ordersMachine deployment).Reachable s) (executionId itemsJson : String) (now : Timestamp) :
    ∃ created, s.db.createOrderWithTask executionId itemsJson now = .ok (created, s.db.nextOrderNumber) := by
  have unordered := (reachable_consecutive reachable).order?_next
  have absent : s.db.task? s.db.nextOrderNumber = none := by
    by_contra taken
    obtain ⟨row, known⟩ := Option.ne_none_iff_exists'.mp taken
    obtain ⟨file, found, -, order, -⟩ := file?_of_task? known
    obtain ⟨placed, ordered, -⟩ := (reachable_controlled reachable found).order
    rw [order, unordered] at ordered
    cases ordered
  obtain ⟨orders, tasks, -, -, success⟩ := OrdersDb.createOrderWithTask_of_free unordered absent executionId
    itemsJson now
  exact ⟨_, success⟩

/-- A body is stored under the next number. -/
theorem createOrder_succeeds {deployment : Deployment} {s : OrdersService}
    (reachable : (ordersMachine deployment).Reachable s) (request : CreateOrderRequest) (now : Timestamp) :
    Creates s.db (s.createOrder deployment request now).db s.db.nextOrderNumber deployment.executionId
      (canonicalJson request.items) now := by
  obtain ⟨created, success⟩ := exists_createOrderWithTask reachable deployment.executionId
    (canonicalJson request.items) now
  rw [OrdersService.createOrder, success]
  exact (createOrderWithTask_creates success).2

/-! ## The requests of a task -/

/-- A request asks for the items of the order, at a position of the trajectory and for the current attempt. -/
theorem Move.asks_items {config : ExperimentConfig} {db : OrdersDb} {draw : Draw} {row row' : TaskRow}
    {cause : Cause} {columns : List EventColumns} {effects : List Effect} {opens : Bool}
    (move : Move config db draw row cause row' columns effects opens) :
    ∀ request ∈ effects.filterMap Effect.request?, 1 ≤ request.eventSeq ∧
      request.executionId = row.executionId ∧ request.attemptNumber = row.attemptNumber ∧
        ∃ items, db.itemsOf? row = some items ∧ request.payload = .requested ⟨row.orderId, items⟩ := by
  cases move <;> simp_all [requestEffects, requestOf, Effect.request?, List.filterMap_cons, TaskRow.bumpSeq,
    TaskRow.setStatus, TaskRow.dispatchTo, TaskRow.fallBack]

/-- The order has the text of these items, and the requests of the task ask for them. -/
structure TaskFile.Carries (file : TaskFile) (items : List OrderItem) : Prop where
  order : file.order.map OrderRow.itemsJson = some (canonicalJson items)
  requests : ∀ request ∈ file.requests, request.valid = true ∧ request.payload = .requested ⟨file.row.orderId, items⟩

/-- The file a body opens carries its items. -/
theorem TaskFile.Carries.created (request : CreateOrderRequest) (number : TaskId) (executionId : String)
    (now : Timestamp) (n : ℕ) :
    (TaskFile.created number executionId (canonicalJson request.items) now n).Carries request.items where
  order := rfl
  requests := by rintro _ ⟨⟩

/-- A step of the task keeps the items. -/
theorem TaskFile.Carries.step {deployment : Deployment} {s : OrdersService} {label : OrdersLabel} {task : TaskId}
    {file file' : TaskFile} {request : CreateOrderRequest}
    (pattern : isExecutionId deployment.executionId = true) (reachable : (ordersMachine deployment).Reachable s)
    (found : s.file? task = some file) (carries : file.Carries request.items)
    (step : FileStep deployment s label file file') : file'.Carries request.items := by
  cases step with
  | same | closed | built | noted | declined => exact ⟨carries.order, carries.requests⟩
  | moved draw cause row' columns effects opens point executed move =>
    have controlled := reachable_controlled reachable found
    obtain ⟨placed, order, -⟩ := controlled.order
    constructor
    · rw [TaskFile.after]
      split_ifs
      · rw [Option.map_map]
        exact carries.order
      · exact carries.order
    · rw [TaskFile.requests_after]
      simp only [TaskFile.after, List.forall_mem_append, move.keeps.orderId]
      refine ⟨carries.requests, fun asked member => ?_⟩
      obtain ⟨position, executionId, attempt, items, loads, payload⟩ := move.asks_items asked member
      have stored : s.db.order? file.row.orderId = some placed := by
        rw [controlled.orderId, OrdersService.taskId_of_file found, ← (file?_eq_some_iff.mp found).2.1, order]
      have text := carries.order
      rw [order, Option.map_some, Option.some_inj] at text
      rw [OrdersDb.itemsOf?, stored, Option.bind_some, text, loadsItems_canonicalJson] at loads
      cases loads
      refine ⟨?_, payload⟩
      rw [asked.valid_eq, executionId, controlled.executionId, pattern, attempt, payload, MessagePayload.valid,
        request.payload_valid, decide_eq_true position, decide_eq_true controlled.attempt_pos]
      rfl

end OrchLab
