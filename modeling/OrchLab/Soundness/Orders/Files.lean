import OrchLab.Soundness.Orders.Ledger

/-! # Task files

The file of a task is its part of the state: the row, the order, the trajectory, the decision point open
on it, and what was received, sent and decided for it. A step changes at most one file, by one move, or
touches its decision point or its histories only. An invariant of files needs to hold of a new file and
to be kept by `FileStep`.
-/

namespace OrchLab

/-- What the state holds about one task. -/
structure TaskFile where
  row : TaskRow
  order : Option OrderRow
  events : List TaskEvent
  point : DecisionPoint
  received : List MessageEnvelope
  sent : List Effect
  executed : List Execution

def OrdersService.file? (s : OrdersService) (task : TaskId) : Option TaskFile :=
  (s.db.task? task).map fun row =>
    { row
      order := s.db.order? task
      events := s.db.trajectory task
      point := s.pointOn task
      received := s.received.filter (·.taskId = task)
      sent := s.sent.filter (·.taskId = task)
      executed := s.executed.filter (·.taskId = task) }

namespace TaskFile

/-- The file `POST /orders` opens. -/
def created (number : TaskId) (executionId itemsJson : String) (now : Timestamp) (n : ℕ) : TaskFile where
  row := .created number executionId now
  order := some ⟨number, executionId, .pending, itemsJson, now, now⟩
  events := numbered n [OrdersDb.taskCreatedColumns number executionId now]
  point := .opened number
  received := []
  sent := []
  executed := []

/-- The file after a move. -/
def after (file : TaskFile) (n : ℕ) (row' : TaskRow) (columns : List EventColumns) (point : DecisionPoint)
    (received : List MessageEnvelope) (effects : List Effect) (executed : List Execution) : TaskFile where
  row := row'
  order := if row'.status.terminal ≠ file.row.status.terminal then
      file.order.map (·.setStatus (orderStatusFor row'.status) row'.updatedAt)
    else file.order
  events := file.events ++ numbered n columns
  point := point
  received := file.received ++ received
  sent := file.sent ++ effects
  executed := file.executed ++ executed

/-- The requests published for the task. -/
def requests (file : TaskFile) : List MessageEnvelope := file.sent.filterMap Effect.request?

section After

variable {file : TaskFile} {n : ℕ} {row' : TaskRow} {columns : List EventColumns} {point : DecisionPoint}
  {received : List MessageEnvelope} {effects : List Effect} {executed : List Execution}

theorem requests_after : (file.after n row' columns point received effects executed).requests =
    file.requests ++ effects.filterMap Effect.request? :=
  List.filterMap_append

/-- A move that asks for nothing keeps the requests. -/
theorem requests_after_of_quiet (quiet : effects.filterMap Effect.request? = []) :
    (file.after n row' columns point received effects executed).requests = file.requests := by
  rw [requests_after, quiet, List.append_nil]

/-- A move that asks adds its request. -/
theorem requests_after_of_request {config : ExperimentConfig} {asking : TaskRow} {decisionId : DecisionId}
    {draw : Draw} {items : List OrderItem} {route : Target} :
    (file.after n row' columns point received (requestEffects config asking decisionId draw items route)
      executed).requests = file.requests ++ [requestOf asking decisionId draw items] :=
  requests_after

end After

end TaskFile

/-- What is known when a cause is about to move a task: its label, what it draws, the point open on the
task before and after, and the decision it executes. -/
inductive Happens (deployment : Deployment) (s : OrdersService) (row : TaskRow) (opens : Bool) :
    OrdersLabel → Draw → Cause → DecisionPoint → DecisionPoint → List Execution → Prop
  | message (message : OrdersMessage) (redelivered : Bool) (draw : Draw)
      (promised : s.deliverable message) (fresh : s.freshMessage draw.messageId) :
      Happens deployment s row opens (.consume message redelivered draw) draw (.message message) .closed
        (if opens then .opened row.taskId else .closed) []
  | decision (owner : DecisionOwner) (output : EngineOutput) (decisionId : DecisionId) (draw : Draw)
      (state : SystemState) (decision : Decision) (built : s.points owner = .built state)
      (task : state.taskId = row.taskId)
      (describes : state.Describes deployment.config row)
      (resolved : deployment.validator.decision? state output = some decision)
      (permits : Permits deployment.config row decision)
      (undecided : ∀ execution ∈ s.executed, execution.decisionId ≠ decisionId)
      (fresh : s.freshMessage draw.messageId) :
      Happens deployment s row opens (.decide owner output decisionId draw) draw
        (.decision decision decisionId) (.built state) .closed [.of state decision decisionId]
  | deadLetter (letter : DeadLetter) (now : Timestamp) (point : DecisionPoint) :
      Happens deployment s row opens (.deadLetter letter now) ⟨0, now⟩ (.deadLetter letter) point point []

/-- The step is not about the task, or finds nothing to do there. -/
def OrdersLabel.Spares (deployment : Deployment) (s : OrdersService) (task : TaskId) : OrdersLabel → Prop
  | .createOrder _ _ => True
  | .consume message redelivered draw => message.taskId = task → s.db.Ignores message ∨
      ∃ error, s.db.handle deployment.config message redelivered draw = .error error
  | .build owner _ | .decide owner _ _ _ | .raise owner => (s.points owner).task? ≠ some task
  | .deadLetter letter _ => letter.taskId ≠ some task

/-- The step raises at the decision point of the owner, which is open on the task. -/
def OrdersLabel.Abandons (deployment : Deployment) (s : OrdersService) (owner : DecisionOwner) (task : TaskId) :
    OrdersLabel → Prop
  | .raise other => other = owner
  | .build other seen => other = owner ∧ ∃ error, s.db.build deployment.config task seen = .error error
  | .decide other output _ _ => other = owner ∧ ∃ state, s.points owner = .built state ∧
      deployment.validator.decision? state output = none
  | _ => False

/-- The transaction of the step succeeds and schedules these effects. -/
def OrdersLabel.Yields (deployment : Deployment) (s : OrdersService) (effects : List Effect) (opens : Bool) :
    OrdersLabel → Prop
  | .consume message redelivered draw =>
    ∃ db, s.db.handle deployment.config message redelivered draw = .ok ⟨db, opens, effects⟩
  | .decide owner output decisionId draw => ∃ state decision db result, s.points owner = .built state ∧
      deployment.validator.decision? state output = some decision ∧
      s.db.execute deployment.config state.taskId decisionId draw decision = .ok (db, result, effects)
  | _ => effects = []

/-- What a step does to the file of one task. -/
inductive FileStep (deployment : Deployment) (s : OrdersService) (label : OrdersLabel) (file : TaskFile) :
    TaskFile → Prop
  | same (spares : label.Spares deployment s file.row.taskId) : FileStep deployment s label file file
  | closed (busy : file.point ≠ .closed) (owner : DecisionOwner)
      (abandons : label.Abandons deployment s owner file.row.taskId)
      (own : (s.points owner).task? = some file.row.taskId) :
      FileStep deployment s label file { file with point := .closed }
  | built (state : SystemState) (opened : file.point = .opened file.row.taskId)
      (describes : state.Describes deployment.config file.row) (valid : state.valid = true)
      (owner : DecisionOwner) (seen : Observation) (labels : label = .build owner seen)
      (own : s.points owner = .opened file.row.taskId) :
      FileStep deployment s label file { file with point := .built state }
  | noted (event : MessageEnvelope) (redelivered : Bool) (draw : Draw)
      (labels : label = .consume (.inventoryEvent event) redelivered draw)
      (task : event.taskId = file.row.taskId) (promised : s.deliverable (.inventoryEvent event))
      (processed : s.db.isEventProcessed event.messageId = true) :
      FileStep deployment s label file { file with received := file.received ++ [event] }
  | declined (owner : DecisionOwner) (output : EngineOutput) (decisionId : DecisionId) (draw : Draw)
      (state : SystemState) (decision : Decision)
      (labels : label = .decide owner output decisionId draw) (built : file.point = .built state)
      (seen : file.row.status.terminal = true ∨ state.Describes deployment.config file.row)
      (valid : state.valid = true)
      (resolved : deployment.validator.decision? state output = some decision)
      (approved : state.Approves decision ∨ decision.action = .abort)
      (refused : (∃ error, s.db.execute deployment.config file.row.taskId decisionId draw decision =
          .error error) ∨ file.row.status.terminal = true)
      (own : s.points owner = .built state) :
      FileStep deployment s label file
        { file with point := .closed, executed := file.executed ++ [.of state decision decisionId] }
  | moved (draw : Draw) (cause : Cause) (row' : TaskRow) (columns : List EventColumns)
      (effects : List Effect) (opens : Bool) (point : DecisionPoint) (executed : List Execution)
      (move : Move deployment.config s.db draw file.row cause row' columns effects opens)
      (happens : Happens deployment s file.row opens label draw cause file.point point executed)
      (yields : label.Yields deployment s effects opens) :
      FileStep deployment s label file
        (file.after s.db.taskEvents.rows.length row' columns point cause.received effects executed)

theorem file?_eq_some_iff {s : OrdersService} {task : TaskId} {file : TaskFile} :
    s.file? task = some file ↔ s.db.task? task = some file.row ∧ file.order = s.db.order? task ∧
      file.events = s.db.trajectory task ∧ file.point = s.pointOn task ∧
      file.received = s.received.filter (·.taskId = task) ∧ file.sent = s.sent.filter (·.taskId = task) ∧
      file.executed = s.executed.filter (·.taskId = task) := by
  rw [OrdersService.file?, Option.map_eq_some_iff]
  constructor
  · rintro ⟨row, found, rfl⟩
    exact ⟨found, rfl, rfl, rfl, rfl, rfl, rfl⟩
  · rintro ⟨found, order, events, point, received, sent, executed⟩
    refine ⟨file.row, found, ?_⟩
    rw [← order, ← events, ← point, ← received, ← sent, ← executed]

theorem OrdersService.taskId_of_file {s : OrdersService} {task : TaskId} {file : TaskFile}
    (found : s.file? task = some file) : file.row.taskId = task :=
  OrdersDb.taskId_of_task? (file?_eq_some_iff.mp found).1

theorem OrdersService.eventId_le_of_file {s : OrdersService} {task : TaskId} {file : TaskFile}
    (found : s.file? task = some file) : ∀ event ∈ file.events, event.eventId ≤ s.db.taskEvents.rows.length := by
  intro event member
  rw [(file?_eq_some_iff.mp found).2.2.1] at member
  exact Nat.lt_succ_iff.mp (OrdersDb.eventId_lt_of_mem_trajectory member)

/-- The file of a stored row. -/
theorem file?_of_task? {s : OrdersService} {task : TaskId} {row : TaskRow}
    (found : s.db.task? task = some row) :
    ∃ file, s.file? task = some file ∧ file.row = row ∧ file.order = s.db.order? task ∧
      file.events = s.db.trajectory task := by
  rw [OrdersService.file?, found]
  exact ⟨_, rfl, rfl, rfl, rfl⟩

/-- A state with the same database and histories has the same files, but for their points. -/
theorem file?_of_point {s t : OrdersService} {task : TaskId} {file' : TaskFile}
    (found : t.file? task = some file') (db : t.db = s.db)
    (received : t.received.filter (·.taskId = task) = s.received.filter (·.taskId = task))
    (sent : t.sent = s.sent)
    (executed : t.executed.filter (·.taskId = task) = s.executed.filter (·.taskId = task)) :
    s.file? task = some { file' with point := s.pointOn task } ∧ file'.point = t.pointOn task := by
  obtain ⟨here, order, events, point, received', sent', executed'⟩ := file?_eq_some_iff.mp found
  rw [db] at here order events
  refine ⟨file?_eq_some_iff.mpr ⟨here, order, events, rfl, received'.trans received, ?_,
    executed'.trans executed⟩, point⟩
  rw [← sent]
  exact sent'

private theorem filter_append_of_forall {α : Type*} {p : α → Bool} {l added : List α}
    (all : ∀ a ∈ added, p a = true) : (l ++ added).filter p = l.filter p ++ added := by
  rw [List.filter_append, List.filter_eq_self.mpr all]

private theorem filter_append_of_forall_not {α : Type*} {p : α → Bool} {l added : List α}
    (no : ∀ a ∈ added, p a = false) : (l ++ added).filter p = l.filter p := by
  have dropped : added.filter p = [] := List.filter_eq_nil_iff.mpr fun a member => by simp [no a member]
  rw [List.filter_append, dropped, List.append_nil]

/-- A move changes the file of its own task and no other. -/
theorem file?_of_move {config : ExperimentConfig} {s : OrdersService} {db : OrdersDb} {draw : Draw}
    {row row' : TaskRow} {cause : Cause} {columns : List EventColumns} {effects : List Effect}
    {opens : Bool} {points : DecisionOwner → DecisionPoint} {received : List MessageEnvelope}
    {executed : List Execution} {task : TaskId} {file' : TaskFile} (ledger : Ledger s)
    (move : Move config s.db draw row cause row' columns effects opens)
    (commits : Commits s.db db row cause row' columns)
    (arrived : ∀ event ∈ received, event.taskId = row.taskId)
    (ran : ∀ execution ∈ executed, execution.taskId = row.taskId)
    (elsewhere : task ≠ row.taskId → (⟨db, points, s.received ++ received, s.sent ++ effects,
      s.executed ++ executed⟩ : OrdersService).pointOn task = s.pointOn task)
    (found : (⟨db, points, s.received ++ received, s.sent ++ effects, s.executed ++ executed⟩ :
      OrdersService).file? task = some file') :
    task ≠ row.taskId ∧ s.file? task = some file' ∨
      task = row.taskId ∧ ∃ file, s.file? task = some file ∧ file.row = row ∧
      file' = file.after s.db.taskEvents.rows.length row' columns file'.point received effects executed ∧
      file.point = s.pointOn task := by
  obtain ⟨here, order, events, point, arrived', sent, ran'⟩ := file?_eq_some_iff.mp found
  dsimp only at here order events arrived' sent ran'
  rw [commits.task?] at here
  rw [commits.trajectory] at events
  rw [commits.order?, ledger.orderId row.taskId row commits.found] at order
  by_cases same : task = row.taskId
  · subst same
    have about : s.file? row.taskId = some ⟨row, s.db.order? row.taskId, s.db.trajectory row.taskId,
        s.pointOn row.taskId, s.received.filter (·.taskId = row.taskId),
        s.sent.filter (·.taskId = row.taskId), s.executed.filter (·.taskId = row.taskId)⟩ :=
      file?_eq_some_iff.mpr ⟨commits.found, rfl, rfl, rfl, rfl, rfl, rfl⟩
    refine .inr ⟨rfl, _, about, rfl, ?_, rfl⟩
    rw [filter_append_of_forall (by simpa using arrived)] at arrived'
    rw [filter_append_of_forall (by simpa using move.effects_taskId)] at sent
    rw [filter_append_of_forall (by simpa using ran)] at ran'
    simp only [↓reduceIte, Option.some_inj, true_and] at here events order
    cases file'
    simp_all only [TaskFile.after]
  · rw [filter_append_of_forall_not (fun event member => by simpa [arrived event member] using Ne.symm same)]
      at arrived'
    rw [filter_append_of_forall_not
      (fun effect member => by simpa [move.effects_taskId effect member] using Ne.symm same)] at sent
    rw [filter_append_of_forall_not (fun run member => by simpa [ran run member] using Ne.symm same)] at ran'
    simp only [same, ↓reduceIte, false_and] at here events order
    exact .inl ⟨same, file?_eq_some_iff.mpr ⟨here, order, events, point.trans (elsewhere same), arrived', sent,
      ran'⟩⟩

/-- A task nothing is known of has no histories. -/
private theorem file?_of_creates {s : OrdersService} {db : OrdersDb} {number task : TaskId}
    {executionId itemsJson : String} {now : Timestamp} {points : DecisionOwner → DecisionPoint}
    {file' : TaskFile} (ledger : Ledger s) (sent : ∀ effect ∈ s.sent, s.db.task? effect.taskId ≠ none)
    (creates : Creates s.db db number executionId itemsJson now)
    (found : (⟨db, points, s.received, s.sent, s.executed⟩ : OrdersService).file? task = some file')
    (here : (⟨db, points, s.received, s.sent, s.executed⟩ : OrdersService).pointOn number = .opened number)
    (elsewhere : task ≠ number → (⟨db, points, s.received, s.sent, s.executed⟩ :
      OrdersService).pointOn task = s.pointOn task) :
    task = number ∧ file' = .created number executionId itemsJson now s.db.taskEvents.rows.length ∨
      s.file? task = some file' := by
  obtain ⟨row, order, events, point, received, sent', executed⟩ := file?_eq_some_iff.mp found
  dsimp only at row order events received sent' executed
  have fresh : ∀ event ∈ numbered s.db.taskEvents.rows.length
      [OrdersDb.taskCreatedColumns number executionId now], event.taskId = number :=
    mem_numbered_taskId (by simp [OrdersDb.taskCreatedColumns])
  rw [OrdersDb.trajectory, creates.rows] at events
  rw [creates.task?] at row
  rw [creates.order?] at order
  by_cases same : task = number
  · subst same
    refine .inl ⟨rfl, ?_⟩
    have unlogged : s.db.taskEvents.rows.filter (fun event => event.taskId = task) = [] :=
      List.filter_eq_nil_iff.mpr fun event member own =>
        ledger.events event member (by rw [of_decide_eq_true own]; exact creates.absent)
    have unsent : s.sent.filter (fun effect => effect.taskId = task) = [] :=
      List.filter_eq_nil_iff.mpr fun effect member own =>
        sent effect member (by rw [of_decide_eq_true own]; exact creates.absent)
    have unheard : s.received.filter (fun event => event.taskId = task) = [] := by
      refine List.filter_eq_nil_iff.mpr fun event member own => ?_
      obtain ⟨request, asked, answered⟩ := ledger.answers event member
      obtain ⟨effect, published, is⟩ := List.mem_filterMap.mp asked
      cases effect <;> simp only [Effect.request?, Option.some_inj, reduceCtorEq] at is
      subst is
      refine sent _ published ?_
      rw [Effect.taskId, ← answered.2.1, of_decide_eq_true own]
      exact creates.absent
    have unrun : s.executed.filter (fun execution => execution.taskId = task) = [] :=
      List.filter_eq_nil_iff.mpr fun execution member own =>
        ledger.executed execution member (by rw [of_decide_eq_true own]; exact creates.absent)
    rw [filter_append_of_forall (by simpa using fresh), unlogged, List.nil_append] at events
    rw [unheard] at received
    rw [unsent] at sent'
    rw [unrun] at executed
    simp only [↓reduceIte, Option.some_inj] at row order
    rw [here] at point
    cases file'
    simp_all only [TaskFile.created]
  · rw [filter_append_of_forall_not
      (fun event member => by simpa [fresh event member] using Ne.symm same)] at events
    simp only [same, ↓reduceIte] at row order
    exact .inr (file?_eq_some_iff.mpr ⟨row, order, events, point.trans (elsewhere same), received, sent',
      executed⟩)

/-- Closing a decision point changes the file of its task only. -/
private theorem FileStep.of_close {deployment : Deployment} {s : OrdersService} {label : OrdersLabel}
    {owner : DecisionOwner} {task : TaskId} {file' : TaskFile} (coherent : Coherent deployment s)
    (found : (s.setPoint owner .closed).file? task = some file')
    (spares : (s.points owner).task? ≠ some task → label.Spares deployment s task)
    (abandons : (s.points owner).task? = some task → label.Abandons deployment s owner task) :
    ∃ file, s.file? task = some file ∧ FileStep deployment s label file file' := by
  have own := OrdersService.taskId_of_file found
  obtain ⟨before, point⟩ := file?_of_point (s := s) found rfl rfl rfl rfl
  by_cases isOpen : (s.points owner).task? = some task
  · rw [OrdersService.pointOn_setPoint_closed coherent isOpen] at point
    have busy : s.pointOn task ≠ .closed := by
      intro closed
      rw [OrdersService.pointOn_of_coherent coherent owner isOpen] at closed
      simp [closed, DecisionPoint.task?] at isOpen
    refine ⟨_, before, ?_⟩
    have closes : FileStep deployment s label { file' with point := s.pointOn task } _ :=
      .closed busy owner (by simpa only [own] using abandons isOpen) (by simpa only [own] using isOpen)
    rwa [← point] at closes
  · rw [OrdersService.pointOn_setPoint_of_ne isOpen (by simp [DecisionPoint.task?])] at point
    rw [← point] at before
    exact ⟨file', before, .same (own.symm ▸ spares isOpen)⟩

/-- No decision point is open on the task of a message when the worker takes it. -/
theorem pointOn_of_deliverable {deployment : Deployment} {s : OrdersService} {message : OrdersMessage}
    (coherent : Coherent deployment s) (idle : s.points .worker = .closed)
    (promised : s.deliverable message) : s.pointOn message.taskId = .closed := by
  obtain ⟨effect, sent, about⟩ := exists_sent_of_deliverable promised
  have closed := (coherent.sent effect sent).2
  rw [about] at closed
  simp [OrdersService.pointOn, idle, closed, DecisionPoint.task?]

/-! ## The cases of a step -/

section StepCases

variable {deployment : Deployment} {s : OrdersService} {task : TaskId} {file' : TaskFile} {owner : DecisionOwner}
  {message : OrdersMessage} {state : SystemState} {decision : Decision} {decisionId : DecisionId} {draw : Draw}
  {db : OrdersDb} {row row' : TaskRow} {columns : List EventColumns} {effects : List Effect} {opens : Bool}

/-- A snapshot is built for the task of its decision point. -/
private theorem FileStep.of_built (coherent : Coherent deployment s)
    (coherent' : Coherent deployment (s.setPoint owner (.built state))) {own : TaskId}
    (opened : s.points owner = .opened own) (known : s.db.task? own = some row)
    (describes : state.Describes deployment.config row) (valid : state.valid = true) (seen : Observation)
    (found : (s.setPoint owner (.built state)).file? task = some file') :
    ∃ file, s.file? task = some file ∧ FileStep deployment s (.build owner seen) file file' := by
  have mine := OrdersService.taskId_of_file found
  obtain ⟨before, point⟩ := file?_of_point (s := s) found rfl rfl rfl rfl
  have same : state.taskId = own := describes.task.trans (OrdersDb.taskId_of_task? known)
  have here : (s.points owner).task? = some own := by rw [opened]; rfl
  by_cases about : task = own
  · subst about
    obtain rfl : row = file'.row := by
      have found' := (file?_eq_some_iff.mp before).1
      rw [known] at found'
      exact Option.some_inj.mp found'
    rw [OrdersService.pointOn_of_coherent coherent' owner (by simp [DecisionPoint.task?, same]),
      OrdersService.setPoint_points, if_pos rfl] at point
    refine ⟨_, before, ?_⟩
    have builds : FileStep deployment s (.build owner seen) { file' with point := s.pointOn task } _ :=
      .built state (by rw [OrdersService.pointOn_of_coherent coherent owner here, opened, mine])
      describes valid owner seen rfl (by rw [opened, mine])
    rwa [← point] at builds
  · rw [OrdersService.pointOn_setPoint_of_ne (by simpa [here] using Ne.symm about)
      (by simpa [DecisionPoint.task?, same] using Ne.symm about)] at point
    rw [← point] at before
    refine ⟨file', before, .same ?_⟩
    rw [OrdersLabel.Spares, here, mine]
    simpa using Ne.symm about

/-- A message moves its task. -/
private theorem FileStep.of_consumed (ledger : Ledger s) (coherent : Coherent deployment s)
    (idle : s.points .worker = .closed) (own : row.taskId = message.taskId) (promised : s.deliverable message)
    (fresh : s.freshMessage draw.messageId) (redelivered : Bool)
    (move : Move deployment.config s.db draw row (.message message) row' columns effects opens)
    (commits : Commits s.db db row (.message message) row' columns)
    (success : s.db.handle deployment.config message redelivered draw = .ok ⟨db, opens, effects⟩)
    (coherent' : Coherent deployment ({ s with
        db, received := s.receive message, sent := s.sent ++ effects }.setPoint .worker
          (if opens then .opened message.taskId else .closed)))
    (found : ({ s with db, received := s.receive message, sent := s.sent ++ effects }.setPoint .worker
        (if opens then .opened message.taskId else .closed)).file? task = some file') :
    ∃ file, s.file? task = some file ∧ FileStep deployment s (.consume message redelivered draw) file file' := by
  have mine := OrdersService.taskId_of_file found
  have arrived : ∀ event ∈ (Cause.message message).received, event.taskId = row.taskId := by
    rw [own]
    cases message <;> simp [Cause.received, OrdersMessage.taskId]
  have elsewhere : task ≠ row.taskId → ({ s with
      db, received := s.receive message, sent := s.sent ++ effects
      executed := s.executed ++ [] }.setPoint .worker
        (if opens then .opened message.taskId else .closed)).pointOn task = s.pointOn task := by
    intro other
    refine (OrdersService.pointOn_setPoint_of_ne ?_ ?_).trans (OrdersService.pointOn_congr rfl)
    · simp [idle, DecisionPoint.task?]
    · cases opens <;> simp [DecisionPoint.task?, ← own, Ne.symm other]
  have moved : ({ s with
      db, received := s.receive message, sent := s.sent ++ effects
      executed := s.executed ++ [] }.setPoint .worker
        (if opens then .opened message.taskId else .closed)).file? task = some file' := by
    simp only [List.append_nil]
    exact found
  rw [receive_eq] at elsewhere moved
  rcases file?_of_move ledger move commits arrived (by simp) elsewhere moved with
    ⟨other, same⟩ | ⟨rfl, file, about, rfl, after, point⟩
  · exact ⟨file', same, .same fun named => absurd (mine.symm.trans (named.symm.trans own.symm)) other⟩
  · have before : s.pointOn file.row.taskId = .closed := own ▸ pointOn_of_deliverable coherent idle promised
    have current : file'.point = if opens then .opened file.row.taskId else .closed := by
      rw [(file?_eq_some_iff.mp found).2.2.2.1]
      cases opens with
      | false =>
        refine (OrdersService.pointOn_setPoint_of_ne ?_ ?_).trans
          ((OrdersService.pointOn_congr rfl).trans before) <;> simp [idle, DecisionPoint.task?]
      | true =>
        rw [OrdersService.pointOn_of_coherent coherent' .worker] <;>
          simp [DecisionPoint.task?, own]
    rw [after]
    refine ⟨file, about, .moved draw _ row' columns effects opens file'.point [] move ?_ ⟨db, success⟩⟩
    rw [point, before, current]
    exact .message message redelivered draw promised fresh

/-- A message that is ignored is received. -/
private theorem FileStep.of_ignored (idle : s.points .worker = .closed) (ignores : s.db.Ignores message)
    (promised : s.deliverable message) (redelivered : Bool) (draw : Draw)
    (found : ({ s with received := s.receive message }.setPoint .worker .closed).file? task = some file') :
    ∃ file, s.file? task = some file ∧ FileStep deployment s (.consume message redelivered draw) file file' := by
  have mine := OrdersService.taskId_of_file found
  have same : ({ s with received := s.receive message }.setPoint .worker .closed).pointOn task =
      s.pointOn task :=
    (OrdersService.pointOn_setPoint_of_ne (by simp [idle, DecisionPoint.task?])
      (by simp [DecisionPoint.task?])).trans (OrdersService.pointOn_congr rfl)
  obtain ⟨here, order, events, point, received, sent, executed⟩ := file?_eq_some_iff.mp found
  rw [same] at point
  change s.db.task? task = some file'.row at here
  change file'.received = (s.receive message).filter (·.taskId = task) at received
  have quiet : file'.received = s.received.filter (·.taskId = task) → s.file? task = some file' :=
    fun unheard => file?_eq_some_iff.mpr ⟨here, order, events, point, unheard, sent, executed⟩
  cases message with
  | timeoutCheck | dispatchAttempt | reevaluate =>
    exact ⟨file', quiet received, .same fun _ => .inl ignores⟩
  | inventoryEvent event =>
    by_cases own : event.taskId = task
    · have processed : s.db.isEventProcessed event.messageId = true :=
        ignores.resolve_right fun absent => by rw [own, here] at absent; cases absent
      rw [OrdersService.receive, filter_append_of_forall (by simpa using own)] at received
      refine ⟨{ file' with received := s.received.filter (·.taskId = task) },
        file?_eq_some_iff.mpr ⟨here, order, events, point, rfl, sent, executed⟩, ?_⟩
      have noted : FileStep deployment s (.consume (.inventoryEvent event) redelivered draw)
          { file' with received := s.received.filter (·.taskId = task) } _ := .noted event redelivered draw rfl
        (own.trans (OrdersDb.taskId_of_task? here).symm) promised processed
      rwa [← received] at noted
    · rw [OrdersService.receive, filter_append_of_forall_not (by simpa using own)] at received
      exact ⟨file', quiet received, .same fun named => absurd (named.trans mine) own⟩

/-- A decision moves its task. -/
private theorem FileStep.of_decided {output : EngineOutput} {result : ExecutionResult} (ledger : Ledger s)
    (coherent : Coherent deployment s)
    (undecided : ∀ execution ∈ s.executed, execution.decisionId ≠ decisionId)
    (fresh : s.freshMessage draw.messageId) (built : s.points owner = .built state)
    (own : row.taskId = state.taskId) (resolved : deployment.validator.decision? state output = some decision)
    (approved : state.Approves decision ∨ decision.action = .abort)
    (move : Move deployment.config s.db draw row (.decision decision decisionId) row' columns effects false)
    (commits : Commits s.db db row (.decision decision decisionId) row' columns)
    (success : s.db.execute deployment.config state.taskId decisionId draw decision = .ok (db, result, effects))
    (found : ({ s with
        db, sent := s.sent ++ effects
        executed := s.executed ++ [Execution.of state decision decisionId] }.setPoint owner .closed).file? task =
          some file') :
    ∃ file, s.file? task = some file ∧
      FileStep deployment s (.decide owner output decisionId draw) file file' := by
  have mine := OrdersService.taskId_of_file found
  have here : (s.points owner).task? = some row.taskId := by rw [built, DecisionPoint.task?, own]
  have elsewhere : task ≠ row.taskId → ({ s with
      db, received := s.received ++ [], sent := s.sent ++ effects
      executed := s.executed ++ [Execution.of state decision decisionId] }.setPoint owner .closed).pointOn task =
        s.pointOn task := by
    intro other
    refine (OrdersService.pointOn_setPoint_of_ne ?_ ?_).trans (OrdersService.pointOn_congr rfl)
    · simpa [here] using Ne.symm other
    · simp [DecisionPoint.task?]
  have moved : ({ s with
      db, received := s.received ++ [], sent := s.sent ++ effects
      executed := s.executed ++ [Execution.of state decision decisionId] }.setPoint owner .closed).file? task =
        some file' := by
    simp only [List.append_nil]
    exact found
  rcases file?_of_move ledger move commits (by simp) (by simpa [Execution.of] using own.symm) elsewhere
    moved with ⟨other, same⟩ | ⟨rfl, file, about, rfl, after, point⟩
  · refine ⟨file', same, .same ?_⟩
    rw [OrdersLabel.Spares, here, mine]
    simpa using Ne.symm other
  · have describes : state.Describes deployment.config file.row := by
      refine (coherent.built owner state built file.row (own ▸ commits.found)).resolve_left fun settled => ?_
      exact Bool.false_ne_true (move.alive_of_decision.symm.trans settled)
    have before : file.point = .built state := by
      rw [point, OrdersService.pointOn_of_coherent coherent owner here, built]
    have current : file'.point = .closed := by
      rw [(file?_eq_some_iff.mp found).2.2.2.1]
      have closed := OrdersService.pointOn_setPoint_closed coherent here
      exact (OrdersService.pointOn_congr rfl).trans closed
    rw [after]
    refine ⟨file, about, .moved draw _ row' columns effects false file'.point _ move ?_
      ⟨state, decision, db, result, built, resolved, success⟩⟩
    rw [before, current]
    exact .decision owner output decisionId draw state decision built own.symm describes resolved
      (permits_of_describes describes approved) undecided fresh

/-- A decision that is not carried out is given to the executor. -/
private theorem FileStep.of_declined {output : EngineOutput} (coherent : Coherent deployment s)
    (built : s.points owner = .built state)
    (resolved : deployment.validator.decision? state output = some decision)
    (approved : state.Approves decision ∨ decision.action = .abort)
    (refused : (∃ error, s.db.execute deployment.config state.taskId decisionId draw decision = .error error) ∨
      ∀ row, s.db.task? state.taskId = some row → row.status.terminal = true)
    (found : ({ s with executed := s.executed ++ [Execution.of state decision decisionId] }.setPoint owner
      .closed).file? task = some file') :
    ∃ file, s.file? task = some file ∧
      FileStep deployment s (.decide owner output decisionId draw) file file' := by
  have mine := OrdersService.taskId_of_file found
  have here : (s.points owner).task? = some state.taskId := by rw [built, DecisionPoint.task?]
  have after : ({ s with executed := s.executed ++ [Execution.of state decision decisionId] }.setPoint owner
      .closed).pointOn task = (s.setPoint owner .closed).pointOn task := OrdersService.pointOn_congr rfl
  obtain ⟨row, order, events, point, received, sent, executed⟩ := file?_eq_some_iff.mp found
  change file'.executed =
    (s.executed ++ [Execution.of state decision decisionId]).filter (·.taskId = task) at executed
  change s.db.task? task = some file'.row at row
  rw [after] at point
  by_cases own : state.taskId = task
  · subst own
    rw [filter_append_of_forall (by simp [Execution.of])] at executed
    rw [OrdersService.pointOn_setPoint_closed coherent here] at point
    have refused' : (∃ error, s.db.execute deployment.config file'.row.taskId decisionId draw decision =
        .error error) ∨ file'.row.status.terminal = true := by
      rw [OrdersDb.taskId_of_task? row]
      exact refused.imp_right fun settled => settled file'.row row
    refine ⟨{ file' with
        point := s.pointOn state.taskId, executed := s.executed.filter (·.taskId = state.taskId) },
      file?_eq_some_iff.mpr ⟨row, order, events, rfl, received, sent, rfl⟩, ?_⟩
    have declined : FileStep deployment s (.decide owner output decisionId draw) { file' with
        point := s.pointOn state.taskId
        executed := s.executed.filter (·.taskId = state.taskId) } _ :=
      .declined owner output decisionId draw state decision rfl
      ((OrdersService.pointOn_of_coherent coherent owner here).trans built)
      (coherent.built owner state built file'.row row) (coherent.valid owner state built) resolved approved
      refused' built
    rwa [← executed, ← point] at declined
  · rw [filter_append_of_forall_not (by simpa [Execution.of] using own)] at executed
    rw [OrdersService.pointOn_setPoint_of_ne (by simpa [here] using own)
      (by simp [DecisionPoint.task?])] at point
    refine ⟨file', file?_eq_some_iff.mpr ⟨row, order, events, point, received, sent, executed⟩, .same ?_⟩
    rw [OrdersLabel.Spares, here, mine]
    simpa using own

/-- A dead letter moves its task. -/
private theorem FileStep.of_lettered {letter : DeadLetter} {now : Timestamp} (ledger : Ledger s)
    (own : letter.taskId = some row.taskId)
    (move : Move deployment.config s.db ⟨0, now⟩ row (.deadLetter letter) row' columns [] false)
    (commits : Commits s.db db row (.deadLetter letter) row' columns)
    (found : ({ s with db } : OrdersService).file? task = some file') :
    ∃ file, s.file? task = some file ∧ FileStep deployment s (.deadLetter letter now) file file' := by
  have mine := OrdersService.taskId_of_file found
  have moved : (⟨db, s.points, s.received ++ [], s.sent ++ [], s.executed ++ []⟩ :
      OrdersService).file? task = some file' := by
    simpa only [List.append_nil] using found
  rcases file?_of_move ledger move commits (by simp) (by simp) (fun _ => OrdersService.pointOn_congr rfl)
    moved with ⟨other, same⟩ | ⟨rfl, file, about, rfl, after, point⟩
  · refine ⟨file', same, .same ?_⟩
    rw [OrdersLabel.Spares, own, mine]
    simpa using Ne.symm other
  · have current : file'.point = file.point := by
      rw [(file?_eq_some_iff.mp found).2.2.2.1, point]
      exact OrdersService.pointOn_congr rfl
    rw [after, current]
    exact ⟨file, about, .moved ⟨0, now⟩ _ row' columns [] false file.point [] move
      (.deadLetter letter now file.point) rfl⟩

end StepCases

/-- A task is created with its file, or its file takes a step. -/
theorem step_file {deployment : Deployment} {s t : OrdersService} {label : OrdersLabel} {task : TaskId}
    {file' : TaskFile} (reachable : (ordersMachine deployment).Reachable s)
    (offered : (ordersMachine deployment).admissible s label)
    (step : (ordersMachine deployment).step s label = some t) (found : t.file? task = some file') :
    (∃ request now, label = .createOrder request now ∧ s.db.task? task = none ∧
        file' = .created task deployment.executionId (canonicalJson request.items) now
          s.db.taskEvents.rows.length) ∨
      ∃ file, s.file? task = some file ∧ FileStep deployment s label file file' := by
  have ledger := reachable_ledger reachable
  have coherent := reachable_coherent reachable
  have coherent' := reachable_coherent (reachable.snoc offered step)
  have mine := OrdersService.taskId_of_file found
  cases step_cases step with
  | uncreated => exact .inr ⟨file', found, .same trivial⟩
  | unconsumed message redelivered draw error raises =>
    exact .inr ⟨file', found, .same fun _ => .inr ⟨error, raises⟩⟩
  | unlettered letter now unknown =>
    refine .inr ⟨file', found, .same fun named => ?_⟩
    have absent := unknown _ named
    rw [mine, (file?_eq_some_iff.mp found).1] at absent
    cases absent
  | raised owner busy => exact .inr (FileStep.of_close coherent found id fun _ => rfl)
  | unbuilt owner seen opened error opens raises =>
    refine .inr (FileStep.of_close coherent found id fun own => ⟨rfl, error, ?_⟩)
    rw [opens, DecisionPoint.task?, Option.some_inj] at own
    rwa [← own]
  | unresolved owner output decisionId draw state built raises =>
    exact .inr (FileStep.of_close coherent found id fun _ => ⟨rfl, state, built, raises⟩)
  | built owner seen own state row opened known builds describes valid =>
    exact .inr (FileStep.of_built coherent coherent' opened known describes valid seen found)
  | created request now db number creates =>
    have opened : ({ s with db }.setPoint (.api number) (.opened number)).pointOn number =
        .opened number := by
      rw [OrdersService.pointOn_of_coherent coherent' (.api number)] <;> simp [DecisionPoint.task?]
    have elsewhere : task ≠ number →
        ({ s with db }.setPoint (.api number) (.opened number)).pointOn task = s.pointOn task := by
      intro other
      refine (OrdersService.pointOn_setPoint_of_ne ?_ ?_).trans (OrdersService.pointOn_congr rfl)
      · exact fun isOpen => other (coherent.own _ _ isOpen)
      · simpa [DecisionPoint.task?] using Ne.symm other
    rcases file?_of_creates ledger (fun effect member => (coherent.sent effect member).1) creates found
      opened elsewhere with ⟨rfl, rfl⟩ | same
    · exact .inl ⟨request, now, rfl, creates.absent, rfl⟩
    · exact .inr ⟨file', same, .same trivial⟩
  | consumed message redelivered draw db row row' columns effects opens idle own move commits success =>
    exact .inr (FileStep.of_consumed ledger coherent idle own offered.1 offered.2 redelivered move commits
      success coherent' found)
  | ignored message redelivered draw idle ignores =>
    exact .inr (FileStep.of_ignored idle ignores offered.1 redelivered draw found)
  | decided owner output decisionId draw state decision db row row' columns effects built own resolved
      approved move commits result success =>
    exact .inr (FileStep.of_decided ledger coherent offered.1 offered.2 built own resolved approved move
      commits success found)
  | declined owner output decisionId draw state decision built resolved approved refused =>
    exact .inr (FileStep.of_declined coherent built resolved approved refused found)
  | lettered letter now db row row' columns own move commits =>
    exact .inr (FileStep.of_lettered ledger own move commits found)

/-- No step deletes a task. -/
theorem task?_ne_none_of_step {deployment : Deployment} {s t : OrdersService} {label : OrdersLabel}
    {task : TaskId} (known : s.db.task? task ≠ none)
    (step : (ordersMachine deployment).step s label = some t) : t.db.task? task ≠ none := by
  have moved : ∀ {db : OrdersDb} {row row' : TaskRow} {cause : Cause} {columns : List EventColumns},
      Commits s.db db row cause row' columns → db.task? task ≠ none := by
    intro db row row' cause columns commits
    rw [commits.task?]
    split_ifs
    · exact Option.some_ne_none _
    · exact known
  cases step_cases step with
  | uncreated | ignored | unconsumed | built | unbuilt | declined | unresolved | raised | unlettered => exact known
  | created request now db number creates =>
    change db.task? task ≠ none
    rw [creates.task?]
    split_ifs
    · exact Option.some_ne_none _
    · exact known
  | consumed _ _ _ _ _ _ _ _ _ _ _ _ commits => exact moved commits
  | decided _ _ _ _ _ _ _ _ _ _ _ _ _ _ _ _ commits => exact moved commits
  | lettered _ _ _ _ _ _ _ _ commits => exact moved commits

/-- The log only grows. -/
theorem exists_rows_of_step {deployment : Deployment} {s t : OrdersService} {label : OrdersLabel}
    (step : (ordersMachine deployment).step s label = some t) :
    ∃ added, t.db.taskEvents.rows = s.db.taskEvents.rows ++ added := by
  cases step_cases step with
  | uncreated | ignored | unconsumed | built | unbuilt | declined | unresolved | raised | unlettered =>
    exact ⟨[], (List.append_nil _).symm⟩
  | created request now db number creates => exact ⟨_, creates.rows⟩
  | consumed _ _ _ _ _ _ _ _ _ _ _ _ commits => exact ⟨_, commits.rows⟩
  | decided _ _ _ _ _ _ _ _ _ _ _ _ _ _ _ _ commits => exact ⟨_, commits.rows⟩
  | lettered _ _ _ _ _ _ _ _ commits => exact ⟨_, commits.rows⟩

/-- The file of a task takes a step whenever the service does. -/
theorem exists_file_of_step {deployment : Deployment} {s t : OrdersService} {label : OrdersLabel}
    {task : TaskId} {file : TaskFile} (reachable : (ordersMachine deployment).Reachable s)
    (offered : (ordersMachine deployment).admissible s label)
    (step : (ordersMachine deployment).step s label = some t) (found : s.file? task = some file) :
    ∃ file', t.file? task = some file' ∧ FileStep deployment s label file file' := by
  have known : s.db.task? task ≠ none := by
    rw [(file?_eq_some_iff.mp found).1]
    exact Option.some_ne_none _
  obtain ⟨row, stored⟩ := Option.ne_none_iff_exists'.mp (task?_ne_none_of_step known step)
  obtain ⟨file', found', -⟩ := file?_of_task? stored
  rcases step_file reachable offered step found' with ⟨_, _, -, absent, -⟩ | ⟨before, here, moves⟩
  · exact absurd absent known
  · obtain rfl : before = file := Option.some_inj.mp (here.symm.trans found)
    exact ⟨file', found', moves⟩

/-- What a new file satisfies and a step of a file keeps holds of every file of a reachable state. -/
theorem reachable_file {deployment : Deployment} {P : TaskFile → Prop}
    (created : ∀ task itemsJson now n, (∃ request : CreateOrderRequest,
      itemsJson = canonicalJson request.items) →
        P (.created task deployment.executionId itemsJson now n))
    (kept : ∀ s label task file file', (ordersMachine deployment).Reachable s →
      s.file? task = some file → P file → FileStep deployment s label file file' → P file')
    {s : OrdersService} (reachable : (ordersMachine deployment).Reachable s) :
    ∀ task file, s.file? task = some file → P file := by
  refine Machine.Reachable.invariant (P := fun s => ∀ task file, s.file? task = some file → P file)
    ?_ ?_ reachable
  · intro task file found
    simp [ordersMachine, OrdersService.initial, OrdersService.file?, OrdersDb.task?, OrdersDb.empty] at found
  · intro s label t earlier holds offered step task file' found
    rcases step_file earlier offered step found with ⟨request, now, -, -, rfl⟩ | ⟨file, before, moves⟩
    · exact created task _ now _ ⟨request, rfl⟩
    · exact kept s label task file file' earlier before (holds task file before) moves

/-! ## What each label does to a file -/

namespace FileStep

variable {deployment : Deployment} {s : OrdersService} {file file' : TaskFile}

theorem of_createOrder {request : CreateOrderRequest} {now : Timestamp}
    (step : FileStep deployment s (.createOrder request now) file file') : file' = file := by
  cases step with
  | same => rfl
  | closed _ _ abandons => exact abandons.elim
  | built _ _ _ _ _ _ labels | noted _ _ _ labels | declined _ _ _ _ _ _ labels => cases labels
  | moved _ _ _ _ _ _ _ _ _ happens => cases happens

/-- A message finds nothing to do for the task, is a repeated event, or moves the task. -/
theorem of_consume {message : OrdersMessage} {redelivered : Bool} {draw : Draw}
    (step : FileStep deployment s (.consume message redelivered draw) file file') :
    (file' = file ∧ OrdersLabel.Spares deployment s file.row.taskId (.consume message redelivered draw)) ∨
    (∃ event, message = .inventoryEvent event ∧ event.taskId = file.row.taskId ∧
      s.deliverable (.inventoryEvent event) ∧ s.db.isEventProcessed event.messageId = true ∧
      file' = { file with received := file.received ++ [event] }) ∨
    ∃ row' columns effects opens,
      Move deployment.config s.db draw file.row (.message message) row' columns effects opens ∧
      s.deliverable message ∧ file.point = .closed ∧
      OrdersLabel.Yields deployment s effects opens (.consume message redelivered draw) ∧
      file' = file.after s.db.taskEvents.rows.length row' columns (if opens then .opened file.row.taskId else .closed)
        (Cause.message message).received effects [] := by
  cases step with
  | same spares => exact .inl ⟨rfl, spares⟩
  | closed _ _ abandons => exact abandons.elim
  | built _ _ _ _ _ _ labels | declined _ _ _ _ _ _ labels => cases labels
  | noted event _ _ labels task promised processed =>
    cases labels
    exact .inr (.inl ⟨event, rfl, task, promised, processed, rfl⟩)
  | moved draw cause row' columns effects opens point executed move happens yields =>
    generalize file.point = before at happens
    cases happens with
    | message _ _ _ promised =>
      exact .inr (.inr ⟨row', columns, effects, opens, move, promised, rfl, yields, rfl⟩)

theorem of_build {owner : DecisionOwner} {seen : Observation}
    (step : FileStep deployment s (.build owner seen) file file') :
    (file' = file ∧ (s.points owner).task? ≠ some file.row.taskId) ∨
    ((s.points owner).task? = some file.row.taskId ∧
      (∃ error, s.db.build deployment.config file.row.taskId seen = .error error) ∧
      file' = { file with point := .closed }) ∨
    ∃ state, (s.points owner).task? = some file.row.taskId ∧ file' = { file with point := .built state } := by
  cases step with
  | same spares => exact .inl ⟨rfl, spares⟩
  | closed busy owner' abandons own =>
    obtain ⟨rfl, failed⟩ := abandons
    exact .inr (.inl ⟨own, failed, rfl⟩)
  | built state opened describes valid owner' seen' labels own =>
    cases labels
    exact .inr (.inr ⟨state, by rw [own, DecisionPoint.task?], rfl⟩)
  | noted _ _ _ labels | declined _ _ _ _ _ _ labels => cases labels
  | moved _ _ _ _ _ _ _ _ _ happens => cases happens

theorem of_raise {owner : DecisionOwner} (step : FileStep deployment s (.raise owner) file file') :
    (file' = file ∧ (s.points owner).task? ≠ some file.row.taskId) ∨
      (s.points owner).task? = some file.row.taskId ∧ file' = { file with point := .closed } := by
  cases step with
  | same spares => exact .inl ⟨rfl, spares⟩
  | closed busy owner' abandons own =>
    obtain rfl := abandons
    exact .inr ⟨own, rfl⟩
  | built _ _ _ _ _ _ labels | noted _ _ _ labels | declined _ _ _ _ _ _ labels => cases labels
  | moved _ _ _ _ _ _ _ _ _ happens => cases happens

/-- A decision is about another task, raises before it is one, is declined, or moves the task. -/
theorem of_decide {owner : DecisionOwner} {output : EngineOutput} {decisionId : DecisionId} {draw : Draw}
    (step : FileStep deployment s (.decide owner output decisionId draw) file file') :
    (file' = file ∧ (s.points owner).task? ≠ some file.row.taskId) ∨
    ((∃ state, s.points owner = .built state ∧ deployment.validator.decision? state output = none) ∧
      (s.points owner).task? = some file.row.taskId ∧ file' = { file with point := .closed }) ∨
    (∃ state decision, s.points owner = .built state ∧ state.valid = true ∧
      deployment.validator.decision? state output = some decision ∧
      (file.row.status.terminal = true ∨ state.Describes deployment.config file.row) ∧
      (state.Approves decision ∨ decision.action = .abort) ∧
      ((∃ error, s.db.execute deployment.config file.row.taskId decisionId draw decision = .error error) ∨
        file.row.status.terminal = true) ∧
      file' = { file with point := .closed, executed := file.executed ++ [.of state decision decisionId] }) ∨
    ∃ state decision row' columns effects, s.points owner = .built state ∧ state.taskId = file.row.taskId ∧
      Move deployment.config s.db draw file.row (.decision decision decisionId) row' columns effects false ∧
      Permits deployment.config file.row decision ∧
      OrdersLabel.Yields deployment s effects false (.decide owner output decisionId draw) ∧
      file' = file.after s.db.taskEvents.rows.length row' columns .closed [] effects
        [.of state decision decisionId] := by
  cases step with
  | same spares => exact .inl ⟨rfl, spares⟩
  | closed busy owner' abandons own =>
    obtain ⟨rfl, raises⟩ := abandons
    exact .inr (.inl ⟨raises, own, rfl⟩)
  | built _ _ _ _ _ _ labels | noted _ _ _ labels => cases labels
  | declined owner output decisionId draw state decision labels built seen valid resolved approved refused own =>
    cases labels
    exact .inr (.inr (.inl ⟨state, decision, own, valid, resolved, seen, approved, refused, rfl⟩))
  | moved draw cause row' columns effects opens point executed move happens yields =>
    generalize before : file.point = openPoint at happens
    cases happens with
    | decision _ _ _ _ state decision built task describes resolved permits =>
      obtain rfl : opens = false := by cases move <;> rfl
      exact .inr (.inr (.inr ⟨state, decision, row', columns, effects, built, task, move, permits, yields, rfl⟩))

/-- A dead letter of the task ends it. -/
theorem of_deadLetter {letter : DeadLetter} {now : Timestamp}
    (step : FileStep deployment s (.deadLetter letter now) file file') :
    (file' = file ∧ letter.taskId ≠ some file.row.taskId) ∨ file'.row.status.terminal = true := by
  cases step with
  | same spares => exact .inl ⟨rfl, spares⟩
  | closed _ _ abandons => exact abandons.elim
  | built _ _ _ _ _ _ labels | noted _ _ _ labels | declined _ _ _ _ _ _ labels => cases labels
  | moved draw cause row' columns effects opens point executed move happens =>
    generalize before : file.point = openPoint at happens
    cases happens with
    | deadLetter => exact .inr move.terminal_of_deadLetter

end FileStep

end OrchLab
