import OrchLab.Soundness.Orders.Steps

/-! # Decision points do not overlap

At most one decision point is open for a task. The API opens one for a task that nothing has been sent
for, and the worker one for a task it has received a message about. So a snapshot describes its row
until the decision is executed, unless a dead letter has ended the task, and a decision that moves a
task is one its row permits.
-/

namespace OrchLab

/-- What the validator promises about the row a decision is executed on. -/
def Permits (config : ExperimentConfig) (row : TaskRow) (decision : Decision) : Prop :=
  match decision.action with
  | .continueFlow => row.currentTarget = none
  | .retry => row.currentTarget = some .inventoryPrimary ∧
      row.attemptNumber < config.messaging.maxAttempts
  | .fallback => row.fallbackUsed = false ∧ decision.target = some .inventoryFallback
  | .wait => row.waitCount < config.messaging.maxWaits
  | .abort => True

theorem permits_of_describes {config : ExperimentConfig} {state : SystemState} {row : TaskRow}
    {decision : Decision} (describes : state.Describes config row)
    (approved : state.Approves decision ∨ decision.action = .abort) : Permits config row decision := by
  rcases approved with ⟨-, approves⟩ | abort
  · simp only [describes.target, describes.attempt, describes.maxAttempts, describes.waits,
      describes.maxWaits, describes.fallbackUsed] at approves
    exact approves
  · rw [Permits, abort]
    trivial

/-- Open decision points exclude each other and agree with the database. -/
structure Coherent (deployment : Deployment) (s : OrdersService) : Prop where
  sent : ∀ effect ∈ s.sent, s.db.task? effect.taskId ≠ none ∧ s.points (.api effect.taskId) = .closed
  own : ∀ named task, (s.points (.api named)).task? = some task → task = named
  known : ∀ owner task, (s.points owner).task? = some task → s.db.task? task ≠ none
  apart : ∀ task, (s.points .worker).task? = some task → s.points (.api task) = .closed
  built : ∀ owner state, s.points owner = .built state → ∀ row, s.db.task? state.taskId = some row →
    row.status.terminal = true ∨ state.Describes deployment.config row
  valid : ∀ owner state, s.points owner = .built state → state.valid = true

namespace Coherent

variable {deployment : Deployment} {s : OrdersService} {owner : DecisionOwner} {task : TaskId}

/-- Two open decision points are about different tasks. -/
theorem alone (coherent : Coherent deployment s) (opened : (s.points owner).task? = some task)
    {other : DecisionOwner} (different : other ≠ owner) : (s.points other).task? ≠ some task := by
  intro also
  cases owner with
  | worker =>
    cases other with
    | worker => exact different rfl
    | api named =>
      obtain rfl := coherent.own named task also
      simp [coherent.apart task opened, DecisionPoint.task?] at also
  | api name =>
    obtain rfl := coherent.own name task opened
    cases other with
    | worker => simp [coherent.apart task also, DecisionPoint.task?] at opened
    | api named =>
      obtain rfl := coherent.own named task also
      exact different rfl

theorem close (coherent : Coherent deployment s) (owner : DecisionOwner) :
    Coherent deployment (s.setPoint owner .closed) where
  sent effect member := by
    obtain ⟨known, closed⟩ := coherent.sent effect member
    exact ⟨known, by simp [closed]⟩
  own named task opened := by
    simp only [OrdersService.setPoint_points] at opened
    split_ifs at opened
    · cases opened
    · exact coherent.own named task opened
  known other task opened := by
    simp only [OrdersService.setPoint_points] at opened
    split_ifs at opened
    · cases opened
    · exact coherent.known other task opened
  apart task opened := by
    simp only [OrdersService.setPoint_points] at opened ⊢
    split_ifs at opened
    · cases opened
    · rw [coherent.apart task opened, ite_self]
  built other state opened := by
    simp only [OrdersService.setPoint_points] at opened
    split_ifs at opened
    exact coherent.built other state opened
  valid other state opened := by
    simp only [OrdersService.setPoint_points] at opened
    split_ifs at opened
    exact coherent.valid other state opened

/-- The worker opens a decision point on a task the API is done with. -/
theorem openWorker (coherent : Coherent deployment s) (known : s.db.task? task ≠ none)
    (closed : s.points (.api task) = .closed) :
    Coherent deployment (s.setPoint .worker (.opened task)) where
  sent effect member := by
    obtain ⟨known, closed⟩ := coherent.sent effect member
    exact ⟨known, by simp [closed]⟩
  own named task opened := by
    simp only [OrdersService.setPoint_points, reduceCtorEq, ↓reduceIte] at opened
    exact coherent.own named task opened
  known other task opened := by
    simp only [OrdersService.setPoint_points] at opened
    split_ifs at opened
    · cases opened
      exact known
    · exact coherent.known other task opened
  apart task opened := by
    simp only [OrdersService.setPoint_points, ↓reduceIte, reduceCtorEq] at opened ⊢
    cases opened
    exact closed
  built other state opened := by
    simp only [OrdersService.setPoint_points] at opened
    split_ifs at opened
    exact coherent.built other state opened
  valid other state opened := by
    simp only [OrdersService.setPoint_points] at opened
    split_ifs at opened
    exact coherent.valid other state opened

/-- A snapshot takes the place of the decision point it was built for. -/
theorem build (coherent : Coherent deployment s) {state : SystemState} {row : TaskRow}
    (opened : s.points owner = .opened task) (found : s.db.task? task = some row)
    (describes : state.Describes deployment.config row) (valid : state.valid = true) :
    Coherent deployment (s.setPoint owner (.built state)) := by
  have same : state.taskId = task := describes.task.trans (OrdersDb.taskId_of_task? found)
  have here : (s.points owner).task? = some task := by rw [opened]; rfl
  have tasks : ∀ other, ((s.setPoint owner (.built state)).points other).task? =
      (s.points other).task? := by
    intro other
    simp only [OrdersService.setPoint_points]
    split_ifs with owns
    · rw [owns, here, DecisionPoint.task?, same]
    · rfl
  have closed : ∀ name, s.points (.api name) = .closed →
      (s.setPoint owner (.built state)).points (.api name) = .closed := by
    intro name closed
    simp only [OrdersService.setPoint_points]
    split_ifs with owns
    · rw [owns, opened] at closed
      cases closed
    · exact closed
  refine ⟨fun effect member => ?_, fun named task => ?_, fun other task => ?_, fun task => ?_,
    fun other built => ?_, fun other built => ?_⟩
  · exact ⟨(coherent.sent effect member).1, closed _ (coherent.sent effect member).2⟩
  · rw [tasks]
    exact coherent.own named task
  · rw [tasks]
    exact coherent.known other task
  · rw [tasks]
    exact fun opened => closed _ (coherent.apart task opened)
  · simp only [OrdersService.setPoint_points]
    split_ifs with owns
    · rintro ⟨⟩ row' found'
      rw [show (s.setPoint owner (.built state)).db = s.db from rfl, same, found] at found'
      cases found'
      exact .inr describes
    · exact coherent.built other built
  · simp only [OrdersService.setPoint_points]
    split_ifs with owns
    · rintro ⟨⟩
      exact valid
    · exact coherent.valid other built

/-- A move keeps the points coherent when none is open on its task, or the task has ended. -/
theorem move (coherent : Coherent deployment s) {db : OrdersDb} {draw : Draw} {row row' : TaskRow}
    {cause : Cause} {columns : List EventColumns} {effects : List Effect} {opens : Bool}
    (move : Move deployment.config s.db draw row cause row' columns effects opens)
    (commits : Commits s.db db row cause row' columns)
    (free : (∀ owner, (s.points owner).task? ≠ some row.taskId) ∨
      effects = [] ∧ row'.status.terminal = true)
    (received : List MessageEnvelope) (executed : List Execution) :
    Coherent deployment { s with db, received, executed, sent := s.sent ++ effects } := by
  have stays : ∀ task, s.db.task? task ≠ none → db.task? task ≠ none := by
    intro task known
    rw [commits.task?]
    split_ifs <;> simp [known]
  refine ⟨?_, coherent.own, fun owner task opened => stays task (coherent.known owner task opened),
    coherent.apart, ?_, coherent.valid⟩
  · simp only [List.forall_mem_append]
    refine ⟨fun effect member => ?_, fun effect member => ?_⟩
    · exact ⟨stays _ (coherent.sent effect member).1, (coherent.sent effect member).2⟩
    · rw [move.effects_taskId effect member]
      refine ⟨by simp [commits.task?], ?_⟩
      rcases free with free | ⟨none, -⟩
      · cases point : s.points (.api row.taskId) with
        | closed => rfl
        | opened task =>
          have here := coherent.own row.taskId task (by rw [point]; rfl)
          exact absurd (by rw [point, here]; rfl) (free (.api row.taskId))
        | built state =>
          have here := coherent.own row.taskId state.taskId (by rw [point]; rfl)
          exact absurd (by rw [point, DecisionPoint.task?, here]) (free (.api row.taskId))
      · rw [none] at member
        cases member
  · intro owner state built other found
    simp only [commits.task?] at found
    split_ifs at found with here
    · cases found
      rcases free with free | ⟨-, settled⟩
      · exact absurd (by rw [built, DecisionPoint.task?, here]) (free owner)
      · exact .inl settled
    · exact coherent.built owner state built other found

/-- The API opens a decision point on the task it has created. -/
theorem create (coherent : Coherent deployment s) {db : OrdersDb} {number : TaskId} {items : String}
    {now : Timestamp} (creates : Creates s.db db number deployment.executionId items now) :
    Coherent deployment ({ s with db }.setPoint (.api number) (.opened number)) := by
  have stays : ∀ task, s.db.task? task ≠ none → db.task? task ≠ none := by
    intro task known
    rw [creates.task?]
    split_ifs <;> simp [known]
  have fresh : ∀ task, s.db.task? task ≠ none → task ≠ number := by
    rintro task known rfl
    exact known creates.absent
  refine ⟨fun effect member => ?_, fun named task opened => ?_, fun other task opened => ?_,
    fun task opened => ?_, fun other state built row found => ?_, fun other state built => ?_⟩
  · obtain ⟨known, closed⟩ := coherent.sent effect member
    refine ⟨stays _ known, ?_⟩
    simp [fresh _ known, closed]
  · simp only [OrdersService.setPoint_points] at opened
    split_ifs at opened with here
    · cases opened
      cases here
      rfl
    · exact coherent.own named task opened
  · simp only [OrdersService.setPoint_points] at opened
    split_ifs at opened with here
    · cases opened
      change db.task? number ≠ none
      simp [creates.task?]
    · exact stays task (coherent.known other task opened)
  · simp only [OrdersService.setPoint_points, reduceCtorEq, ↓reduceIte] at opened ⊢
    have known := coherent.known .worker task opened
    simp [fresh task known, coherent.apart task opened]
  · simp only [OrdersService.setPoint_points] at built
    split_ifs at built with here
    have known := coherent.known other state.taskId (by rw [built]; rfl)
    change db.task? state.taskId = some row at found
    rw [creates.task?, if_neg (fresh _ known)] at found
    exact coherent.built other state built row found
  · simp only [OrdersService.setPoint_points] at built
    split_ifs at built
    exact coherent.valid other state built

end Coherent

/-- A message that can be delivered is about a task something was sent for. -/
theorem exists_sent_of_deliverable {s : OrdersService} {message : OrdersMessage}
    (promised : s.deliverable message) : ∃ effect ∈ s.sent, effect.taskId = message.taskId := by
  have scheduled : ∀ {message}, message ∈ s.scheduled →
      ∃ effect ∈ s.sent, effect.taskId = message.taskId := by
    intro message member
    obtain ⟨effect, sent, here⟩ := List.mem_filterMap.mp member
    refine ⟨effect, sent, ?_⟩
    cases effect <;> simp only [Effect.message?, Option.some_inj, reduceCtorEq] at here <;> subst here <;>
      rfl
  cases message with
  | inventoryEvent event =>
    obtain ⟨⟨request, member, answers⟩, -⟩ := promised
    obtain ⟨effect, sent, here⟩ := List.mem_filterMap.mp member
    refine ⟨effect, sent, ?_⟩
    cases effect <;> simp only [Effect.request?, Option.some_inj, reduceCtorEq] at here
    subst here
    exact answers.2.1.symm
  | timeoutCheck | dispatchAttempt | reevaluate => exact scheduled promised

/-- Decision points are coherent in every reachable state. -/
theorem reachable_coherent {deployment : Deployment} {s : OrdersService}
    (reachable : (ordersMachine deployment).Reachable s) : Coherent deployment s := by
  refine Machine.Reachable.invariant ?_ ?_ reachable
  · exact ⟨by simp [ordersMachine, OrdersService.initial], by simp [ordersMachine,
      OrdersService.initial, DecisionPoint.task?], by simp [ordersMachine, OrdersService.initial,
      DecisionPoint.task?], by simp [ordersMachine, OrdersService.initial, DecisionPoint.task?],
      by simp [ordersMachine, OrdersService.initial], by simp [ordersMachine, OrdersService.initial]⟩
  · intro s label t _ coherent offered step
    cases step_cases step with
    | uncreated | unconsumed | unlettered => exact coherent
    | created request now db number creates => exact coherent.create creates
    | consumed message redelivered draw db row row' columns effects opens idle task move commits =>
      obtain ⟨effect, sent, about⟩ := exists_sent_of_deliverable offered.1
      obtain ⟨known, closed⟩ := coherent.sent effect sent
      rw [about] at known closed
      have free : ∀ owner, (s.points owner).task? ≠ some row.taskId := by
        rw [task]
        rintro (_ | named) opened
        · simp [idle, DecisionPoint.task?] at opened
        · obtain rfl := coherent.own named _ opened
          simp [closed, DecisionPoint.task?] at opened
      have moved := coherent.move move commits (.inl free) (s.receive message) s.executed
      cases opens with
      | false => exact moved.close .worker
      | true => exact moved.openWorker (by change db.task? _ ≠ none; simp [commits.task?, task]) closed
    | ignored message redelivered draw idle ignores =>
      have closed := coherent.close .worker
      exact ⟨closed.sent, closed.own, closed.known, closed.apart, closed.built, closed.valid⟩
    | built owner seen task state row opened found builds describes valid =>
      exact coherent.build opened found describes valid
    | unbuilt owner | unresolved owner | raised owner => exact coherent.close owner
    | decided owner output decisionId draw state decision db row row' columns effects built task resolved
        approved move commits =>
      have here : (s.points owner).task? = some row.taskId := by rw [built, DecisionPoint.task?, task]
      have free : ∀ other, ((s.setPoint owner .closed).points other).task? ≠ some row.taskId := by
        intro other
        simp only [OrdersService.setPoint_points]
        split_ifs with same
        · simp [DecisionPoint.task?]
        · exact coherent.alone here same
      exact (coherent.close owner).move move commits (.inl free) s.received _
    | declined owner output decisionId draw state decision built resolved approved refused =>
      have closed := coherent.close owner
      exact ⟨closed.sent, closed.own, closed.known, closed.apart, closed.built, closed.valid⟩
    | lettered letter now db row row' columns task move commits =>
      have moved := coherent.move move commits (.inr ⟨rfl, move.terminal_of_deadLetter⟩) s.received
        s.executed
      simpa only [List.append_nil] using moved

/-! ## The point open on a task -/

/-- The decision point open on a task. -/
def OrdersService.pointOn (s : OrdersService) (task : TaskId) : DecisionPoint :=
  if (s.points .worker).task? = some task then s.points .worker
  else if (s.points (.api task)).task? = some task then s.points (.api task)
  else .closed

namespace OrdersService

variable {s : OrdersService} {owner : DecisionOwner} {point : DecisionPoint} {task : TaskId}

theorem pointOn_congr {t : OrdersService} (same : t.points = s.points) : t.pointOn task = s.pointOn task := by
  simp only [pointOn, same]

theorem pointOn_of_forall_ne (no : ∀ owner, (s.points owner).task? ≠ some task) :
    s.pointOn task = .closed := by
  rw [pointOn, if_neg (no _), if_neg (no _)]

theorem pointOn_of_coherent {deployment : Deployment} (coherent : Coherent deployment s)
    (owner : DecisionOwner) (opened : (s.points owner).task? = some task) : s.pointOn task = s.points owner := by
  rw [pointOn]
  cases owner with
  | worker => rw [if_pos opened]
  | api named =>
    obtain rfl := coherent.own named task opened
    rw [if_neg (coherent.alone opened (by simp)), if_pos opened]

theorem pointOn_setPoint_of_ne (before : (s.points owner).task? ≠ some task)
    (after : point.task? ≠ some task) : (s.setPoint owner point).pointOn task = s.pointOn task := by
  simp only [pointOn, setPoint_points]
  cases owner with
  | worker => simp [before, after]
  | api named =>
    by_cases same : named = task
    · subst same
      simp [before, after]
    · simp [Ne.symm same]

/-- Closing the point open on a task leaves none. -/
theorem pointOn_setPoint_closed {deployment : Deployment} (coherent : Coherent deployment s)
    (opened : (s.points owner).task? = some task) : (s.setPoint owner .closed).pointOn task = .closed := by
  refine pointOn_of_forall_ne fun other => ?_
  rw [setPoint_points]
  split_ifs with same
  · simp [DecisionPoint.task?]
  · exact coherent.alone opened same

end OrdersService

end OrchLab
