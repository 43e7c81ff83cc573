import OrchLab.Soundness.System.Coverage

/-! # Redelivery after a crash

A message is spent by its own transaction: the log or the status says that it has been handled, and its
guard refuses it from then on. So when the worker dies between a commit and what follows it, the
redelivered message does nothing, and the task goes on only if it has ended or something else in flight
acts on it.
-/

namespace OrchLab

/-! ## Spent messages -/

/-- The log has the marker by which the transaction of the message recognizes that it has run. -/
def OrdersDb.spent (db : OrdersDb) : OrdersMessage → Bool
  | .inventoryEvent event => db.isEventProcessed event.messageId
  | .timeoutCheck task request => timeoutRegistered (db.trajectory task) request
  | .reevaluate task waitCount => waitFinished (db.trajectory task) waitCount
  | .dispatchAttempt .. => false

/-- What one database keeps of an earlier one. -/
structure OrdersDb.Extends (db db' : OrdersDb) : Prop where
  processed : ∀ message, db.isEventProcessed message = true → db'.isEventProcessed message = true
  rows : ∃ added, db'.taskEvents.rows = db.taskEvents.rows ++ added

namespace OrdersDb

variable {db db' : OrdersDb} {message : OrdersMessage}

theorem Extends.refl (db : OrdersDb) : db.Extends db := ⟨fun _ => id, [], (List.append_nil _).symm⟩

theorem Extends.trajectory (grows : db.Extends db') (task : TaskId) :
    ∃ added, db'.trajectory task = db.trajectory task ++ added := by
  obtain ⟨added, rows⟩ := grows.rows
  exact ⟨_, by rw [OrdersDb.trajectory, rows, List.filter_append]; rfl⟩

theorem Extends.spent (grows : db.Extends db') (spent : db.spent message = true) :
    db'.spent message = true := by
  cases message with
  | inventoryEvent event => exact grows.processed event.messageId spent
  | timeoutCheck task request =>
    obtain ⟨added, rows⟩ := grows.trajectory task
    rw [OrdersDb.spent, timeoutRegistered] at spent ⊢
    rw [rows, List.any_append, spent, Bool.true_or]
  | reevaluate task waitCount =>
    obtain ⟨added, rows⟩ := grows.trajectory task
    rw [OrdersDb.spent, waitFinished] at spent ⊢
    rw [rows, List.any_append, spent, Bool.true_or]
  | dispatchAttempt => cases spent

theorem not_accepts_of_spent (spent : db.spent message = true) : db.accepts message = false := by
  cases message with
  | inventoryEvent event =>
    rw [OrdersDb.spent] at spent
    simp [accepts, spent]
  | timeoutCheck task request =>
    rw [OrdersDb.spent] at spent
    simp [accepts, spent]
  | reevaluate task waitCount =>
    rw [OrdersDb.spent] at spent
    simp [accepts, spent]
  | dispatchAttempt => cases spent

end OrdersDb

theorem Commits.toExtends {db db' : OrdersDb} {row row' : TaskRow} {cause : Cause} {columns : List EventColumns}
    (commits : Commits db db' row cause row' columns) : db.Extends db' :=
  ⟨fun message processed => by rw [commits.processed, processed, Bool.true_or], _, commits.rows⟩

theorem Step.toExtends {deployment : Deployment} {s t : OrdersService} {label : OrdersLabel}
    (step : Step deployment s label t) : s.db.Extends t.db := by
  cases step with
  | uncreated | ignored | unconsumed | built | unbuilt | declined | unresolved | raised | unlettered => exact .refl s.db
  | created request now db number creates =>
    exact ⟨fun message processed => (creates.processed message).trans processed, _, creates.rows⟩
  | consumed message redelivered draw db row row' columns effects opens idle task move commits =>
    exact commits.toExtends
  | decided owner output decisionId draw state decision db row row' columns effects built task resolved
      approved move commits => exact commits.toExtends
  | lettered letter now db row row' columns task move commits => exact commits.toExtends

/-- A message that opens a decision point is spent. -/
theorem spent_of_opens {config : ExperimentConfig} {db : OrdersDb} {message : OrdersMessage}
    {redelivered : Bool} {draw : Draw} {handled : Handled}
    (success : db.handle config message redelivered draw = .ok handled) (opens : handled.decisionRequired = true) :
    handled.db.spent message = true := by
  rcases handle_moves success with ⟨rfl, -⟩ | ⟨row, row', columns, -, move, commits⟩
  · cases opens
  · rw [opens] at move
    generalize handled.effects = effects at move
    cases move with
    | failed event => simp [OrdersDb.spent, commits.processed, Cause.processes?]
    | timedOut request =>
      simp [OrdersDb.spent, commits.trajectory, timeoutRegistered, numbered, internalColumns,
        EventPayload.requestMessageId?]
    | waitOver =>
      simp [OrdersDb.spent, commits.trajectory, waitFinished, numbered, internalColumns, EventPayload.waitCount?]

/-- The held message of the worker is spent. -/
theorem reachable_held {deployment : Deployment} {stock : List String} {s : System}
    (reachable : (systemMachine deployment stock).Reachable s) :
    ∀ message, s.holding = some message → s.service.db.spent message = true := by
  refine Machine.Reachable.invariant (P := fun s => ∀ message, s.holding = some message →
    s.service.db.spent message = true) ?_ ?_ reachable
  · intro message held
    cases held
  · intro s label t _ held _ step message holding
    have transition := system_step_cases step
    have kept : s.holding = some message → t.service.db.spent message = true := by
      intro before
      rcases transition.service with ⟨-, same⟩ | ⟨own, -, moved⟩
      · rw [same]
        exact held message before
      · exact (step_cases moved).toExtends.spent (held message before)
    cases transition with
    | created | rejected | built | lettered | repeatedEvent | repeatedRequest | refused | reserved =>
      exact kept holding
    | opened message redelivered draw ending handled idle present success opens =>
      cases holding
      change (s.service.consume deployment message redelivered draw).db.spent message = true
      rw [OrdersService.consume_of_ok success]
      exact spent_of_opens success opens
    | handled => exact kept (by simpa using holding)
    | unbuilt | decided | undecided | unresolved | stopped =>
      have before := System.holding_of_leave _ _ _ _ holding
      exact kept before
    | answered route ending answer => exact kept (by simpa using holding)

/-! ## Dying before an effect -/

/-- The worker dies on the message, after a commit and before its decision point, a publication or a
scheduling. -/
def System.dies (deployment : Deployment) (s : System) (message : OrdersMessage) : SystemLabel → Bool
  | .consume own redelivered draw (.died performed) => own = message &&
      (s.service.db.handle deployment.config own redelivered draw).toOption.any fun handled =>
        !handled.decisionRequired && performed < handled.effects.length
  | .decide .worker output decisionId draw (.died performed) => s.holding = some message &&
      match s.service.points .worker with
      | .built state => (deployment.validator.decision? state output).any fun decision =>
          (s.service.db.execute deployment.config state.taskId decisionId draw decision).toOption.any
            fun (_, _, effects) => performed < effects.length
      | _ => false
  | .stop .worker (.died _) => s.holding = some message
  | _ => false

/-- A message the worker died on is spent, or dispatches an attempt. -/
theorem spent_of_dies {deployment : Deployment} {stock : List String} {s : System}
    (reachable : (systemMachine deployment stock).Reachable s) {message : OrdersMessage} {label : SystemLabel}
    (dies : s.dies deployment message label = true) :
    s.service.db.spent message = true ∨ ∃ task decisionId, message = .dispatchAttempt task decisionId := by
  cases label with
  | consume own redelivered draw ending =>
    cases ending with
    | died performed =>
      rw [System.dies, Bool.and_eq_true, decide_eq_true_eq, Option.any_eq_true] at dies
      obtain ⟨rfl, ⟨db, opens, effects⟩, success, quiet⟩ := dies
      cases ran : s.service.db.handle deployment.config own redelivered draw with
      | error error =>
        rw [ran] at success
        cases success
      | ok result =>
        rw [ran] at success
        cases success
        rw [Bool.and_eq_true, Bool.not_eq_true', decide_eq_true_eq] at quiet
        rcases handle_moves ran with ⟨same, -⟩ | ⟨row, row', columns, -, move, -⟩
        · cases same
          exact absurd quiet.2 (Nat.not_lt_zero _)
        · dsimp only at move quiet
          cases move with
          | repeated | inert | failed | completed | timedOut | waitOver =>
            exact absurd quiet.2 (Nat.not_lt_zero _)
          | retryDispatched decisionId => exact .inr ⟨_, _, rfl⟩
    | done | raised => cases dies
  | decide owner output decisionId draw ending =>
    cases owner with
    | worker =>
      cases ending with
      | died performed =>
        rw [System.dies, Bool.and_eq_true, decide_eq_true_eq] at dies
        exact .inl (reachable_held reachable message dies.1)
      | done | raised => cases dies
    | api => cases dies
  | stop owner ending =>
    cases owner with
    | worker =>
      cases ending with
      | died performed => exact .inl (reachable_held reachable message (of_decide_eq_true dies))
      | done | raised => cases dies
    | api => cases dies
  | createOrder | build | deadLetter | repeatEvent | repeatRequest | reserve | answer => cases dies

/-! ## Delivering it again -/

def OrdersMessage.isTimeoutCheck : OrdersMessage → Bool
  | .timeoutCheck .. => true
  | _ => false

namespace OrdersDb

variable {config : ExperimentConfig} {db : OrdersDb} {message : OrdersMessage} {row : TaskRow}

/-- Handling the message again records one more row of it. -/
def repeats (db : OrdersDb) : OrdersMessage → Bool
  | .inventoryEvent event => (db.eventSeqOfMessage event.messageId).isSome
  | _ => false

/-- What handling a message that finds nothing to do leaves: the same database, or one more row. -/
inductive Again (db : OrdersDb) (message : OrdersMessage) (now : Timestamp) : OrdersDb → Prop
  | same (silent : db.repeats message = false) : Again db message now db
  | repeated (event : MessageEnvelope) (eventSeq : ℕ) (is : message = .inventoryEvent event)
      (repeats : db.repeats message = true) :
      Again db message now (db.appendEvent (messageColumns event eventSeq .inventory true now))

/-- A spent message is handled again without a decision point and without effects. -/
theorem handle_of_spent (found : db.task? message.taskId = some row) (spent : db.spent message = true)
    (reply : ∀ event, message = .inventoryEvent event → event.eventType ≠ .stockReservationRequested)
    (redelivered : Bool) (draw : Draw) :
    ∃ after, db.handle config message redelivered draw = .ok ⟨after, false, []⟩ ∧
      db.Again message draw.now after := by
  cases message with
  | inventoryEvent event =>
    have type : ¬(event.eventType ≠ .stockReservationSucceeded ∧ event.eventType ≠ .stockReservationFailed) := by
      rcases eventType_of_message event with is | is | is
      · exact absurd is (reply event rfl)
      · simp [is]
      · simp [is]
    rw [OrdersDb.spent] at spent
    rw [handle, handleInventoryEvent, if_neg type, if_pos spent, recordRepeated]
    cases known : db.eventSeqOfMessage event.messageId with
    | none => exact ⟨db, rfl, .same (by simp [repeats, known])⟩
    | some eventSeq =>
      simp only [recordMessage_of_found found]
      exact ⟨_, rfl, .repeated event eventSeq rfl (by simp [repeats, known])⟩
  | timeoutCheck task request =>
    change db.task? task = some row at found
    rw [OrdersDb.spent] at spent
    refine ⟨db, ?_, .same rfl⟩
    rw [handle, registerTimeout, found]
    simp only [spent, if_true]
    split_ifs <;> rfl
  | reevaluate task waitCount =>
    change db.task? task = some row at found
    rw [OrdersDb.spent] at spent
    refine ⟨db, ?_, .same rfl⟩
    rw [handle, finishWait, found]
    simp only [spent, if_true]
    split_ifs <;> rfl
  | dispatchAttempt => cases spent

/-- A dispatch that finds no scheduled attempt does nothing. -/
theorem handle_of_not_retrying {task : TaskId} {decisionId : DecisionId}
    (refused : db.accepts (.dispatchAttempt task decisionId) = false) (redelivered : Bool) (draw : Draw) :
    db.handle config (.dispatchAttempt task decisionId) redelivered draw = .ok ⟨db, false, []⟩ := by
  rw [accepts] at refused
  rw [handle, dispatchScheduledAttempt, markRetryDispatched, updateTask?, if_neg (by simp [refused])]
  rfl

/-- One more row of an event silences the timeout checks of its task and nothing else. -/
theorem Again.accepts {now : Timestamp} {after : OrdersDb} (again : db.Again message now after)
    {other : OrdersMessage} (own : other.taskId = message.taskId) :
    after.accepts other = (db.accepts other && !(db.repeats message && other.isTimeoutCheck)) := by
  cases again with
  | same silent => simp [silent]
  | repeated event eventSeq is repeats =>
    subst is
    rw [repeats, Bool.true_and]
    have later : ∀ earlier ∈ db.trajectory other.taskId, earlier.eventId < db.taskEvents.rows.length + 1 :=
      fun earlier member => eventId_lt_of_mem_trajectory member
    have trajectory : (db.appendEvent (messageColumns event eventSeq .inventory true now)).trajectory
        other.taskId = db.trajectory other.taskId ++
          [{ messageColumns event eventSeq .inventory true now with
              eventId := db.taskEvents.rows.length + 1 }] := by
      exact (trajectory_appendEvent ..).trans (if_pos own.symm)
    cases other with
    | inventoryEvent reply =>
      have current : (db.appendEvent (messageColumns event eventSeq .inventory true now)).isCurrent reply =
          db.isCurrent reply := by
        rw [isCurrent, isCurrent]
        change OrdersDb.trajectory _ reply.taskId = _ at trajectory
        rw [trajectory, latestRequest_concat, if_neg (by simp [TaskEvent.isRequest, messageColumns])]
        rfl
      simp only [OrdersDb.accepts, alive, task?_appendEvent, isEventProcessed_appendEvent, current,
        OrdersMessage.isTimeoutCheck, Bool.not_false, Bool.and_true]
    | timeoutCheck task request =>
      change OrdersDb.trajectory _ task = _ at trajectory
      rw [OrdersDb.accepts, trajectory, isAwaitingReply_concat _ _ _ later]
      simp [TaskEvent.isRequest, messageColumns, OrdersMessage.isTimeoutCheck]
    | dispatchAttempt task decisionId =>
      simp only [OrdersDb.accepts, task?_appendEvent, OrdersMessage.isTimeoutCheck, Bool.not_false, Bool.and_true]
    | reevaluate task waitCount =>
      change OrdersDb.trajectory _ task = _ at trajectory
      rw [OrdersDb.accepts, trajectory, waitFinished_concat]
      simp [OrdersDb.accepts, messageColumns, OrdersMessage.isTimeoutCheck]
      rfl

end OrdersDb

/-! ## What is left of a task -/

/-- The task has reached a terminal status. -/
def OrdersDb.ended (db : OrdersDb) (task : TaskId) : Bool := (db.task? task).any (·.status.terminal)

namespace System

/-- The task has ended, a decision point is open on it, or something in flight will act on it. -/
def triggered (s : System) (task : TaskId) : Prop :=
  s.service.db.ended task = true ∨ s.service.pointOn task ≠ .closed ∨
    (∃ message ∈ s.events, message.taskId = task ∧ s.service.db.accepts message = true) ∨
    ∃ request ∈ s.requests, s.service.unanswered task request.envelope

instance (s : System) (task : TaskId) : Decidable (s.triggered task) :=
  inferInstanceAs (Decidable (_ ∨ _ ∨ _ ∨ _))

/-- Before the message is delivered again, its task has ended, its latest request is in a queue, or the task
accepts a message in flight that the second delivery does not silence. -/
def goesOn (s : System) (message : OrdersMessage) : Prop :=
  s.service.db.ended message.taskId = true ∨
    (∃ other ∈ s.events, other.taskId = message.taskId ∧ s.service.db.accepts other = true ∧
      (s.service.db.repeats message && other.isTimeoutCheck) = false) ∨
    ∃ request ∈ s.requests, s.service.unanswered message.taskId request.envelope

end System

section Redelivery

variable {deployment : Deployment} {s : System} {message : OrdersMessage}

/-- A spent message that is delivered again adds nothing to what was received. -/
private theorem mem_receive_iff (ledger : Ledger s.service) (promised : s.service.deliverable message)
    (dead : s.service.db.spent message = true ∨ ∃ task decisionId, message = .dispatchAttempt task decisionId)
    (event : MessageEnvelope) : event ∈ s.service.receive message ↔ event ∈ s.service.received := by
  cases message with
  | timeoutCheck | dispatchAttempt | reevaluate => rfl
  | inventoryEvent only =>
    have spent := dead.resolve_right (by rintro ⟨_, _, ⟨⟩⟩)
    obtain ⟨earlier, here, named⟩ := (ledger.processed only.messageId).mp spent
    obtain rfl := promised.2.2 earlier here named
    simp only [OrdersService.receive, List.mem_append, List.mem_singleton, or_iff_left_iff_imp]
    rintro rfl
    exact here

/-- A message that is handled without effects leaves what acted on its task. -/
private theorem triggered_of_again (alone : (ordersMachine deployment).Reachable s.service)
    (promised : s.service.deliverable message) (idle : s.service.points .worker = .closed)
    (refused : s.service.db.accepts message = false) {now : Timestamp} {after : OrdersDb} {t : System}
    (again : s.service.db.Again message now after) (db : t.service.db = after)
    (points : t.service.points = s.service.points) (events : t.events = s.events.erase message)
    (requests : t.requests = s.requests)
    (unanswered : ∀ request, t.service.unanswered message.taskId request ↔
      s.service.unanswered message.taskId request) : t.triggered message.taskId ↔ s.goesOn message := by
  have closed : t.service.pointOn message.taskId = .closed :=
    (OrdersService.pointOn_congr points).trans (pointOn_of_deliverable (reachable_coherent alone) idle promised)
  have ended : after.ended message.taskId = s.service.db.ended message.taskId := by
    cases again <;> rfl
  have accepted : (∃ other ∈ t.events, other.taskId = message.taskId ∧ after.accepts other = true) ↔
      ∃ other ∈ s.events, other.taskId = message.taskId ∧ s.service.db.accepts other = true ∧
        (s.service.db.repeats message && other.isTimeoutCheck) = false := by
    rw [events]
    constructor
    · rintro ⟨other, queued, own, accepts⟩
      rw [again.accepts own, Bool.and_eq_true, Bool.not_eq_true'] at accepts
      exact ⟨other, List.mem_of_mem_erase queued, own, accepts⟩
    · rintro ⟨other, queued, own, accepts, heard⟩
      refine ⟨other, (List.mem_erase_of_ne ?_).mpr queued, own, ?_⟩
      · rintro rfl
        rw [refused] at accepts
        cases accepts
      · rw [again.accepts own, accepts, heard]
        rfl
  simp only [System.triggered, System.goesOn, closed, ne_eq, not_true_eq_false, false_or, accepted, db, ended,
    requests, unanswered]

/-- A request that takes the next position is the latest one, and nothing received answers it. -/
private theorem unanswered_of_requestEffects {s t : OrdersService}
    (reachable : (ordersMachine deployment).Reachable s) {row row' : TaskRow}
    (found : s.db.task? row.taskId = some row) (same : row'.taskId = row.taskId)
    (next : row.currentEventSeq < row'.currentEventSeq) {decisionId : DecisionId} {draw : Draw}
    {items : List OrderItem} {route : Target}
    (sent : t.sent = s.sent ++ requestEffects deployment.config row' decisionId draw items route)
    (received : t.received = s.received) : t.unanswered row.taskId (requestOf row' decisionId draw items) := by
  obtain ⟨file, here, rfl, -, -⟩ := file?_of_task? found
  constructor
  · have own : (requestEffects deployment.config row' decisionId draw items route).filter
        (fun effect => effect.taskId = file.row.taskId) =
          requestEffects deployment.config row' decisionId draw items route :=
      List.filter_eq_self.mpr (by simp [requestEffects, Effect.taskId, requestOf, same])
    rw [OrdersService.requestsFor, OrdersService.sentFor, sent, List.filter_append, own, List.filterMap_append]
    exact List.getLast?_concat
  · intro event member about
    have earlier := OrdersService.eventSeq_le_of_received reachable here event
    rw [(file?_eq_some_iff.mp here).2.2.2.2.1, ← received, List.mem_filter] at earlier
    exact ((earlier ⟨member, decide_eq_true about⟩).trans_lt next).ne

/-- Delivering a message the worker died on leaves its task triggered exactly when it goes on without it. -/
theorem triggered_consume_iff (network : Network s) (alone : (ordersMachine deployment).Reachable s.service)
    (dead : s.service.db.spent message = true ∨ ∃ task decisionId, message = .dispatchAttempt task decisionId)
    {redelivered : Bool} {draw : Draw} {t : System}
    (step : s.step deployment (.consume message redelivered draw .done) = some t) :
    t.triggered message.taskId ↔ s.goesOn message := by
  rw [System.step] at step
  split_ifs at step with ready
  obtain ⟨idle, present⟩ := ready
  have promised := network.deliverable present
  have again_iff : ∀ after, s.service.db.handle deployment.config message redelivered draw =
      .ok ⟨after, false, []⟩ → s.service.db.Again message draw.now after →
        s.service.db.accepts message = false → (t.triggered message.taskId ↔ s.goesOn message) := by
    intro after success again refused
    simp only [System.consume, success, OrdersService.consume_of_ok success, Bool.false_eq_true, ↓reduceIte,
      Option.some_inj, Ending.performed, System.finish] at step
    subst step
    refine triggered_of_again alone promised idle refused again rfl ?_ ?_ ?_ fun request => ?_
    · exact Function.update_eq_self_iff.mpr idle.symm
    · exact List.append_nil _
    · exact List.append_nil _
    · have same := mem_receive_iff (reachable_ledger alone) promised dead
      simp only [OrdersService.unanswered, OrdersService.requestsFor, OrdersService.sentFor, System.emit_service,
        OrdersService.setPoint, List.append_nil, same]
  have dispatches : s.service.db.accepts message = true →
      ∃ task decisionId, message = .dispatchAttempt task decisionId := by
    refine fun accepted => dead.resolve_left fun spent => ?_
    rw [OrdersDb.not_accepts_of_spent spent] at accepted
    cases accepted
  cases accepted : s.service.db.accepts message with
  | false =>
    rcases dead with spent | ⟨task, decisionId, rfl⟩
    · obtain ⟨effect, sent, own⟩ := exists_sent_of_deliverable promised
      obtain ⟨row, found⟩ := Option.ne_none_iff_exists'.mp ((reachable_coherent alone).sent effect sent).1
      rw [own] at found
      have reply : ∀ event, message = .inventoryEvent event → event.eventType ≠ .stockReservationRequested := by
        rintro event rfl
        obtain ⟨⟨request, -, answers⟩, -⟩ := promised
        exact answers.2.2.2.2.2.2
      obtain ⟨after, success, again⟩ := OrdersDb.handle_of_spent found spent reply redelivered draw
      exact again_iff after success again accepted
    · exact again_iff _ (OrdersDb.handle_of_not_retrying accepted redelivered draw) (.same rfl) accepted
  | true =>
    obtain ⟨task, decisionId, rfl⟩ := dispatches accepted
    obtain ⟨row, found, status⟩ := (Option.any_eq_true _ _).mp accepted
    obtain ⟨db, items, route, success⟩ :=
      handle_of_retrying alone found (of_decide_eq_true status) decisionId redelivered draw
    simp only [System.consume, success, OrdersService.consume_of_ok success, Bool.false_eq_true, ↓reduceIte,
      Option.some_inj, Ending.performed, System.finish] at step
    subst step
    obtain rfl := OrdersDb.taskId_of_task? found
    refine iff_of_true (.inr (.inr (.inr ⟨⟨requestOf ((row.setStatus .dispatched draw.now).bumpSeq draw.now)
      decisionId draw items, route⟩, List.mem_append_right _ (List.mem_singleton_self _), ?_⟩)))
      (.inr (.inl ⟨_, present, rfl, accepted, Bool.and_false _⟩))
    have same : ((row.setStatus .dispatched draw.now).bumpSeq draw.now).taskId = row.taskId := rfl
    exact unanswered_of_requestEffects alone found same (Nat.lt_succ_self _) rfl rfl

end Redelivery

/-- After the worker died on a message, before an effect of it, the second delivery leaves the task ended or
with something pending exactly when that was so without the message. -/
theorem redelivery_triggers_iff {deployment : Deployment} {stock : List String} {s t : System}
    {moments : List (System × SystemLabel)} (run : (systemMachine deployment stock).Run moments s)
    {message : OrdersMessage} {crash : System × SystemLabel} (member : crash ∈ moments)
    (dies : crash.1.dies deployment message crash.2 = true) {redelivered : Bool} {draw : Draw}
    (step : s.step deployment (.consume message redelivered draw .done) = some t) :
    t.triggered message.taskId ↔ s.goesOn message := by
  obtain ⟨network, alone⟩ := reachable_network run.reachable
  refine triggered_consume_iff network alone ?_ step
  refine (spent_of_dies (run.reachable_of_mem member) dies).imp_left fun spent => ?_
  refine run.of_mem_stable (P := fun s => s.service.db.spent message = true) ?_ member spent
  intro s label t _ spent _ step
  rcases (system_step_cases step).service with ⟨-, same⟩ | ⟨own, -, moved⟩
  · rw [same]
    exact spent
  · exact (step_cases moved).toExtends.spent spent

/-- The first attempt times out and a retry is scheduled. -/
def retryOfSystem : List SystemLabel := firstDispatchOfSystem ++
  [.consume (.timeoutCheck 1 10) false ⟨11, 2003⟩ .done, .build .worker (.calm 2004 2),
    .decide .worker (.proposing .retry (some .inventoryPrimary) .transientRetry) 2 ⟨12, 2005⟩ .done]

/-- The worker commits the dispatch of the retry and dies before the publication; delivered again, the
dispatch finds the task dispatched. -/
def lostDispatch : List SystemLabel := retryOfSystem ++ [.consume (.dispatchAttempt 1 2) false ⟨15, 2505⟩ (.died 0)]

/-- The run that loses the dispatch and the second delivery of its message. -/
private theorem exists_lostDispatch : ∃ moments s t crash, (systemMachine .pilot ["SKU-001"]).Run moments s ∧
    crash ∈ moments ∧ System.dies .pilot crash.1 (.dispatchAttempt 1 2) crash.2 = true ∧
    s.step .pilot (.consume (.dispatchAttempt 1 2) true ⟨16, 3000⟩ .done) = some t ∧ ¬t.triggered 1 := by
  obtain ⟨s, run, passes⟩ := Machine.exists_run_of_replay? (m := systemMachine .pilot ["SKU-001"]) lostDispatch
    (p := fun s : System => (s.step .pilot (.consume (.dispatchAttempt 1 2) true ⟨16, 3000⟩ .done)).any
      fun t : System => !decide (t.triggered 1)) (by decide +kernel)
  obtain ⟨crash, member, dies⟩ : ∃ crash ∈ (systemMachine .pilot ["SKU-001"]).momentsOf
      (systemMachine .pilot ["SKU-001"]).initial lostDispatch,
        System.dies .pilot crash.1 (.dispatchAttempt 1 2) crash.2 = true :=
    List.any_eq_true.mp (by decide +kernel)
  obtain ⟨t, step, lost⟩ := (Option.any_eq_true _ _).mp passes
  rw [Bool.not_eq_true', decide_eq_false_iff_not] at lost
  exact ⟨_, s, t, crash, run, member, dies, step, lost⟩

/-- The lost dispatch is not covered by a timeout check. -/
theorem not_redelivery_triggers : ¬∀ (deployment : Deployment) (stock : List String)
    (moments : List (System × SystemLabel)) (s t : System) (message : OrdersMessage)
    (crash : System × SystemLabel) (redelivered : Bool) (draw : Draw),
    (systemMachine deployment stock).Run moments s → crash ∈ moments →
      crash.1.dies deployment message crash.2 = true →
        s.step deployment (.consume message redelivered draw .done) = some t → t.triggered message.taskId := by
  intro claim
  obtain ⟨moments, s, t, crash, run, member, dies, step, lost⟩ := exists_lostDispatch
  exact lost (claim _ _ moments s t _ crash true _ run member dies step)

/-- The task of the lost dispatch does not go on. -/
theorem redelivery_triggers_iff_pilot : ∃ moments s t crash,
    (systemMachine .pilot ["SKU-001"]).Run moments s ∧ crash ∈ moments ∧
    System.dies .pilot crash.1 (.dispatchAttempt 1 2) crash.2 = true ∧
    s.step .pilot (.consume (.dispatchAttempt 1 2) true ⟨16, 3000⟩ .done) = some t ∧
    (t.triggered 1 ↔ s.goesOn (.dispatchAttempt 1 2)) := by
  obtain ⟨moments, s, t, crash, run, member, dies, step, -⟩ := exists_lostDispatch
  exact ⟨moments, s, t, crash, run, member, dies, step, redelivery_triggers_iff run member dies step⟩

end OrchLab
