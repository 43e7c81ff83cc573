import OrchLab.Soundness.Orders.Escalation

/-! # Climbing the ladder

A task that escalates is always somewhere on its ladder: it is being decided on after its requests so far, waits
for the reply to the last of them, waits for the dispatch of a retry, or has ended. Every step of the service
leaves it there or takes it to the next place.
-/

namespace OrchLab

/-- The first decisions and requests of the ladder are those of the task. -/
structure Reached (n : ℕ) (file : TaskFile) (decisions requests : ℕ) : Prop where
  steps : file.steps = (ladder n).take decisions
  publications : file.publications = (rungs n).take requests

/-- Where the file of a task can be while it escalates over `n` attempts. -/
inductive Climbs (config : ExperimentConfig) (n : ℕ) (file : TaskFile) : Prop
  | deciding (k : ℕ) (rung : Rung n k file.row) (reached : Reached n file k k) (attemptOver : file.attemptOver)
      (readable : file.row.lastResult ≠ some .invalidData)
      (busy : file.point = .opened file.row.taskId ∨ ∃ state, file.point = .built state ∧ state.Untroubled config)
  | awaiting (k : ℕ) (rung : Rung n (k + 1) file.row) (reached : Reached n file (k + 1) (k + 1))
      (out : ¬file.attemptOver)
      (idle : file.point = .closed)
  | retrying (k : ℕ) (below : k + 1 < n) (status : file.row.status = .retrying)
      (target : file.row.currentTarget = some .inventoryPrimary) (attempt : file.row.attemptNumber = k + 2)
      (reached : Reached n file (k + 2) (k + 1)) (attemptOver : file.attemptOver) (idle : file.point = .closed)
  | aborted (status : file.row.status = .aborted) (reached : Reached n file (n + 2) (n + 1))
      (idle : file.point = .closed)
  | completed (k : ℕ) (within : k ≤ n) (status : file.row.status = .completed)
      (reached : Reached n file (k + 1) (k + 1)) (idle : file.point = .closed)

namespace Reached

variable {n decisions requests m : ℕ} {file : TaskFile} {row' : TaskRow} {columns : List EventColumns}
  {point : DecisionPoint} {received : List MessageEnvelope}

/-- A step that decides and publishes nothing. -/
theorem quiet (reached : Reached n file decisions requests) :
    Reached n (file.after m row' columns point received [] []) decisions requests := by
  refine ⟨?_, ?_⟩
  · rw [TaskFile.steps_after, List.map_nil, List.append_nil, reached.steps]
  · rw [TaskFile.publications_after, List.filterMap_nil, List.append_nil, reached.publications]

/-- The next decision of the ladder. -/
theorem decide (reached : Reached n file decisions requests) {state : SystemState} {decision : Decision}
    {decisionId : DecisionId} (next : (ladder n)[decisions]? = some (decision.action, decision.reasonCode))
    {effects : List Effect} (silent : effects.filterMap Effect.publication? = []) :
    Reached n (file.after m row' columns point received effects [.of state decision decisionId])
      (decisions + 1) requests := by
  refine ⟨?_, ?_⟩
  · rw [TaskFile.steps_after, take_succ_of_getElem? next, reached.steps]
    rfl
  · rw [TaskFile.publications_after, silent, List.append_nil, reached.publications]

/-- The next request of the ladder, with the decision that publishes it or without. -/
theorem publish (reached : Reached n file decisions requests) {executed : List Execution} {later : ℕ}
    (steps : (ladder n).take later = (ladder n).take decisions ++
      executed.map fun execution => (execution.decision.action, execution.decision.reasonCode))
    {config : ExperimentConfig} {draw : Draw} {decisionId : DecisionId} {items : List OrderItem} {route : Target}
    (next : (rungs n)[requests]? = some (route, row'.attemptNumber)) :
    Reached n (file.after m row' columns point received (requestEffects config row' decisionId draw items route)
      executed) later (requests + 1) := by
  refine ⟨?_, ?_⟩
  · rw [TaskFile.steps_after, steps, reached.steps]
  · rw [TaskFile.publications_after, take_succ_of_getElem? next, reached.publications]
    rfl

end Reached

/-! ## Decisions -/

section Decision

variable {deployment : Deployment} {s : OrdersService} {task : TaskId} {file : TaskFile} {draw : Draw}
  {row' : TaskRow} {columns : List EventColumns} {effects : List Effect} {decision : Decision}
  {decisionId : DecisionId} {k m : ℕ} {state : SystemState}

/-- The decision of a rung takes the task to the next place of the ladder. -/
theorem Climbs.decide (reachable : (ordersMachine deployment).Reachable s) (found : s.file? task = some file)
    (rung : Rung deployment.config.messaging.maxAttempts k file.row)
    (reached : Reached deployment.config.messaging.maxAttempts file k k) (attemptOver : file.attemptOver)
    (next : (ladder deployment.config.messaging.maxAttempts)[k]? = some (decision.action, decision.reasonCode))
    (move : Move deployment.config s.db draw file.row (.decision decision decisionId) row' columns effects false)
    (permits : Permits deployment.config file.row decision) (fresh : s.freshMessage draw.messageId) :
    Climbs deployment.config deployment.config.messaging.maxAttempts
      (file.after m row' columns .closed [] effects [.of state decision decisionId]) := by
  have positive := deployment.config.messaging.maxAttempts_pos
  have steps : (ladder deployment.config.messaging.maxAttempts).take (k + 1) =
      (ladder deployment.config.messaging.maxAttempts).take k ++
        [Execution.of state decision decisionId].map
          fun execution => (execution.decision.action, execution.decision.reasonCode) :=
    take_succ_of_getElem? next
  have out : effects.filterMap Effect.request? ≠ [] →
      ¬(file.after m row' columns .closed [] effects [.of state decision decisionId]).attemptOver := by
    intro asked
    have quiet_or_asks := move.quiet_or_asks (by rintro _ _ ⟨⟩; exact permits) (by rintro _ ⟨⟩)
    exact not_over_of_asks reachable found
      (quiet_or_asks.resolve_left fun quiet => asked quiet.effects) fresh
  cases rung with
  | ground status target attempt =>
    have action : decision.action = .continueFlow :=
      (congrArg Prod.fst (Option.some_inj.mp ((ladder_first _).symm.trans next))).symm
    cases move with
    | continued =>
      refine .awaiting 0 (.primary le_rfl positive rfl rfl attempt) (reached.publish steps ?_)
        (out (List.cons_ne_nil _ _)) rfl
      rw [rungs_primary positive]
      exact congrArg (fun attempt => some (Target.inventoryPrimary, attempt)) attempt.symm
    | retried _ _ other | waited _ _ other | fellBack _ _ _ _ other | aborted _ _ other =>
      rw [action] at other
      cases other
  | primary first within status target attempt =>
    rcases within.lt_or_eq with below | rfl
    · have action : decision.action = .retry :=
        (congrArg Prod.fst (Option.some_inj.mp ((ladder_retry first below).symm.trans next))).symm
      obtain ⟨k, rfl⟩ := Nat.exists_eq_add_of_le' first
      cases move with
      | retried =>
        refine .retrying k below rfl target (congrArg Nat.succ attempt) (reached.decide next rfl) ?_ rfl
        intro request last
        have last' : file.requests.getLast? = some request := by
          rw [← last, TaskFile.requests_after_of_quiet rfl]
        rcases attemptOver request last' with ⟨event, member, same⟩ | registered
        · exact .inl ⟨event, List.mem_append_left _ member, same⟩
        · obtain ⟨row, logged, timedOut⟩ := timeoutRegistered_iff.mp registered
          exact .inr (timeoutRegistered_iff.mpr ⟨row, List.mem_append_left _ logged, timedOut⟩)
      | continued _ _ _ other | waited _ _ other | fellBack _ _ _ _ other | aborted _ _ other =>
        rw [action] at other
        cases other
    · have action : decision.action = .fallback :=
        (congrArg Prod.fst (Option.some_inj.mp ((ladder_fallback positive).symm.trans next))).symm
      cases move with
      | fellBack _ _ items route _ toRoute =>
        obtain ⟨-, toFallback⟩ : file.row.fallbackUsed = false ∧ decision.target = some .inventoryFallback := by
          simpa only [Permits, action] using permits
        obtain rfl : route = .inventoryFallback := Option.some_inj.mp (toRoute.symm.trans toFallback)
        refine .awaiting _ (.fallback rfl rfl attempt) (reached.publish steps ?_) (out (List.cons_ne_nil _ _)) rfl
        rw [rungs_fallback]
        exact congrArg (fun attempt => some (Target.inventoryFallback, attempt)) attempt.symm
      | continued _ _ _ other | retried _ _ other | waited _ _ other | aborted _ _ other =>
        rw [action] at other
        cases other
  | fallback status target attempt =>
    have action : decision.action = .abort :=
      (congrArg Prod.fst (Option.some_inj.mp ((ladder_abort positive).symm.trans next))).symm
    cases move with
    | aborted => exact .aborted rfl (reached.decide next rfl) rfl
    | continued _ _ _ other | retried _ _ other | waited _ _ other | fellBack _ _ _ _ other =>
      rw [action] at other
      cases other

end Decision

/-! ## Messages -/

section Message

variable {deployment : Deployment} {s : OrdersService} {task : TaskId} {file : TaskFile} {draw : Draw}
  {row' : TaskRow} {columns : List EventColumns} {effects : List Effect} {opens : Bool} {k m : ℕ}

/-- A task that has ended stays where it is. -/
theorem Climbs.settled {config : ExperimentConfig} {n : ℕ} {cause : Cause} (holds : Climbs config n file)
    (ended : file.row.status.terminal = true)
    (move : Move config s.db draw file.row cause row' columns effects opens) :
    Climbs config n (file.after m row' columns (if opens then .opened file.row.taskId else .closed)
      cause.received effects []) := by
  obtain rfl : opens = false := by
    cases opens with
    | false => rfl
    | true => exact absurd (move.alive_of_opens.symm.trans ended) (by rintro ⟨⟩)
  have same := move.status_of_terminal ended
  obtain rfl := (move.of_terminal ended).2.1
  cases holds with
  | deciding k rung => exact absurd (rung.alive.symm.trans ended) (by rintro ⟨⟩)
  | awaiting k rung => exact absurd (rung.alive.symm.trans ended) (by rintro ⟨⟩)
  | retrying k below status => rw [status] at ended; cases ended
  | aborted status reached => exact .aborted (same.trans status) reached.quiet rfl
  | completed k within status reached => exact .completed k within (same.trans status) reached.quiet rfl

/-- The reply or the timeout of the latest request opens the next decision point, or completes the task. -/
theorem Climbs.answered {message : OrdersMessage} {redelivered : Bool}
    (reachable : (ordersMachine deployment).Reachable s) (found : s.file? task = some file)
    (escalates : s.escalates deployment task (.consume message redelivered draw))
    (promised : s.deliverable message)
    (rung : Rung deployment.config.messaging.maxAttempts (k + 1) file.row)
    (reached : Reached deployment.config.messaging.maxAttempts file (k + 1) (k + 1))
    (move : Move deployment.config s.db draw file.row (.message message) row' columns effects opens) :
    Climbs deployment.config deployment.config.messaging.maxAttempts
      (file.after m row' columns (if opens then .opened file.row.taskId else .closed)
        (Cause.message message).received effects []) := by
  have own := OrdersService.taskId_of_file found
  obtain ⟨row, -, events, -, received, -⟩ := file?_eq_some_iff.mp found
  have alive := rung.alive
  -- An event of the live task answers its latest request, and is the first to do so.
  have answers : ∀ event, message = .inventoryEvent event → event.taskId = file.row.taskId →
      s.db.isEventProcessed event.messageId = false ∧ s.db.isCurrent event = true ∧
        event.payload.endsAttempt = true ∧
        ∃ request, file.requests.getLast? = some request ∧ event.eventSeq = request.eventSeq := by
    rintro event rfl about
    obtain ⟨request, -, ⟨-, last, unanswered, -⟩, answers, ends⟩ :=
      escalates (about.trans own) ⟨file.row, row, alive⟩
    rw [OrdersService.requestsFor_eq found] at last
    refine ⟨?_, (isCurrent_iff reachable found last (about.trans own)).mpr answers.2.2.1, ends,
      request, last, answers.2.2.1⟩
    rw [Bool.eq_false_iff]
    intro processed
    obtain ⟨earlier, heard, same⟩ := ((reachable_ledger reachable).processed event.messageId).mp processed
    obtain rfl := promised.2.2 earlier heard same
    exact unanswered earlier heard (about.trans own) answers.2.2.1
  have asked : ∀ request, (file.after m row' columns (if opens then .opened file.row.taskId else .closed)
      (Cause.message message).received [] []).requests.getLast? = some request →
        file.requests.getLast? = some request := by
    intro request last
    rw [← last, TaskFile.requests_after_of_quiet rfl]
  cases move with
  | repeated event eventSeq about processed =>
    rw [(answers event rfl about).1] at processed
    cases processed
  | inert event redelivered' about fresh type late =>
    rcases late with ended | ⟨-, late⟩
    · rw [alive] at ended
      cases ended
    · rw [(answers event rfl about).2.1] at late
      cases late
  | failed event payload redelivered' about fresh type =>
    obtain ⟨-, -, ends, request, last, same⟩ := answers event rfl about
    rw [type] at ends
    have transient : payload.failureReason = .transientError := of_decide_eq_true ends
    refine .deciding (k + 1) (rung.congr rfl rfl rfl) reached.quiet ?_ ?_ (.inl rfl)
    · intro other last'
      obtain rfl : request = other := Option.some_inj.mp (last.symm.trans (asked other last'))
      exact .inl ⟨event, List.mem_append_right _ (List.mem_singleton_self _), same⟩
    · change some (failureResult payload.failureReason event.target) ≠ _
      rw [transient, failureResult]
      split_ifs <;> rintro ⟨⟩
  | completed event payload redelivered' about =>
    exact .completed k (Nat.le_of_succ_le_succ rung.le) rfl reached.quiet rfl
  | timedOut request live awaiting unregistered =>
    refine .deciding (k + 1) (rung.congr rfl rfl rfl) reached.quiet ?_ ?_ (.inl rfl)
    · intro other last
      rw [own] at awaiting
      obtain ⟨latest, here, named⟩ := exists_last_of_awaiting reachable found awaiting
      obtain rfl : latest = other := Option.some_inj.mp (here.symm.trans (asked other last))
      refine .inr (timeoutRegistered_iff.mpr ⟨_, List.mem_append_right _ (List.mem_singleton_self _), ?_⟩)
      exact congrArg some named.symm
    · change some (timeoutResult file.row.currentTarget) ≠ _
      rw [timeoutResult]
      split_ifs <;> rintro ⟨⟩
  | waitOver waiting => exact absurd waiting rung.idle.2
  | retryDispatched _ _ _ retrying => exact absurd retrying rung.idle.1

/-- A scheduled retry is dispatched; nothing else can happen to the task. -/
theorem Climbs.redispatched {message : OrdersMessage} {redelivered : Bool}
    (reachable : (ordersMachine deployment).Reachable s) (found : s.file? task = some file)
    (escalates : s.escalates deployment task (.consume message redelivered draw))
    (fresh : s.freshMessage draw.messageId) (below : k + 1 < deployment.config.messaging.maxAttempts)
    (status : file.row.status = .retrying) (target : file.row.currentTarget = some .inventoryPrimary)
    (attempt : file.row.attemptNumber = k + 2)
    (reached : Reached deployment.config.messaging.maxAttempts file (k + 2) (k + 1)) (attemptOver : file.attemptOver)
    (move : Move deployment.config s.db draw file.row (.message message) row' columns effects opens) :
    Climbs deployment.config deployment.config.messaging.maxAttempts
      (file.after m row' columns (if opens then .opened file.row.taskId else .closed)
        (Cause.message message).received effects []) := by
  have own := OrdersService.taskId_of_file found
  have row := (file?_eq_some_iff.mp found).1
  have alive : file.row.status.terminal = false := by rw [status]; rfl
  have silent : ∀ event, message = .inventoryEvent event → event.taskId ≠ file.row.taskId := by
    rintro event rfl about
    obtain ⟨request, -, applies, -⟩ := escalates (about.trans own) ⟨file.row, row, alive⟩
    exact not_timeoutApplies_of_over found attemptOver request applies
  have quiet_or_asks := move.quiet_or_asks (by rintro _ _ ⟨⟩) (by
    rintro event ⟨⟩
    exact absurd move.message_taskId (silent event rfl))
  cases move with
  | repeated event _ about | inert event _ about | failed event _ _ about | completed event _ _ about =>
    exact absurd about (silent event rfl)
  | timedOut request live awaiting unregistered =>
    rw [own] at awaiting unregistered
    obtain ⟨last, asked, rfl⟩ := exists_last_of_awaiting reachable found awaiting
    have registers : s.db.registers draw.now task last.messageId :=
      registers_iff.mpr ⟨⟨file.row, row, alive⟩, awaiting, unregistered⟩
    have sent : last ∈ s.requestsFor task := by
      rw [OrdersService.requestsFor_eq found]
      exact List.mem_of_getLast? asked
    exact absurd ((registers_iff_applies reachable sent draw.now).mp registers).1
      (not_timeoutApplies_of_over found attemptOver last)
  | waitOver waiting =>
    rw [status] at waiting
    cases waiting
  | retryDispatched decisionId items route retrying toRoute =>
    obtain rfl : route = .inventoryPrimary := Option.some_inj.mp (toRoute.symm.trans target)
    refine .awaiting (k + 1) (.primary (Nat.succ_pos _) below rfl target attempt)
      (reached.publish (List.append_nil _).symm ?_) ?_ rfl
    · rw [rungs_primary below]
      exact congrArg (fun attempt => some (Target.inventoryPrimary, attempt)) attempt.symm
    · exact not_over_of_asks reachable found
        (quiet_or_asks.resolve_left fun quiet => absurd quiet.effects (List.cons_ne_nil _ _)) fresh

end Message

/-! ## Steps -/

section Step

variable {deployment : Deployment} {s t : OrdersService} {task : TaskId} {label : OrdersLabel}
  {file file' : TaskFile}

/-- The snapshot a step leaves open is the one it built. -/
theorem build_of_step (reachable : (ordersMachine deployment).Reachable s) {owner : DecisionOwner}
    {seen : Observation} {state : SystemState}
    (step : (ordersMachine deployment).step s (.build owner seen) = some t)
    (opened : s.points owner = .opened task) (left : t.pointOn task = .built state) :
    s.db.build deployment.config task seen = .ok state := by
  have after : (ordersMachine deployment).Reachable t := reachable.snoc (l := .build owner seen) trivial step
  have leaves : some (s.build deployment owner task seen) = some t := by
    simpa only [ordersMachine, OrdersService.step, opened] using step
  rw [Option.some_inj] at leaves
  subst leaves
  cases built : s.db.build deployment.config task seen with
  | error error =>
    simp only [OrdersService.build, built] at left
    rw [OrdersService.pointOn_setPoint_closed (reachable_coherent reachable)
      (by rw [opened, DecisionPoint.task?])] at left
    cases left
  | ok other =>
    simp only [OrdersService.build, built] at left after
    obtain ⟨row, found, describes, -⟩ := OrdersDb.build_eq_ok built
    have point : (s.setPoint owner (.built other)).points owner = .built other := by
      rw [OrdersService.setPoint_points, if_pos rfl]
    rw [OrdersService.pointOn_of_coherent (reachable_coherent after) owner
      (by rw [point, DecisionPoint.task?, describes.task, OrdersDb.taskId_of_task? found]), point] at left
    rw [DecisionPoint.built.inj left]

/-- The decision point of an escalating task is not given up. -/
private theorem not_closed_of_escalates (pattern : isExecutionId deployment.executionId = true)
    (reachable : (ordersMachine deployment).Reachable s) (found : s.file? task = some file)
    (escalates : s.escalates deployment task label) (step : (ordersMachine deployment).step s label = some t)
    {owner : DecisionOwner} (own : (s.points owner).task? = some task)
    (abandons : label.Abandons deployment s owner task) : False := by
  cases label with
  | createOrder | consume | deadLetter => exact abandons
  | raise other =>
    obtain rfl := abandons
    exact escalates own
  | decide other output decisionId draw =>
    obtain ⟨rfl, state, built, raises⟩ := abandons
    have decides : (RulesDecisionEngine.ofConfig deployment.config).decide? state = some output := by
      simpa only [OrdersService.rulesDecide, built] using escalates own
    rw [DecisionValidator.decision?_eq_none_iff, RulesDecisionEngine.encodable_of_decide? decides] at raises
    cases raises
  | build other seen =>
    obtain ⟨rfl, error, failed⟩ := abandons
    have opened : s.points other = .opened task := by
      change OrdersService.step deployment s (.build other seen) = some t at step
      cases point : s.points other with
      | closed | built => simp [OrdersService.step, point] at step
      | opened named =>
        rw [point, DecisionPoint.task?, Option.some_inj] at own
        rw [own]
    obtain ⟨state, built⟩ := exists_build_of_reachable reachable pattern deployment.config found seen
      (escalates opened file.row (file?_eq_some_iff.mp found).1).started
    rw [built] at failed
    cases failed

/-- A reply that is heard again finds the escalating task ended. -/
private theorem ended_of_noted {event : MessageEnvelope} {redelivered : Bool} {draw : Draw}
    (reachable : (ordersMachine deployment).Reachable s) (found : s.file? task = some file)
    (escalates : s.escalates deployment task (.consume (.inventoryEvent event) redelivered draw))
    (own : event.taskId = task) (promised : s.deliverable (.inventoryEvent event))
    (processed : s.db.isEventProcessed event.messageId = true) : file.row.status.terminal = true := by
  by_contra alive
  obtain ⟨request, -, ⟨-, -, unanswered, -⟩, answers, -⟩ :=
    escalates own ⟨file.row, (file?_eq_some_iff.mp found).1, Bool.not_eq_true _ ▸ alive⟩
  obtain ⟨earlier, heard, same⟩ := ((reachable_ledger reachable).processed event.messageId).mp processed
  obtain rfl := promised.2.2 earlier heard same
  exact unanswered earlier heard own answers.2.2.1

/-- The rules decide the next step of the ladder from the snapshot of an escalating task. -/
private theorem step_of_decided (reachable : (ordersMachine deployment).Reachable s)
    (found : s.file? task = some file) {owner : DecisionOwner} {output : EngineOutput} {decisionId : DecisionId}
    {draw : Draw} (escalates : s.escalates deployment task (.decide owner output decisionId draw)) {k : ℕ}
    (rung : Rung deployment.config.messaging.maxAttempts k file.row)
    (readable : file.row.lastResult ≠ some .invalidData) {state : SystemState}
    (busy : file.point = .opened file.row.taskId ∨
      ∃ state, file.point = .built state ∧ state.Untroubled deployment.config)
    (before : file.point = .built state) {decision : Decision} (built : s.points owner = .built state)
    (describes : state.Describes deployment.config file.row)
    (resolved : deployment.validator.decision? state output = some decision) :
    (ladder deployment.config.messaging.maxAttempts)[k]? = some (decision.action, decision.reasonCode) := by
  have untroubled : state.Untroubled deployment.config := by
    rcases busy with opened | ⟨other, left, calm⟩
    · rw [before] at opened
      cases opened
    · rw [before] at left
      rwa [DecisionPoint.built.inj left]
  have decides : (RulesDecisionEngine.ofConfig deployment.config).decide? state = some output := by
    have rules := escalates
      (by rw [built, DecisionPoint.task?, describes.task, OrdersService.taskId_of_file found])
    simpa only [OrdersService.rulesDecide, built] using rules
  exact RulesDecisionEngine.step_of_rung deployment.accepted untroubled describes rung
    (reachable_outcome reachable found ⟨rung.alive, .inr (by rw [before]; rintro ⟨⟩)⟩) readable
    (reachable_controlled reachable found).fallbackUsed decides
    (DecisionValidator.resolve?_of_decision? resolved)

/-- Every step of the service leaves an escalating task on its ladder. -/
theorem climbs_step (pattern : isExecutionId deployment.executionId = true)
    (reachable : (ordersMachine deployment).Reachable s) (found : s.file? task = some file)
    (holds : Climbs deployment.config deployment.config.messaging.maxAttempts file)
    (escalates : s.escalates deployment task label)
    (step : (ordersMachine deployment).step s label = some t) (found' : t.file? task = some file')
    (moves : FileStep deployment s label file file') :
    Climbs deployment.config deployment.config.messaging.maxAttempts file' := by
  have own := OrdersService.taskId_of_file found
  cases moves with
  | same => exact holds
  | closed busy owner abandons here =>
    rw [own] at here abandons
    exact (not_closed_of_escalates pattern reachable found escalates step here abandons).elim
  | built state opened describes valid owner seen labels here =>
    subst labels
    rw [own] at here
    have built := build_of_step reachable step here (file?_eq_some_iff.mp found').2.2.2.1.symm
    have untroubled := OrdersDb.untroubled_of_build built (escalates here)
    cases holds with
    | deciding k rung reached attemptOver readable =>
      exact .deciding k rung ⟨reached.steps, reached.publications⟩ attemptOver readable
        (.inr ⟨state, rfl, untroubled⟩)
    | awaiting _ _ _ _ idle | retrying _ _ _ _ _ _ _ idle | aborted _ _ idle | completed _ _ _ _ idle =>
      rw [idle] at opened
      cases opened
  | noted event redelivered draw labels about promised processed =>
    subst labels
    have ended := ended_of_noted reachable found escalates (about.trans own) promised processed
    cases holds with
    | deciding k rung | awaiting k rung => exact absurd (rung.alive.symm.trans ended) (by rintro ⟨⟩)
    | retrying k below status => rw [status] at ended; cases ended
    | aborted status reached idle => exact .aborted status ⟨reached.steps, reached.publications⟩ idle
    | completed k within status reached idle =>
      exact .completed k within status ⟨reached.steps, reached.publications⟩ idle
  | declined owner output decisionId draw state decision labels built seen valid resolved approved refused here =>
    cases holds with
    | deciding k rung =>
      have alive := rung.alive
      obtain ⟨error, raised⟩ := refused.resolve_right (by rw [alive]; rintro ⟨⟩)
      have describes := seen.resolve_left (by rw [alive]; rintro ⟨⟩)
      exact absurd raised (not_declined reachable found alive describes valid approved error)
    | awaiting _ _ _ _ idle | retrying _ _ _ _ _ _ _ idle | aborted _ _ idle | completed _ _ _ _ idle =>
      rw [idle] at built
      cases built
  | moved draw cause row' columns effects opens point executed move happens =>
    generalize before : file.point = openPoint at happens
    cases happens with
    | message message redelivered draw promised fresh =>
      cases holds with
      | deciding k rung reached attemptOver readable busy =>
        rcases busy with opened | ⟨state, built, -⟩
        · rw [before] at opened
          cases opened
        · rw [before] at built
          cases built
      | awaiting k rung reached out idle =>
        exact Climbs.answered reachable found escalates promised rung reached move
      | retrying k below status target attempt reached attemptOver idle =>
        exact Climbs.redispatched reachable found escalates fresh below status target attempt reached attemptOver
          move
      | aborted status reached idle =>
        exact Climbs.settled (.aborted status reached idle) (by rw [status]; rfl) move
      | completed k within status reached idle =>
        exact Climbs.settled (.completed k within status reached idle) (by rw [status]; rfl) move
    | decision owner output decisionId draw state decision built about describes resolved permits undecided fresh =>
      cases holds with
      | deciding k rung reached attemptOver readable busy =>
        have next := step_of_decided reachable found escalates rung readable busy before built describes resolved
        obtain rfl : opens = false := by cases move <;> rfl
        exact Climbs.decide reachable found rung reached attemptOver next move permits fresh
      | awaiting _ _ _ _ idle | retrying _ _ _ _ _ _ _ idle | aborted _ _ idle | completed _ _ _ _ idle =>
        rw [before] at idle
        cases idle
    | deadLetter letter now =>
      have about : letter.taskId = some task := by
        cases move with
        | deadLettered _ about | deadLetterLogged _ about => rw [about, own]
      exact absurd about escalates

end Step

/-- An escalating task is somewhere on its ladder. -/
theorem reachable_climbs {deployment : Deployment} (pattern : isExecutionId deployment.executionId = true)
    {task : TaskId} {s : OrdersService} (reachable : (escalationMachine deployment task).Reachable s)
    {file : TaskFile} (found : s.file? task = some file) :
    Climbs deployment.config deployment.config.messaging.maxAttempts file := by
  refine Machine.Reachable.invariant (P := fun s => ∀ file, s.file? task = some file →
    Climbs deployment.config deployment.config.messaging.maxAttempts file) ?_ ?_ reachable file found
  · intro file found
    simp [escalationMachine, Machine.restrict, ordersMachine, OrdersService.initial, OrdersService.file?,
      OrdersDb.task?, OrdersDb.empty] at found
  · intro s label t before holds offered step file' found'
    have earlier := before.of_restrict
    rcases step_file earlier offered.1 step found' with ⟨request, now, -, -, rfl⟩ | ⟨file, found, moves⟩
    · exact .deciding 0 (.ground rfl rfl rfl) ⟨rfl, rfl⟩ (by rintro _ ⟨⟩) (by rintro ⟨⟩) (.inl rfl)
    · exact climbs_step pattern earlier found (holds file found) offered.2 step found' moves

end OrchLab
