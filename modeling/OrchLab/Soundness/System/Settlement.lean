import OrchLab.Machine.Ranking
import OrchLab.Soundness.Orders.Latency
import OrchLab.Soundness.System.Work
import Mathlib.Data.Fintype.EquivFin

/-! # Every order is settled

Once no order is placed, nothing is delivered more than once and no process dies, the services come to rest
whatever the engine proposes, whatever raises and in whatever order messages are taken: every step lowers the
work that is left. At rest the queues are empty and no decision point is open. After a crash a task may be left
there; without one it has ended, because nothing is pending for it.
-/

namespace OrchLab

/-- Nothing new is offered, and no process dies. -/
def SystemLabel.settles : SystemLabel → Bool
  | .createOrder .. | .repeatEvent _ | .repeatRequest _ => false
  | .consume _ _ _ ending | .decide _ _ _ _ ending | .stop _ ending | .answer _ ending => ending.survives
  | .build .. | .deadLetter .. | .reserve .. => true

/-- Both services with nothing new to do. -/
def drainingMachine (deployment : Deployment) (stock : List String) : Machine System SystemLabel :=
  (systemMachine deployment stock).restrict fun _ label => label.settles = true

/-- Both services without crashes of the orders-service, with nothing new to do. -/
def settlingMachine (deployment : Deployment) (stock : List String) : Machine System SystemLabel :=
  (orderlyMachine deployment stock).restrict fun _ label => label.settles = true

/-! ## Every step lowers the work -/

section Step

variable {deployment : Deployment} {s t : System} {label : SystemLabel}

private theorem work_of_erase {message : OrdersMessage} (present : message ∈ s.events) :
    message.work + ((s.events.erase message).map (·.work)).sum = (s.events.map (·.work)).sum :=
  List.sum_map_erase (·.work) present

private theorem four_le_work (message : OrdersMessage) : 4 ≤ message.work := by
  cases message <;> simp [OrdersMessage.work]

/-- The reply takes the request's place. -/
private theorem work_answered (network : Network s) {route : Target} {ending : Ending} {answer : Answer}
    (answering : s.answering route = some answer) (survives : ending.survives = true) :
    (s.publish answer ending).work deployment.config < s.work deployment.config := by
  obtain ⟨queued, rfl⟩ := network.answering route answer answering
  have fewer := List.length_erase_of_mem queued
  have some_request := List.length_pos_of_mem queued
  have free : ((Function.update s.answering answer.request.route none) .inventoryPrimary).isNone.toNat +
      ((Function.update s.answering answer.request.route none) .inventoryFallback).isNone.toNat =
      (s.answering .inventoryPrimary).isNone.toNat + (s.answering .inventoryFallback).isNone.toNat + 1 := by
    cases route : answer.request.route <;> rw [route] at answering <;> simp [answering]
    omega
  have reply : ((ending.performed [OrdersMessage.inventoryEvent answer.reply]).map (·.work)).sum ≤ 4 := by
    rcases Ending.survives_cases survives with rfl | ⟨_ | count, rfl⟩ <;>
      simp [Ending.performed, OrdersMessage.work]
  rcases Ending.survives_cases survives with rfl | ⟨count, rfl⟩ <;>
    simp only [System.work, System.publish, List.map_append, List.sum_append, List.length_append,
      List.length_singleton] <;>
    omega

private theorem work_consumed {message : OrdersMessage} {redelivered : Bool} {draw : Draw} {handled : Handled}
    (present : message ∈ s.events)
    (success : s.service.db.handle deployment.config message redelivered draw = .ok handled) :
    System.work deployment.config { s with
        service := s.service.consume deployment message redelivered draw, events := s.events.erase message } +
      message.work ≤ s.work deployment.config + (if handled.decisionRequired then 3 else 0) := by
  have fewer := work_of_erase present
  have own := (OrdersService.work_consume success).1
  simp only [System.work]
  omega

/-- Closing a decision point pays for the dead letter of the message that opened it. -/
private theorem work_closed (coherent : Coherent deployment s.service) (owner : DecisionOwner)
    (busy : s.service.points owner ≠ .closed) :
    System.work deployment.config { s with service := s.service.setPoint owner .closed } + 2 ≤
      s.work deployment.config := by
  have closed := OrdersService.work_setPoint deployment.config owner .closed
    (coherent.known_of_busy busy)
  have open_work : 2 ≤ (s.service.points owner).work := by
    cases point : s.service.points owner with
    | closed => exact absurd point busy
    | opened | built => simp [DecisionPoint.work]
  rw [DecisionPoint.work_closed] at closed
  simp only [System.work]
  omega

/-- A step of a process that survives lowers the work, unless it brings something new. -/
theorem work_lt_of_settles (network : Network s) (alone : (ordersMachine deployment).Reachable s.service)
    (settles : label.settles = true) (step : SystemStep deployment s label t) :
    t.work deployment.config < s.work deployment.config := by
  have coherent := reachable_coherent alone
  cases step with
  | created | repeatedEvent | repeatedRequest => cases settles
  | rejected message redelivered draw ending error idle present failed =>
    have fewer := work_of_erase present
    have weighs := four_le_work message
    simp only [System.work, List.length_append, List.length_singleton]
    omega
  | opened message redelivered draw ending handled idle present success opens =>
    have consumed := work_consumed present success
    have weighs := four_le_work message
    rw [opens] at consumed
    change System.work deployment.config { s with
      service := s.service.consume deployment message redelivered draw, events := s.events.erase message } < _
    simp only [if_true] at consumed
    omega
  | handled message redelivered draw ending handled idle present success quiet =>
    have consumed := work_consumed present success
    have paid := (OrdersService.work_consume success).2
    have performed := ending.work_performed handled.effects
    rw [quiet] at consumed
    refine (System.work_finish settles).trans_lt ?_
    rw [System.work_emit]
    simp only [Bool.false_eq_true, if_false] at consumed
    omega
  | built owner seen task state opened success =>
    have busy : s.service.points owner ≠ .closed := by simp [opened]
    have set := OrdersService.work_setPoint deployment.config owner (.built state)
      (coherent.known_of_busy busy)
    simp only [opened, DecisionPoint.work] at set
    simp only [System.work]
    omega
  | unbuilt owner seen task error opened failed =>
    have closed := work_closed coherent owner (by simp [opened])
    refine (System.work_leave rfl).trans_lt ?_
    omega
  | decided owner output decisionId draw ending state decision db result effects built resolved success =>
    have decided := OrdersService.work_decide coherent built resolved success
    have performed := ending.work_performed effects
    have moved := System.work_of_service deployment.config s
      (s.service.decide deployment owner state output decisionId draw)
    refine (System.work_leave settles).trans_lt ?_
    rw [System.work_emit]
    omega
  | undecided owner output decisionId draw ending state decision error built resolved failed =>
    have closed := work_closed coherent owner (by simp [built])
    refine (System.work_leave rfl).trans_lt ?_
    rw [OrdersService.decide_of_error resolved failed]
    change System.work deployment.config { s with service := s.service.setPoint owner .closed } + 1 < _
    omega
  | unresolved owner output decisionId draw ending state built raises =>
    have closed := work_closed coherent owner (by simp [built])
    refine (System.work_leave rfl).trans_lt ?_
    omega
  | stopped owner ending busy ends =>
    have closed := work_closed coherent owner busy
    refine (System.work_leave settles).trans_lt ?_
    omega
  | lettered letter now present =>
    have fewer := List.length_erase_of_mem present
    have some_letter := List.length_pos_of_mem present
    have less := OrdersService.work_deadLetter deployment s.service letter now
    simp only [System.work]
    omega
  | refused request draw injected error present idle failed =>
    have fewer := List.length_erase_of_mem present
    have some_request := List.length_pos_of_mem present
    simp only [System.work, List.length_append, List.length_singleton]
    omega
  | reserved request draw injected inventory outcome reply present idle success =>
    have taken : ((Function.update s.answering request.route (some ⟨request, reply⟩)) .inventoryPrimary).isNone.toNat +
        ((Function.update s.answering request.route (some ⟨request, reply⟩)) .inventoryFallback).isNone.toNat + 1 =
        (s.answering .inventoryPrimary).isNone.toNat + (s.answering .inventoryFallback).isNone.toNat := by
      cases route : request.route <;> rw [route] at idle <;> simp [idle]
      omega
    simp only [System.work]
    omega
  | answered route ending answer answering => exact work_answered network answering settles

end Step

/-! ## At rest -/

/-- No decision point is open, and nothing is queued or being answered. -/
structure System.Drained (s : System) : Prop where
  closed : ∀ owner, s.service.points owner = .closed
  events : s.events = []
  requests : s.requests = []
  deadLetters : s.deadLetters = []
  idle : ∀ route, s.answering route = none

/-- Every task has ended as well, and every order with it. -/
structure System.Settled (s : System) : Prop extends Drained s where
  tasks : ∀ task row, s.service.db.task? task = some row → row.status.terminal = true
  orders : ∀ order placed, s.service.db.order? order = some placed → placed.status ≠ .pending

section Rest

variable {deployment : Deployment} {stock : List String} {s : System}

private theorem exists_fresh (taken : List ℕ) : ∃ n, n ∉ taken := by
  obtain ⟨n, fresh⟩ := Infinite.exists_notMem_finset taken.toFinset
  exact ⟨n, by simpa using fresh⟩

private theorem exists_freshMessage (s : System) : ∃ message, s.freshMessage message := by
  obtain ⟨message, fresh⟩ := exists_fresh (s.service.requests.map (·.messageId) ++
    s.service.received.map (·.messageId) ++ s.responses.map (·.messageId))
  simp only [List.mem_append, not_or] at fresh
  exact ⟨message, ⟨fun request asked same => fresh.1.1 (List.mem_map.mpr ⟨request, asked, same⟩),
    fun event here same => fresh.1.2 (List.mem_map.mpr ⟨event, here, same⟩)⟩,
    fun response stored same => fresh.2 (List.mem_map.mpr ⟨response, stored, same⟩)⟩

/-- A step that is offered to a process that survives contradicts rest. -/
private theorem System.not_rests (label : SystemLabel) {t : System} (offered : s.admissible label)
    (orderly : s.orderly deployment label) (settles : label.settles = true)
    (step : s.step deployment label = some t) : ¬(settlingMachine deployment stock).Rests s :=
  fun rests => rests label t ⟨⟨offered, orderly⟩, settles⟩ step

/-- An open decision point can be completed. -/
private theorem closed_of_rests (execution : isExecutionId deployment.executionId = true)
    (alone : (ordersMachine deployment).Reachable s.service) (rests : (settlingMachine deployment stock).Rests s)
    (owner : DecisionOwner) : s.service.points owner = .closed := by
  cases point : s.service.points owner with
  | closed => rfl
  | opened task =>
    have known := (reachable_coherent alone).known owner task (by rw [point, DecisionPoint.task?])
    obtain ⟨row, stored⟩ := Option.ne_none_iff_exists'.mp known
    obtain ⟨file, found, rfl, -⟩ := file?_of_task? stored
    obtain ⟨state, built⟩ := exists_build_of_reachable alone execution deployment.config found
      (.calm file.row.createdAt 0) (Int.le_refl _)
    have orderly : s.orderly deployment (.build owner (.calm file.row.createdAt 0)) := by
      cases owner with
      | worker => trivial
      | api named =>
        obtain rfl := (reachable_coherent alone).own named task (by rw [point, DecisionPoint.task?])
        simp only [System.orderly, built]
        rfl
    exact absurd rests (System.not_rests (.build owner (.calm file.row.createdAt 0)) trivial orderly rfl
      (by simp only [System.step, point]; rfl))
  | built state =>
    obtain ⟨message, fresh⟩ := exists_freshMessage s
    obtain ⟨decisionId, undecided⟩ := exists_fresh (s.service.executed.map (·.decisionId))
    have admissible : s.admissible (.decide owner ⟨none, none⟩ decisionId ⟨message, 0⟩ .done) :=
      ⟨fun execution taken same => undecided (List.mem_map.mpr ⟨execution, taken, same⟩), fresh⟩
    have orderly : s.orderly deployment (.decide owner ⟨none, none⟩ decisionId ⟨message, 0⟩ .done) := by
      cases owner with
      | worker => rfl
      | api named =>
        refine ⟨rfl, ?_⟩
        rw [OrdersService.resolves, point]
        rfl
    exact absurd rests (System.not_rests _ admissible orderly rfl (by simp only [System.step, point]; rfl))

/-- A message, a request or a dead letter that is queued can be taken. -/
private theorem drained_of_closed (closed : ∀ owner, s.service.points owner = .closed)
    (rests : (settlingMachine deployment stock).Rests s) : s.Drained := by
  obtain ⟨message, fresh⟩ := exists_freshMessage s
  have idle : ∀ route, s.answering route = none := by
    intro route
    cases answering : s.answering route with
    | none => rfl
    | some answer =>
      exact absurd rests (System.not_rests (.answer route .done) trivial trivial rfl
        (by simp only [System.step, answering, Option.map_some]; rfl))
  refine ⟨closed, ?_, ?_, ?_, idle⟩
  · refine List.eq_nil_iff_forall_not_mem.mpr fun queued present => ?_
    exact absurd rests (System.not_rests (.consume queued false ⟨message, 0⟩ .done) fresh rfl rfl
      (if_pos ⟨closed .worker, present⟩))
  · refine List.eq_nil_iff_forall_not_mem.mpr fun request present => ?_
    exact absurd rests (System.not_rests (.reserve request ⟨message, 0⟩ none) fresh trivial rfl
      (if_pos ⟨present, idle request.route⟩))
  · refine List.eq_nil_iff_forall_not_mem.mpr fun letter present => ?_
    exact absurd rests (System.not_rests (.deadLetter letter 0) trivial trivial rfl (if_pos present))

/-- At rest, what has nothing pending has ended. -/
theorem settled_of_rests (execution : isExecutionId deployment.executionId = true)
    (reachable : (orderlyMachine deployment stock).Reachable s)
    (rests : (settlingMachine deployment stock).Rests s) : s.Settled := by
  obtain ⟨-, alone⟩ := reachable_network reachable.of_restrict
  have drained := drained_of_closed (closed_of_rests execution alone rests) rests
  have tasks : ∀ task row, s.service.db.task? task = some row → row.status.terminal = true := by
    intro task row stored
    obtain ⟨file, found, rfl, -⟩ := file?_of_task? stored
    by_contra alive
    cases reachable_covered reachable task file found (Bool.eq_false_iff.mpr alive) with
    | deadLetter letter queued => simp [drained.deadLetters] at queued
    | reevaluation _ queued => simp [drained.events] at queued
    | dispatch _ _ _ queued => simp [drained.events] at queued
    | reply request _ _ _ inFlight => simp [drained.events, drained.requests] at inFlight
    | decisionPoint opened =>
      refine opened ?_
      rw [(file?_eq_some_iff.mp found).2.2.2.1]
      exact OrdersService.pointOn_of_forall_ne fun owner => by simp [drained.closed owner, DecisionPoint.task?]
  refine ⟨drained, tasks, fun order placed stored pending => ?_⟩
  have known := exists_task_of_order alone order (by rw [stored]; exact Option.some_ne_none _)
  obtain ⟨row, found⟩ := Option.ne_none_iff_exists'.mp known
  obtain ⟨file, filed, rfl, -⟩ := file?_of_task? found
  obtain ⟨placed', same, follows⟩ := (reachable_controlled alone filed).order
  rw [(file?_eq_some_iff.mp filed).2.1, stored] at same
  obtain rfl := Option.some.inj same
  have ended := tasks order file.row found
  rw [follows.status] at pending
  cases status : file.row.status <;> simp [status, orderStatusFor, TaskStatus.terminal] at pending ended

/-- A drained system has no step to take. -/
theorem System.Drained.rests (drained : s.Drained) : (drainingMachine deployment stock).Rests s := by
  rintro label t ⟨-, settles⟩ step
  have transition : SystemStep deployment s label t := system_step_cases step
  cases transition with
  | created | repeatedEvent | repeatedRequest => cases settles
  | rejected _ _ _ _ _ _ present | opened _ _ _ _ _ _ present | handled _ _ _ _ _ _ present =>
    rw [drained.events] at present
    cases present
  | built owner _ _ _ opened | unbuilt owner _ _ _ opened =>
    rw [drained.closed owner] at opened
    cases opened
  | decided owner _ _ _ _ _ _ _ _ _ built | undecided owner _ _ _ _ _ _ _ built
  | unresolved owner _ _ _ _ _ built =>
    rw [drained.closed owner] at built
    cases built
  | stopped owner ending busy => exact busy (drained.closed owner)
  | lettered _ _ present =>
    rw [drained.deadLetters] at present
    cases present
  | refused _ _ _ _ present | reserved _ _ _ _ _ _ present =>
    rw [drained.requests] at present
    cases present
  | answered route ending answer answering =>
    rw [drained.idle route] at answering
    cases answering

/-- A drained system is one where a process that survives has no step to take. -/
theorem rests_iff_drained : (drainingMachine deployment stock).Rests s ↔ s.Drained := by
  refine ⟨fun rests => ?_, System.Drained.rests⟩
  have closed : ∀ owner, s.service.points owner = .closed := by
    intro owner
    by_contra busy
    refine rests (.stop owner (.raised 0)) _ ⟨trivial, rfl⟩ (if_neg ?_)
    simp [busy]
  exact drained_of_closed closed fun label t offered => rests label t ⟨offered.1.1, offered.2⟩

end Rest

/-! ## Settlement -/

/-- Whatever happened before, crashes included, the services drain within the work that is left, and they
have drained exactly when a process that survives has nothing to do. -/
theorem drains_within_work {deployment : Deployment} {stock : List String} {s : System}
    (reachable : (systemMachine deployment stock).Reachable s) :
    (∃ labels t, (drainingMachine deployment stock).Path s labels t ∧ t.Drained) ∧
      ∀ labels t, (drainingMachine deployment stock).Path s labels t →
        labels.length ≤ s.work deployment.config ∧ ((drainingMachine deployment stock).Rests t ↔ t.Drained) := by
  have falls : ∀ s l t, (systemMachine deployment stock).Reachable s →
      (drainingMachine deployment stock).admissible s l → (systemMachine deployment stock).step s l = some t →
        t.work deployment.config < s.work deployment.config := by
    intro s l t before offered step
    obtain ⟨network, alone⟩ := reachable_network before
    exact work_lt_of_settles network alone offered.2 (system_step_cases step)
  refine ⟨?_, fun labels t path => ⟨?_, rests_iff_drained⟩⟩
  · obtain ⟨labels, t, path, rests⟩ := Machine.Reachable.exists_path_rests falls reachable
    exact ⟨labels, t, path, rests_iff_drained.mp rests⟩
  · have bounded := Machine.Path.length_le falls path reachable
    omega

/-- The worker dies between its commit and the fallback it has to publish: the failure is delivered once more with the
timer of the first request, and all is drained within 62 steps. -/
theorem drains_within_work_pilot : ∃ s, (systemMachine .pilot ["SKU-001"]).Reachable s ∧
    s.events.length = 2 ∧ s.work Deployment.pilot.config = 62 ∧
    ∃ labels t, (drainingMachine .pilot ["SKU-001"]).Path s labels t ∧ labels.length ≤ 62 ∧ t.Drained := by
  obtain ⟨s, reachable, passes⟩ : ∃ s, (systemMachine .pilot ["SKU-001"]).Reachable s ∧
      decide (s.events.length = 2 ∧ s.work Deployment.pilot.config = 62) = true :=
    Machine.exists_reachable_of_replay? (firstDispatchOfSystem ++
      [.reserve firstRequest ⟨20, 3⟩ (some .transientError), .answer .inventoryPrimary .done,
        .consume (.inventoryEvent (firstReply 20 (.failed ⟨1, .primary, .transientError⟩))) false ⟨11, 100⟩ .done,
        .build .worker (.calm 101 2),
        .decide .worker (.proposing .fallback (some .inventoryFallback) .primaryExhausted) 2 ⟨12, 102⟩ (.died 0)])
      (by decide +kernel)
  obtain ⟨queued, work⟩ := of_decide_eq_true passes
  obtain ⟨⟨labels, t, path, drained⟩, all⟩ := drains_within_work reachable
  exact ⟨s, reachable, queued, work, labels, t, path, work ▸ (all labels t path).1, drained⟩

/-- However the services go on, they come to rest within the work that is left, and they rest exactly when
every task and every order has ended and nothing is in flight. -/
theorem settles_within_work {deployment : Deployment} {stock : List String} {s : System}
    (execution : isExecutionId deployment.executionId = true)
    (reachable : (orderlyMachine deployment stock).Reachable s) :
    (∃ labels t, (settlingMachine deployment stock).Path s labels t ∧ t.Settled) ∧
      ∀ labels t, (settlingMachine deployment stock).Path s labels t →
        labels.length ≤ s.work deployment.config ∧ ((settlingMachine deployment stock).Rests t ↔ t.Settled) := by
  have falls : ∀ s l t, (orderlyMachine deployment stock).Reachable s →
      (settlingMachine deployment stock).admissible s l → (orderlyMachine deployment stock).step s l = some t →
        t.work deployment.config < s.work deployment.config := by
    intro s l t before offered step
    obtain ⟨network, alone⟩ := reachable_network before.of_restrict
    exact work_lt_of_settles network alone offered.2 (system_step_cases step)
  have quiet : ∀ {t : System}, t.Settled → (settlingMachine deployment stock).Rests t :=
    fun settled label u offered => settled.toDrained.rests label u ⟨offered.1.1, offered.2⟩
  refine ⟨?_, fun labels t path => ⟨?_, ?_, quiet⟩⟩
  · obtain ⟨labels, t, path, rests⟩ := Machine.Reachable.exists_path_rests falls reachable
    exact ⟨labels, t, path, settled_of_rests execution (reachable.path path) rests⟩
  · have bounded := Machine.Path.length_le falls path reachable
    omega
  · exact settled_of_rests execution (reachable.path path)

/-- An order that has just been placed is settled within 83 steps. -/
theorem settles_within_work_pilot : ∃ s, (orderlyMachine .pilot ["SKU-001"]).Reachable s ∧
    s.work Deployment.pilot.config = 83 ∧
    ∃ labels t, (settlingMachine .pilot ["SKU-001"]).Path s labels t ∧ t.Settled := by
  obtain ⟨s, reachable, passes⟩ : ∃ s, (orderlyMachine .pilot ["SKU-001"]).Reachable s ∧
      decide (s.work Deployment.pilot.config = 83) = true :=
    Machine.exists_reachable_of_replay? [.createOrder .single 0] (by decide +kernel)
  exact ⟨s, reachable, of_decide_eq_true passes, (settles_within_work (by decide) reachable).1⟩

end OrchLab
