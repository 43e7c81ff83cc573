import OrchLab.Soundness.Orders.Climb

/-! # Where the climb ends

A task at rest has climbed its whole ladder, unless one of its requests succeeded. The success of a request completes
the task, which then stays on the rung of that request.
-/

namespace OrchLab

namespace OrdersService

/-- Nothing is under way for the task: no decision point is open, no retry waits for its dispatch, and each of its
requests has its reply or its timeout. -/
structure Rests (s : OrdersService) (task : TaskId) : Prop where
  idle : s.pointOn task = .closed
  dispatched : ∀ row ∈ s.db.task? task, row.status ≠ .retrying
  attemptOver : ∀ request ∈ s.requestsFor task,
    (∃ event ∈ s.received, event.taskId = task ∧ event.eventSeq = request.eventSeq) ∨
      timeoutRegistered (s.db.trajectory task) request.messageId = true

instance (s : OrdersService) (task : TaskId) : Decidable (s.Rests task) :=
  decidable_of_iff (s.pointOn task = .closed ∧ (∀ row ∈ s.db.task? task, row.status ≠ .retrying) ∧
      ∀ request ∈ s.requestsFor task,
        (∃ event ∈ s.received, event.taskId = task ∧ event.eventSeq = request.eventSeq) ∨
          timeoutRegistered (s.db.trajectory task) request.messageId = true)
    ⟨fun ⟨idle, dispatched, attemptOver⟩ => ⟨idle, dispatched, attemptOver⟩,
      fun rests => ⟨rests.idle, rests.dispatched, rests.attemptOver⟩⟩

/-- The step brings the live task the success of its request number `k`, counted from 0. -/
def succeeds (s : OrdersService) (task : TaskId) (k : ℕ) : OrdersLabel → Prop
  | .consume (.inventoryEvent event) _ _ => event.taskId = task ∧ s.live task ∧
      (∃ payload, event.payload = .succeeded payload) ∧
        ∃ request ∈ (s.requestsFor task)[k]?, event.Answers request
  | _ => False

end OrdersService

/-- A task that has ended keeps its status and publishes nothing. -/
theorem FileStep.of_settled {deployment : Deployment} {s : OrdersService} {label : OrdersLabel}
    {file file' : TaskFile} (moves : FileStep deployment s label file file')
    (ended : file.row.status.terminal = true) : file'.row.status = file.row.status ∧ file'.sent = file.sent := by
  cases moves with
  | same | closed | built | noted | declined => exact ⟨rfl, rfl⟩
  | moved draw cause row' columns effects opens point executed move =>
    obtain ⟨-, rfl, -⟩ := move.of_terminal ended
    exact ⟨move.status_of_terminal ended, List.append_nil _⟩

section Success

variable {deployment : Deployment} {s t : OrdersService} {task : TaskId} {label : OrdersLabel}
  {file file' : TaskFile} {k : ℕ}

/-- A success completes the task that has made exactly the requests up to the one that succeeded. -/
theorem completed_of_succeeds (reachable : (ordersMachine deployment).Reachable s) (found : s.file? task = some file)
    (offered : (ordersMachine deployment).admissible s label) (escalates : s.escalates deployment task label)
    (succeeds : s.succeeds task k label) (moves : FileStep deployment s label file file') :
    file'.row.status = .completed ∧ file'.publications.length = k + 1 := by
  have own := OrdersService.taskId_of_file found
  have row := (file?_eq_some_iff.mp found).1
  cases label with
  | createOrder | build | decide | raise | deadLetter => cases succeeds
  | consume message redelivered draw =>
    cases message with
    | timeoutCheck | dispatchAttempt | reevaluate => cases succeeds
    | inventoryEvent event =>
      obtain ⟨about, live, ⟨payload, success⟩, request, indexed, answers⟩ := succeeds
      obtain ⟨last, -, ⟨-, latest, unanswered, -⟩, answers', -⟩ := escalates about live
      have alive : file.row.status.terminal = false := by
        obtain ⟨other, stored, alive⟩ := live
        obtain rfl : file.row = other := Option.some_inj.mp (row.symm.trans stored)
        exact alive
      rw [OrdersService.requestsFor_eq found] at indexed latest
      have requested := reachable_requested reachable found
      have here := List.mem_of_getElem? indexed
      obtain rfl : request = last := requested.eq_of_eventSeq here (List.mem_of_getLast? latest)
        (answers.2.2.1.symm.trans answers'.2.2.1)
      -- The request that succeeded is the latest one, so it is the last in the list.
      have count : file.requests.length = k + 1 := by
        have apart := List.nodup_iff_getElem?_ne_getElem?.mp (List.Nodup.of_map _ (List.pairwise_map.mpr
          (requested.increasing.imp fun less => less.ne) : (file.requests.map (·.eventSeq)).Nodup))
        rw [List.getLast?_eq_getElem?] at latest
        obtain ⟨within, -⟩ := List.getElem?_eq_some_iff.mp indexed
        by_contra other
        exact apart k (file.requests.length - 1) (by omega) (by omega) (indexed.trans latest.symm)
      have unprocessed : s.db.isEventProcessed event.messageId = false := by
        rw [Bool.eq_false_iff]
        intro processed
        obtain ⟨earlier, heard, same⟩ := ((reachable_ledger reachable).processed event.messageId).mp processed
        obtain rfl := offered.1.2.2 earlier heard same
        exact unanswered earlier heard about answers.2.2.1
      have stored : s.db.task? event.taskId = some file.row := by rw [about]; exact row
      rcases moves.of_consume with ⟨-, spares⟩ | ⟨other, is, -, -, processed, -⟩ |
        ⟨row', columns, effects, opens, move, -, -, -, rfl⟩
      · rcases spares (about.trans own.symm) with (processed | absent) | ⟨error, raised⟩
        · rw [unprocessed] at processed
          cases processed
        · rw [stored] at absent
          cases absent
        · obtain ⟨result, handled⟩ := exists_handled_of_success stored unprocessed success draw redelivered
          rw [OrdersDb.handle, handled] at raised
          cases raised
      · cases is
        rw [unprocessed] at processed
        cases processed
      · cases move with
        | completed =>
          refine ⟨rfl, ?_⟩
          rw [TaskFile.publications_after, List.filterMap_nil, List.append_nil, file.length_publications, count]
        | repeated _ _ _ processed =>
          rw [unprocessed] at processed
          cases processed
        | inert _ _ _ _ _ late =>
          rcases late with ended | ⟨failed, -⟩
          · rw [alive] at ended
            cases ended
          · rw [MessageEnvelope.eventType, success] at failed
            cases failed
        | failed _ _ _ _ _ type =>
          rw [success] at type
          cases type

/-- A task that completes has just received the success of one of its requests. -/
theorem succeeds_of_completed (found : s.file? task = some file) (moves : FileStep deployment s label file file')
    (before : file.row.status ≠ .completed) (after : file'.row.status = .completed) :
    ∃ k, s.succeeds task k label := by
  have own := OrdersService.taskId_of_file found
  cases moves with
  | same | closed | built | noted | declined => exact absurd after before
  | moved draw cause row' columns effects opens point executed move happens =>
    have alive : file.row.status.terminal = false := by
      rw [Bool.eq_false_iff]
      intro ended
      exact before ((move.status_of_terminal ended).symm.trans after)
    obtain ⟨event, payload, rfl, success⟩ := (move.completes after).resolve_left before
    have about : event.taskId = task := move.message_taskId.trans own
    generalize file.point = openPoint at happens
    cases happens with
    | message _ redelivered draw promised fresh =>
      obtain ⟨request, asked, answers⟩ := OrdersService.exists_request_of_deliverable found promised about
      obtain ⟨k, indexed⟩ := List.mem_iff_getElem?.mp asked
      refine ⟨k, about, ⟨file.row, (file?_eq_some_iff.mp found).1, alive⟩, ⟨payload, success⟩, request, ?_, answers⟩
      rw [OrdersService.requestsFor_eq found]
      exact indexed

end Success

section Runs

variable {deployment : Deployment} {task : TaskId} {moments : List (OrdersService × OrdersLabel)} {s : OrdersService}
  {file : TaskFile} {n k : ℕ}

/-- What was decided and published so far is the beginning of the ladder. -/
theorem Climbs.prefixes {config : ExperimentConfig} (climbs : Climbs config n file) :
    file.steps <+: ladder n ∧ file.publications <+: rungs n := by
  cases climbs with
  | deciding _ _ reached | awaiting _ _ reached | retrying _ _ _ _ _ reached | aborted _ reached
  | completed _ _ _ reached =>
    rw [reached.steps, reached.publications]
    exact ⟨List.take_prefix .., List.take_prefix ..⟩

/-- A task at rest has ended. -/
theorem Climbs.ended_of_rests {config : ExperimentConfig} (climbs : Climbs config n file)
    (here : s.file? task = some file) (rests : s.Rests task) :
    (file.row.status = .aborted ∧ Reached n file (n + 2) (n + 1)) ∨ file.row.status = .completed := by
  obtain ⟨found, -, events, point, received, -⟩ := file?_eq_some_iff.mp here
  have idle : file.point = .closed := point.trans rests.idle
  cases climbs with
  | deciding k rung reached attemptOver readable busy =>
    rcases busy with opened | ⟨state, built, -⟩
    · rw [idle] at opened
      cases opened
    · rw [idle] at built
      cases built
  | awaiting k rung reached out =>
    refine absurd (fun request last => ?_) out
    have asked := rests.attemptOver request (by
      rw [OrdersService.requestsFor_eq here]
      exact List.mem_of_getLast? last)
    rw [events, received]
    refine asked.imp_left fun ⟨event, heard, about, same⟩ => ⟨event, ?_, same⟩
    exact List.mem_filter.mpr ⟨heard, decide_eq_true about⟩
  | retrying k below status => exact absurd status (rests.dispatched file.row found)
  | aborted status reached => exact .inl ⟨status, reached⟩
  | completed k within status reached => exact .inr status

/-- A task is completed by the success of one of its requests. -/
theorem exists_moment_of_completed (run : (escalationMachine deployment task).Run moments s)
    (here : s.file? task = some file) (completed : file.row.status = .completed) :
    ∃ moment ∈ moments, ∃ k, moment.1.succeeds task k moment.2 := by
  have unborn : ¬∃ file, (escalationMachine deployment task).initial.file? task = some file ∧
      file.row.status = .completed := by
    rintro ⟨file, found, -⟩
    simp [escalationMachine, Machine.restrict, ordersMachine, OrdersService.initial, OrdersService.file?,
      OrdersDb.task?, OrdersDb.empty] at found
  obtain ⟨moment, member, before, offered, t, step, file', found', after⟩ := run.exists_turn
    (P := fun s => ∃ file, s.file? task = some file ∧ file.row.status = .completed) unborn ⟨file, here, completed⟩
  have earlier := (run.reachable_of_mem member).of_restrict
  rcases step_file earlier offered.1 step found' with ⟨request, now, -, -, rfl⟩ | ⟨file, found, moves⟩
  · cases after
  · exact ⟨moment, member, succeeds_of_completed found moves (fun already => before ⟨file, found, already⟩) after⟩

/-- The task was alive when a success arrived. -/
theorem live_of_succeeds {label : OrdersLabel} (succeeds : s.succeeds task k label) : s.live task := by
  cases label with
  | createOrder | build | decide | raise | deadLetter => cases succeeds
  | consume message redelivered draw =>
    cases message with
    | timeoutCheck | dispatchAttempt | reevaluate => cases succeeds
    | inventoryEvent event => exact succeeds.2.1

/-- After the success of its request number `k` a task stays completed, with no request behind that one. -/
theorem completed_of_success (run : (escalationMachine deployment task).Run moments s)
    (here : s.file? task = some file) {moment : OrdersService × OrdersLabel} (member : moment ∈ moments)
    (succeeds : moment.1.succeeds task k moment.2) :
    file.row.status = .completed ∧ file.publications.length = k + 1 := by
  obtain ⟨last, here', stays⟩ := run.of_step_stable
    (P := fun s => ∃ file, s.file? task = some file ∧ file.row.status = .completed ∧
      file.publications.length = k + 1)
    (by
      rintro s label t before ⟨file, found, status, length⟩ offered step
      obtain ⟨file', found', moves⟩ := exists_file_of_step before.of_restrict offered.1 step found
      obtain ⟨same, sent⟩ := moves.of_settled (by rw [status]; rfl)
      refine ⟨file', found', same.trans status, ?_⟩
      rw [← length, TaskFile.publications, sent, TaskFile.publications]) member
    (by
      intro t step
      have offered := run.admissible_of_mem member
      have earlier := (run.reachable_of_mem member).of_restrict
      obtain ⟨other, stored, -⟩ := live_of_succeeds succeeds
      obtain ⟨file, found, -⟩ := file?_of_task? stored
      obtain ⟨file', found', moves⟩ := exists_file_of_step earlier offered.1 step found
      exact ⟨file', found', completed_of_succeeds earlier found offered.1 offered.2 succeeds moves⟩)
  obtain rfl : file = last := Option.some_inj.mp (here.symm.trans here')
  exact stays

/-- A completed task stands where its requests say. -/
theorem Climbs.of_completed {config : ExperimentConfig} (climbs : Climbs config n file)
    (status : file.row.status = .completed) (length : file.publications.length = k + 1) :
    k ≤ n ∧ Reached n file (k + 1) (k + 1) := by
  cases climbs with
  | deciding k rung | awaiting k rung =>
    have alive := rung.alive
    rw [status] at alive
    cases alive
  | retrying _ _ other | aborted other =>
    rw [status] at other
    cases other
  | completed k' within _ reached =>
    obtain rfl : k' = k := by
      rw [reached.publications, List.length_take, length_rungs] at length
      omega
    exact ⟨within, reached⟩

/-- The order of a completed task is completed. -/
theorem order_of_completed (reachable : (ordersMachine deployment).Reachable s) (here : s.file? task = some file)
    (status : file.row.status = .completed) :
    (s.db.order? file.row.orderId).map (·.status) = some .completed := by
  have controlled := reachable_controlled reachable here
  obtain ⟨placed, stored, follows⟩ := controlled.order
  rw [(file?_eq_some_iff.mp here).2.1] at stored
  rw [controlled.orderId.trans (OrdersService.taskId_of_file here)]
  change (s.db.order? task).map (·.status) = _
  rw [stored, Option.map_some, follows.status, status]
  rfl

end Runs

/-- Under the rules a task whose requests all fail executes exactly the ladder of its attempts and publishes
exactly its rungs; a task whose request number `k` succeeds is completed after exactly the requests and decisions
up to that one. -/
theorem rules_escalate {deployment : Deployment} (pattern : isExecutionId deployment.executionId = true)
    {task : TaskId} {moments : List (OrdersService × OrdersLabel)} {s : OrdersService}
    (run : (escalationMachine deployment task).Run moments s) {row : TaskRow}
    (found : s.db.task? task = some row) :
    s.stepsFor task <+: ladder deployment.config.messaging.maxAttempts ∧
      s.publicationsFor task <+: rungs deployment.config.messaging.maxAttempts ∧
      (s.Rests task → (∀ moment ∈ moments, ∀ k, ¬moment.1.succeeds task k moment.2) →
        row.status = .aborted ∧ s.stepsFor task = ladder deployment.config.messaging.maxAttempts ∧
          s.publicationsFor task = rungs deployment.config.messaging.maxAttempts) ∧
      ∀ moment ∈ moments, ∀ k, moment.1.succeeds task k moment.2 →
        k ≤ deployment.config.messaging.maxAttempts ∧ row.status = .completed ∧
          (s.db.order? row.orderId).map (·.status) = some .completed ∧
          s.stepsFor task = (ladder deployment.config.messaging.maxAttempts).take (k + 1) ∧
          s.publicationsFor task = (rungs deployment.config.messaging.maxAttempts).take (k + 1) := by
  have positive := deployment.config.messaging.maxAttempts_pos
  obtain ⟨file, here, rfl, -⟩ := file?_of_task? found
  have climbs := reachable_climbs pattern run.reachable here
  rw [OrdersService.stepsFor_eq here, OrdersService.publicationsFor_eq here]
  refine ⟨climbs.prefixes.1, climbs.prefixes.2, fun rests failed => ?_, fun moment member k succeeds => ?_⟩
  · rcases climbs.ended_of_rests here rests with ⟨status, reached⟩ | completed
    · refine ⟨status, reached.steps.trans ?_, reached.publications.trans ?_⟩
      · exact List.take_of_length_le (length_ladder positive).le
      · exact List.take_of_length_le (length_rungs _).le
    · obtain ⟨moment, member, k, succeeds⟩ := exists_moment_of_completed run here completed
      exact absurd succeeds (failed moment member k)
  · obtain ⟨status, length⟩ := completed_of_success run here member succeeds
    obtain ⟨within, reached⟩ := climbs.of_completed status length
    exact ⟨within, status, order_of_completed run.reachable.of_restrict here status, reached.steps,
      reached.publications⟩

/-- Attempts 1 and 3 of the pilot time out, the reply to attempt 2 and the one to the fallback are transient
failures. -/
def escalated : List OrdersLabel :=
  firstDispatch ++
    [.consume (.timeoutCheck 1 10) false ⟨11, 2002⟩, .build .worker (.calm 2003 2),
      .decide .worker (.proposing .retry (some .inventoryPrimary) .transientRetry) 2 ⟨12, 2004⟩,
      .consume (.dispatchAttempt 1 2) false ⟨13, 2504⟩,
      .consume (.inventoryEvent { firstReply 20 (.failed ⟨1, .primary, .transientError⟩) with
        eventSeq := 5, attemptNumber := 2, decisionId := some 2 }) false ⟨14, 2600⟩,
      .build .worker (.calm 2601 3),
      .decide .worker (.proposing .retry (some .inventoryPrimary) .transientRetry) 3 ⟨15, 2602⟩,
      .consume (.dispatchAttempt 1 3) false ⟨16, 3102⟩, .consume (.timeoutCheck 1 16) false ⟨17, 5102⟩,
      .build .worker (.calm 5103 4),
      .decide .worker (.proposing .fallback (some .inventoryFallback) .primaryExhausted) 4 ⟨18, 5104⟩,
      .consume (.inventoryEvent { firstReply 21 (.failed ⟨1, .fallback, .transientError⟩) with
        eventSeq := 11, attemptNumber := 3, decisionId := some 4, target := some .inventoryFallback }) false
          ⟨19, 5200⟩,
      .build .worker (.calm 5201 5), .decide .worker (.proposing .abort none .fallbackFailed) 5 ⟨22, 5202⟩]

/-- The pilot climbs its whole ladder. -/
theorem rules_escalate_pilot : ∃ moments s row, (escalationMachine .pilot 1).Run moments s ∧
    s.db.task? 1 = some row ∧ s.Rests 1 ∧ row.status = .aborted ∧
    s.stepsFor 1 <+: ladder 3 ∧ s.publicationsFor 1 <+: rungs 3 ∧
      (s.Rests 1 → (∀ moment ∈ moments, ∀ k, ¬moment.1.succeeds 1 k moment.2) →
        row.status = .aborted ∧ s.stepsFor 1 = ladder 3 ∧ s.publicationsFor 1 = rungs 3) ∧
      ∀ moment ∈ moments, ∀ k, moment.1.succeeds 1 k moment.2 →
        k ≤ 3 ∧ row.status = .completed ∧ (s.db.order? row.orderId).map (·.status) = some .completed ∧
          s.stepsFor 1 = (ladder 3).take (k + 1) ∧ s.publicationsFor 1 = (rungs 3).take (k + 1) := by
  obtain ⟨s, run, passes⟩ := Machine.exists_run_of_replay? (m := escalationMachine .pilot 1) escalated
    (p := fun s => (s.db.task? 1).any (·.status = .aborted) && decide (s.Rests 1)) (by decide +kernel)
  rw [Bool.and_eq_true, decide_eq_true_eq] at passes
  obtain ⟨row, found, status⟩ := (Option.any_eq_true _ _).mp passes.1
  exact ⟨_, s, row, run, found, passes.2, of_decide_eq_true status, rules_escalate (by decide) run found⟩

end OrchLab
