import OrchLab.Soundness.Orders.Timeouts

/-! # Failures and timeouts

A failure is classified by the route in the reply, a timeout by the route on the row, and both are
believed only for the latest request. In a reachable state a position names one request of its task and
the latest one is on the route of the row, so both classify by the route the request was sent to.
-/

namespace OrchLab

/-- The result that a failure for a reason stands for when the request was sent to a route. -/
def FailureReason.resultOn : FailureReason → Target → TaskResult
  | .invalidData, _ => .invalidData
  | .transientError, .inventoryPrimary => .transientError
  | .transientError, .inventoryFallback => .fallbackFailed

theorem failureResult_eq (reason : FailureReason) (route : Target) :
    failureResult reason (some route) = reason.resultOn route := by
  cases reason <;> cases route <;> rfl

namespace OrdersService

/-- The task of a request has not ended, and the request is the latest one published for it. -/
def isLatestOfLive (s : OrdersService) (request : MessageEnvelope) : Prop :=
  (∃ row, s.db.task? request.taskId = some row ∧ row.status.terminal = false) ∧
    (s.requestsFor request.taskId).getLast? = some request

/-- A failure that answers a request opens a decision point exactly when the request is the latest of a live
task; it then writes what it stands for on the route of the request, and nothing otherwise. -/
def attributesFailure (s : OrdersService) (request : MessageEnvelope) (route : Target)
    (event : MessageEnvelope) (reason : FailureReason) (redelivered : Bool) (now : Timestamp) : Prop :=
  ∃ row db' outcome row', s.db.task? request.taskId = some row ∧
    s.db.handleInventoryEvent now event redelivered = .ok (db', outcome) ∧
    db'.task? request.taskId = some row' ∧
    (outcome.decisionRequired = true ↔ s.isLatestOfLive request) ∧
    (s.isLatestOfLive request → row'.lastResult = some (reason.resultOn route)) ∧
    (¬s.isLatestOfLive request → row'.lastResult = row.lastResult)

/-- A timeout that is registered for a request writes a failed fallback exactly when it was sent there. -/
def attributesTimeout (s : OrdersService) (request : MessageEnvelope) (route : Target) (now : Timestamp) : Prop :=
  ∀ db', s.db.registerTimeout now request.taskId request.messageId = .ok (db', true) →
    ∃ row', db'.task? request.taskId = some row' ∧
      row'.lastResult = some (if route = .inventoryFallback then .fallbackFailed else .timeout)

end OrdersService

section Attribution

variable {deployment : Deployment} {s : OrdersService} {request : MessageEnvelope} {route : Target}

/-- A request that was published belongs to the file of a task, on its route. -/
theorem exists_file_of_publish (reachable : (ordersMachine deployment).Reachable s)
    (asked : Effect.publish request route ∈ s.sent) : ∃ file, s.file? request.taskId = some file ∧
      request ∈ file.requests ∧ request.target = some route := by
  obtain ⟨known, -⟩ := (reachable_coherent reachable).sent _ asked
  obtain ⟨row, found⟩ := Option.ne_none_iff_exists'.mp known
  obtain ⟨file, here, -⟩ := file?_of_task? found
  have mine : Effect.publish request route ∈ file.sent := by
    rw [(file?_eq_some_iff.mp here).2.2.2.2.2.1, List.mem_filter]
    exact ⟨asked, decide_eq_true rfl⟩
  exact ⟨file, here, List.mem_filterMap.mpr ⟨_, mine, rfl⟩,
    (reachable_requested reachable here).routes request route mine⟩

/-- A new failure that answers a request is recorded, and believed exactly when the request is the latest of
a live task. -/
theorem failure_attributed (reachable : (ordersMachine deployment).Reachable s)
    (asked : Effect.publish request route ∈ s.sent) {event : MessageEnvelope} {payload : ReservationFailedPayload}
    (answers : event.Answers request) (fresh : s.db.isEventProcessed event.messageId = false)
    (failed : event.payload = .failed payload) (redelivered : Bool) (now : Timestamp) :
    s.attributesFailure request route event payload.failureReason redelivered now := by
  obtain ⟨file, found, member, target⟩ := exists_file_of_publish reachable asked
  have here := (file?_eq_some_iff.mp found).1
  have type : event.eventType = .stockReservationFailed := by rw [MessageEnvelope.eventType, failed]; rfl
  have live : s.isLatestOfLive request ↔
      file.row.status.terminal = false ∧ s.db.isCurrent event = true := by
    rw [OrdersService.isLatestOfLive, isCurrent_iff_latest reachable found member answers answers.2.1,
      OrdersService.requestsFor_eq found, here]
    simp
  obtain ⟨recorded, -, handles⟩ := handleInventoryEvent_of_fresh ⟨0, now⟩ redelivered
    (by rw [answers.2.1]; exact here) fresh (by rw [type]; rintro ⟨⟩)
  obtain ⟨⟨db', outcome⟩, success⟩ : ∃ result, s.db.handleInventoryEvent now event redelivered = .ok result := by
    simp only [OrdersDb.applyEvent, failed] at handles
    exact ⟨_, handles⟩
  rcases @handleInventoryEvent_moves deployment.config _ _ ⟨0, now⟩ _ _ _ success with
    ⟨-, -, processed | absent⟩ | ⟨row, row', columns, own, move, commits⟩
  · rw [fresh] at processed
    cases processed
  · rw [answers.2.1, here] at absent
    cases absent
  · have mine : row.taskId = request.taskId := own.trans answers.2.1
    have after := commits.task?_self
    obtain rfl : row = file.row := by
      have known := commits.found
      rw [mine, here] at known
      exact (Option.some_inj.mp known).symm
    rw [mine] at after
    refine ⟨file.row, db', outcome, row', here, success, after, ?_⟩
    rw [live]
    generalize outcome.decisionRequired = opens at move
    cases move with
    | repeated _ _ _ processed =>
      rw [fresh] at processed
      cases processed
    | completed _ _ _ _ _ type' => rw [failed] at type'; cases type'
    | inert _ _ _ _ _ late =>
      have quiet : ¬(file.row.status.terminal = false ∧ s.db.isCurrent event = true) := by
        rintro ⟨alive, current⟩
        simp [alive, current] at late
      exact ⟨iff_of_false (by simp) quiet, fun both => absurd both quiet, fun _ => rfl⟩
    | failed _ payload' _ _ _ type' alive current =>
      obtain rfl : payload' = payload := MessagePayload.failed.inj (type'.symm.trans failed)
      refine ⟨iff_of_true rfl ⟨alive, current⟩, fun _ => ?_, fun late => absurd ⟨alive, current⟩ late⟩
      rw [← failureResult_eq, ← target, ← answers.2.2.2.2.2.1]
      rfl

/-- A timeout that is registered is one of the latest request, on its route. -/
theorem timeout_attributed (reachable : (ordersMachine deployment).Reachable s)
    (asked : Effect.publish request route ∈ s.sent) (now : Timestamp) :
    s.attributesTimeout request route now := by
  intro db' registered
  obtain ⟨file, found, member, target⟩ := exists_file_of_publish reachable asked
  rcases @registerTimeout_moves deployment.config _ _ _ ⟨0, now⟩ _ _ registered with
    ⟨-, silent, -⟩ | ⟨row, row', columns, own, move, commits⟩
  · cases silent
  · have here := commits.found
    have after := commits.task?_self
    rw [own] at here after
    obtain rfl : row = file.row := by
      rw [(file?_eq_some_iff.mp found).1] at here
      exact (Option.some_inj.mp here).symm
    refine ⟨row', after, ?_⟩
    rw [← own] at move
    generalize named : request.messageId = message at move registered
    cases move with
    | timedOut _ alive awaiting unregistered =>
      rw [own, ← named] at awaiting unregistered
      have registers : s.db.registers now request.taskId request.messageId :=
        registers_iff.mpr ⟨⟨file.row, here, alive⟩, awaiting, unregistered⟩
      have asked' : request ∈ s.requestsFor request.taskId := by rwa [OrdersService.requestsFor_eq found]
      obtain ⟨⟨-, latest, -⟩, -⟩ := (registers_iff_applies reachable asked' now).mp registers
      rw [OrdersService.requestsFor_eq found] at latest
      obtain ⟨same, -⟩ := (reachable_requested reachable found).target_of_getLast? latest
      change some (timeoutResult file.row.currentTarget) = _
      rw [same, target, timeoutResult]
      simp only [Option.some_inj]

/-- What is written about a request is what its own route makes of the failure or of the timeout, and a
failure is believed exactly when the request is the latest of a live task. -/
theorem results_attributed (reachable : (ordersMachine deployment).Reachable s)
    (asked : Effect.publish request route ∈ s.sent) (now : Timestamp) :
    (∀ event payload redelivered, event.Answers request → s.db.isEventProcessed event.messageId = false →
      event.payload = .failed payload →
        s.attributesFailure request route event payload.failureReason redelivered now) ∧
      s.attributesTimeout request route now :=
  ⟨fun _ _ redelivered answers fresh failed =>
    failure_attributed reachable asked answers fresh failed redelivered now,
    timeout_attributed reachable asked now⟩

end Attribution

/-- The first request of the pilot. -/
theorem results_attributed_pilot : ∃ s request, (ordersMachine .pilot).Reachable s ∧
    Effect.publish request .inventoryPrimary ∈ s.sent ∧
    (∀ event payload redelivered, event.Answers request → s.db.isEventProcessed event.messageId = false →
      event.payload = .failed payload →
        s.attributesFailure request .inventoryPrimary event payload.failureReason redelivered 100) ∧
    s.attributesTimeout request .inventoryPrimary 100 := by
  obtain ⟨s, reachable, passes⟩ : ∃ s, (ordersMachine .pilot).Reachable s ∧
      (s.sent.any fun effect => (effect.publishedTo? .inventoryPrimary).isSome) = true :=
    Machine.exists_reachable_of_replay? firstDispatch (by decide +kernel)
  obtain ⟨effect, sent, primary⟩ := List.any_eq_true.mp passes
  cases effect with
  | publish request route =>
    rw [Effect.publishedTo?] at primary
    split_ifs at primary with same
    · subst same
      exact ⟨s, request, reachable, sent, results_attributed reachable sent 100⟩
    · cases primary
  | scheduleTimeoutCheck | scheduleDispatch | scheduleReevaluation => cases primary

end OrchLab
