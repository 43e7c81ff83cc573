import OrchLab.Soundness.Orders.Attempts

/-! # Retries and their dispatches

A `RETRY` counts an attempt and schedules a message that dispatches it later. The guard of that message
asks only whether the task is retrying, so a message of an older retry, late or delivered again, dispatches
the attempt of a newer one under its own decision. Along a run every request belongs to the retry that
scheduled it exactly when the messages that find a retrying task are those of its latest retry.
-/

namespace OrchLab

/-- The decision in a `RETRY_SCHEDULED` row and the attempt it counted. -/
def TaskEvent.retry? (event : TaskEvent) : Option (DecisionId × ℕ) :=
  (event.payload.bind EventPayload.retry?).map (·, event.attemptNumber)

/-- The retries of a trajectory, in order. -/
def retriesOf (events : List TaskEvent) : List (DecisionId × ℕ) := events.filterMap TaskEvent.retry?

/-- The decision of the most recent `RETRY_SCHEDULED` row. -/
def latestRetry (events : List TaskEvent) : Option DecisionId :=
  (events.filterMap fun event => event.payload.bind EventPayload.retry?).getLast?

theorem latestRetry_eq (events : List TaskEvent) : latestRetry events = (retriesOf events).getLast?.map (·.1) := by
  have same : (events.filterMap fun event => event.payload.bind EventPayload.retry?) =
      (retriesOf events).map (·.1) := by
    rw [retriesOf, List.map_filterMap]
    congr
    funext event
    change _ = ((event.payload.bind EventPayload.retry?).map (·, event.attemptNumber)).map (·.1)
    cases event.payload.bind EventPayload.retry? <;> rfl
  rw [latestRetry, same, List.getLast?_map]

namespace Move

variable {config : ExperimentConfig} {db : OrdersDb} {draw : Draw} {row row' : TaskRow} {cause : Cause}
  {columns : List EventColumns} {effects : List Effect} {opens : Bool}

/-- Only a decision schedules a retry. -/
theorem retries (move : Move config db draw row cause row' columns effects opens)
    (retrying : row'.status = .retrying) :
    row.status = .retrying ∨ ∃ decision decisionId, cause = .decision decision decisionId := by
  cases move with
  | repeated | inert | failed | timedOut | waitOver | deadLetterLogged => exact .inl retrying
  | retried decision decisionId => exact .inr ⟨decision, decisionId, rfl⟩
  | completed | retryDispatched | continued | waited | fellBack | aborted | deadLettered => cases retrying

theorem retriesOf_numbered (move : Move config db draw row cause row' columns effects opens) (n : ℕ)
    (not : ∀ decision decisionId, cause = .decision decision decisionId → decision.action ≠ .retry) :
    retriesOf (numbered n columns) = [] := by
  cases move with
  | retried decision decisionId action => exact absurd action (not decision decisionId rfl)
  | repeated | inert | failed | completed | timedOut | waitOver | retryDispatched | continued | waited | fellBack
  | aborted | deadLettered | deadLetterLogged =>
    simp [retriesOf, numbered, TaskEvent.retry?, messageColumns, internalColumns, requestColumns,
      EventPayload.retry?, DeadLetter.payload]

end Move

/-! ## The retries of a task -/

/-- The retries of a task were decided for it, count increasing attempts, and name every dispatch scheduled
for it; a request carries a decision of the task. -/
structure Retried (file : TaskFile) : Prop where
  decided : ∀ retry ∈ retriesOf file.events, ∃ execution ∈ file.executed, execution.decisionId = retry.1
  distinct : (retriesOf file.events).Pairwise (·.1 ≠ ·.1)
  increasing : (retriesOf file.events).Pairwise (·.2 < ·.2)
  bounded : ∀ retry ∈ retriesOf file.events, retry.2 ≤ file.row.attemptNumber
  latest : file.row.status = .retrying →
    (retriesOf file.events).getLast?.map (·.2) = some file.row.attemptNumber
  scheduled : ∀ task decisionId delayMs, Effect.scheduleDispatch task decisionId delayMs ∈ file.sent →
    ∃ retry ∈ retriesOf file.events, retry.1 = decisionId
  asked : ∀ request ∈ file.requests, ∃ execution ∈ file.executed,
    request.decisionId = some execution.decisionId

section After

variable {file : TaskFile} {n : ℕ} {row' : TaskRow} {columns : List EventColumns} {point : DecisionPoint}
  {received : List MessageEnvelope} {effects : List Effect} {executed : List Execution}

theorem retriesOf_after : retriesOf (file.after n row' columns point received effects executed).events =
    retriesOf file.events ++ retriesOf (numbered n columns) :=
  List.filterMap_append

end After

namespace Retried

variable {config : ExperimentConfig} {db : OrdersDb} {draw : Draw} {file : TaskFile} {row' : TaskRow}
  {cause : Cause} {columns : List EventColumns} {effects : List Effect} {opens : Bool} {n : ℕ}
  {point : DecisionPoint} {received : List MessageEnvelope} {executed : List Execution}

/-- A retry is determined by its decision, and by its attempt. -/
theorem eq_of_decision (holds : Retried file) {retry other : DecisionId × ℕ}
    (here : retry ∈ retriesOf file.events) (there : other ∈ retriesOf file.events)
    (same : retry.1 = other.1) : retry = other :=
  List.inj_on_of_nodup_map (List.pairwise_map.mpr holds.distinct) here there same

theorem eq_of_attempt (holds : Retried file) {retry other : DecisionId × ℕ}
    (here : retry ∈ retriesOf file.events) (there : other ∈ retriesOf file.events)
    (same : retry.2 = other.2) : retry = other :=
  List.inj_on_of_nodup_map (List.pairwise_map.mpr (holds.increasing.imp Nat.ne_of_lt)) here there same

/-- A move without a retry keeps the retries, and its requests carry decisions of the task. -/
theorem of_no_retry (holds : Retried file) (retries : retriesOf (numbered n columns) = [])
    (attempt : file.row.attemptNumber ≤ row'.attemptNumber)
    (retrying : row'.status = .retrying → file.row.status = .retrying ∧
      row'.attemptNumber = file.row.attemptNumber)
    (scheduled : ∀ task decisionId delayMs, Effect.scheduleDispatch task decisionId delayMs ∉ effects)
    (asked : ∀ request ∈ effects.filterMap Effect.request?, ∃ execution ∈ file.executed ++ executed,
      request.decisionId = some execution.decisionId) :
    Retried (file.after n row' columns point received effects executed) := by
  have same : retriesOf (file.after n row' columns point received effects executed).events =
      retriesOf file.events := by
    rw [retriesOf_after, retries, List.append_nil]
  have sent : ∀ effect ∈ (file.after n row' columns point received effects executed).sent,
      effect ∈ file.sent ∨ effect ∈ effects := fun effect => List.mem_append.mp
  constructor
  · intro retry member
    rw [same] at member
    obtain ⟨execution, here, decided⟩ := holds.decided retry member
    exact ⟨execution, List.mem_append_left _ here, decided⟩
  · rw [same]
    exact holds.distinct
  · rw [same]
    exact holds.increasing
  · intro retry member
    rw [same] at member
    exact (holds.bounded retry member).trans attempt
  · intro current
    obtain ⟨before, counted⟩ := retrying current
    rw [same, holds.latest before]
    exact congrArg some counted.symm
  · intro task decisionId delayMs member
    rw [same]
    exact holds.scheduled task decisionId delayMs ((sent _ member).resolve_right (scheduled _ _ _))
  · intro request member
    rw [TaskFile.requests_after, List.mem_append] at member
    rcases member with old | new
    · obtain ⟨execution, here, decided⟩ := holds.asked request old
      exact ⟨execution, List.mem_append_left _ here, decided⟩
    · exact asked request new

/-- A retry is the newest decision and counts the next attempt. -/
theorem of_retry (holds : Retried file) {execution : Execution} {delayMs : ℕ}
    (undecided : ∀ earlier ∈ file.executed, earlier.decisionId ≠ execution.decisionId)
    (retries : retriesOf (numbered n columns) = [(execution.decisionId, file.row.attemptNumber + 1)])
    (attempt : row'.attemptNumber = file.row.attemptNumber + 1) :
    Retried (file.after n row' columns point received
      [.scheduleDispatch file.row.taskId execution.decisionId delayMs] [execution]) := by
  have added : retriesOf (file.after n row' columns point received
      [.scheduleDispatch file.row.taskId execution.decisionId delayMs] [execution]).events =
        retriesOf file.events ++ [(execution.decisionId, file.row.attemptNumber + 1)] := by
    rw [retriesOf_after, retries]
  constructor
  · intro retry member
    rw [added] at member
    rcases List.mem_append.mp member with old | new
    · obtain ⟨earlier, here, decided⟩ := holds.decided retry old
      exact ⟨earlier, List.mem_append_left _ here, decided⟩
    · obtain rfl := List.mem_singleton.mp new
      exact ⟨execution, List.mem_append_right _ (List.mem_singleton_self _), rfl⟩
  · rw [added, List.pairwise_append]
    refine ⟨holds.distinct, List.pairwise_singleton _ _, fun retry old last new => ?_⟩
    obtain rfl := List.mem_singleton.mp new
    obtain ⟨earlier, here, decided⟩ := holds.decided retry old
    exact decided ▸ undecided earlier here
  · rw [added, List.pairwise_append]
    refine ⟨holds.increasing, List.pairwise_singleton _ _, fun retry old last new => ?_⟩
    obtain rfl := List.mem_singleton.mp new
    exact Nat.lt_succ_of_le (holds.bounded retry old)
  · intro retry member
    rw [added] at member
    change retry.2 ≤ row'.attemptNumber
    rw [attempt]
    rcases List.mem_append.mp member with old | new
    · exact (holds.bounded retry old).trans (Nat.le_succ _)
    · obtain rfl := List.mem_singleton.mp new
      exact le_rfl
  · intro _
    rw [added, List.getLast?_concat]
    exact congrArg some attempt.symm
  · intro task decisionId delay member
    rw [added]
    rcases List.mem_append.mp member with old | new
    · obtain ⟨retry, here, named⟩ := holds.scheduled task decisionId delay old
      exact ⟨retry, List.mem_append_left _ here, named⟩
    · obtain ⟨rfl, rfl, rfl⟩ : task = file.row.taskId ∧ decisionId = execution.decisionId ∧ delay = delayMs := by
        simpa using List.mem_singleton.mp new
      exact ⟨_, List.mem_append_right _ (List.mem_singleton_self _), rfl⟩
  · intro request member
    rw [TaskFile.requests_after, List.mem_append] at member
    obtain ⟨earlier, here, decided⟩ := holds.asked request (member.resolve_right (by simp [Effect.request?]))
    exact ⟨earlier, List.mem_append_left _ here, decided⟩

end Retried

/-- A dispatch that is delivered was scheduled. -/
theorem exists_scheduleDispatch {s : OrdersService} {task : TaskId} {decisionId : DecisionId}
    (promised : s.deliverable (.dispatchAttempt task decisionId)) :
    ∃ delayMs, Effect.scheduleDispatch task decisionId delayMs ∈ s.sent := by
  obtain ⟨effect, sent, is⟩ := List.mem_filterMap.mp promised
  cases effect with
  | scheduleDispatch _ _ delayMs =>
    cases is
    exact ⟨delayMs, sent⟩
  | publish | scheduleTimeoutCheck | scheduleReevaluation => cases is

/-- The retries of every task of a reachable state. -/
theorem reachable_retried {deployment : Deployment} {s : OrdersService}
    (reachable : (ordersMachine deployment).Reachable s) {task : TaskId} {file : TaskFile}
    (found : s.file? task = some file) : Retried file := by
  refine reachable_file (P := Retried) ?_ ?_ reachable task file found
  · intro task itemsJson now n _
    have none : retriesOf (numbered n [OrdersDb.taskCreatedColumns task deployment.executionId now]) = [] := rfl
    constructor <;> simp [none, TaskFile.created, TaskFile.requests, TaskRow.created]
  · intro s label task file file' reachable found holds step
    have own := OrdersService.taskId_of_file found
    cases step with
    | same => exact holds
    | closed | built | noted =>
      exact ⟨holds.decided, holds.distinct, holds.increasing, holds.bounded, holds.latest, holds.scheduled,
        holds.asked⟩
    | declined owner output decisionId draw state decision =>
      refine ⟨fun retry member => ?_, holds.distinct, holds.increasing, holds.bounded, holds.latest,
        holds.scheduled, fun request member => ?_⟩
      · obtain ⟨execution, here, decided⟩ := holds.decided retry member
        exact ⟨execution, List.mem_append_left _ here, decided⟩
      · obtain ⟨execution, here, decided⟩ := holds.asked request member
        exact ⟨execution, List.mem_append_left _ here, decided⟩
    | moved draw cause row' columns effects opens point executed move happens =>
      have retries := move.retriesOf_numbered s.db.taskEvents.rows.length
      generalize before : file.point = openPoint at happens
      cases happens with
      | message message redelivered draw promised =>
        have quiet := retries (by rintro _ _ ⟨⟩)
        cases move with
        | repeated | inert | failed | timedOut | waitOver =>
          exact holds.of_no_retry quiet le_rfl (fun retrying => ⟨retrying, rfl⟩) (by simp) (by simp)
        | completed => exact holds.of_no_retry quiet le_rfl (by rintro ⟨⟩) (by simp) (by simp)
        | retryDispatched decisionId items route retrying =>
          refine holds.of_no_retry quiet le_rfl (by rintro ⟨⟩) (by simp [requestEffects]) ?_
          obtain ⟨delayMs, sent⟩ := exists_scheduleDispatch promised
          have mine : Effect.scheduleDispatch file.row.taskId decisionId delayMs ∈ file.sent := by
            rw [(file?_eq_some_iff.mp found).2.2.2.2.2.1, List.mem_filter]
            exact ⟨sent, decide_eq_true own⟩
          obtain ⟨retry, member, rfl⟩ := holds.scheduled _ _ _ mine
          obtain ⟨execution, here, decided⟩ := holds.decided retry member
          intro request member
          obtain rfl := List.mem_singleton.mp member
          exact ⟨execution, List.mem_append_left _ here, congrArg some decided.symm⟩
      | deadLetter letter now =>
        have quiet := retries (by rintro _ _ ⟨⟩)
        cases move with
        | deadLettered => exact holds.of_no_retry quiet le_rfl (by rintro ⟨⟩) (by simp) (by simp)
        | deadLetterLogged =>
          exact holds.of_no_retry quiet le_rfl (fun retrying => ⟨retrying, rfl⟩) (by simp) (by simp)
      | decision owner output decisionId draw state decision built task describes resolved permits undecided =>
        have carries : ∀ request : MessageEnvelope, request.decisionId = some decisionId →
            ∃ execution ∈ file.executed ++ [Execution.of state decision decisionId],
              request.decisionId = some execution.decisionId :=
          fun request same => ⟨_, List.mem_append_right _ (List.mem_singleton_self _), same⟩
        cases move with
        | retried _ _ action alive dispatched =>
          have newest : ∀ earlier ∈ file.executed,
              earlier.decisionId ≠ (Execution.of state decision decisionId).decisionId := by
            intro earlier member
            rw [(file?_eq_some_iff.mp found).2.2.2.2.2.2] at member
            exact undecided earlier (List.mem_of_mem_filter member)
          exact holds.of_retry newest rfl rfl
        | continued _ _ items action | fellBack _ _ items route action =>
          refine holds.of_no_retry (retries ?_) le_rfl (by rintro ⟨⟩) (by simp [requestEffects]) ?_
          · rintro _ _ ⟨⟩
            simp [action]
          · intro request member
            obtain rfl := List.mem_singleton.mp member
            exact carries _ rfl
        | waited _ _ action | aborted _ _ action =>
          refine holds.of_no_retry (retries ?_) le_rfl (by rintro ⟨⟩) (by simp) (by simp [Effect.request?])
          rintro _ _ ⟨⟩
          simp [action]

/-! ## A scheduled attempt is dispatched -/

section Dispatch

variable {deployment : Deployment} {s : OrdersService}

/-- A task whose retry was decided names a valid execution. -/
theorem executionId_of_retrying (reachable : (ordersMachine deployment).Reachable s) {task : TaskId}
    {file : TaskFile} (found : s.file? task = some file) (retrying : file.row.status = .retrying) :
    isExecutionId file.row.executionId = true := by
  refine reachable_file (P := fun file => file.row.status = .retrying →
    isExecutionId file.row.executionId = true) ?_ ?_ reachable task file found retrying
  · rintro task itemsJson now n - ⟨⟩
  · intro s label task file file' reachable found holds step retrying
    cases step with
    | same | closed | built | noted | declined => exact holds retrying
    | moved draw cause row' columns effects opens point executed move happens =>
      change row'.status = .retrying at retrying
      change isExecutionId row'.executionId = true
      rw [move.keeps.executionId]
      rcases move.retries retrying with before | ⟨decision, decisionId, rfl⟩
      · exact holds before
      · generalize file.point = before at happens
        cases happens with
        | decision owner output _ draw state _ built task describes =>
          have valid := (reachable_coherent reachable).valid owner state built
          rw [← describes.executionId]
          exact state.executionId_of_valid valid

/-- The attempt of a retry that is due is published. -/
theorem handle_of_retrying (reachable : (ordersMachine deployment).Reachable s) {task : TaskId}
    {row : TaskRow} (found : s.db.task? task = some row) (status : row.status = .retrying)
    (decisionId : DecisionId) (redelivered : Bool) (draw : Draw) :
    ∃ db items route, s.db.handle deployment.config (.dispatchAttempt task decisionId) redelivered draw =
      .ok ⟨db, false, requestEffects deployment.config ((row.setStatus .dispatched draw.now).bumpSeq draw.now)
        decisionId draw items route⟩ := by
  obtain ⟨file, here, rfl, order, -⟩ := file?_of_task? found
  have controlled := reachable_controlled reachable here
  have own := OrdersService.taskId_of_file here
  obtain ⟨placed, ordered, follows⟩ := controlled.order
  have dispatched : (s.db.modifyTask task (TaskRow.setStatus .dispatched draw.now)
      (TaskRow.setStatus_taskId .dispatched draw.now)).task? task =
        some (file.row.setStatus .dispatched draw.now) := by
    rw [OrdersDb.task?_modifyTask, if_pos rfl, found, Option.map_some]
  have stored : (s.db.modifyTask task (TaskRow.setStatus .dispatched draw.now)
      (TaskRow.setStatus_taskId .dispatched draw.now)).order?
        (file.row.setStatus .dispatched draw.now).orderId = some placed := by
    change s.db.order? file.row.orderId = some placed
    rw [controlled.orderId, own, ← order, ordered]
  obtain ⟨db, effects, published⟩ := OrdersDb.publishRequest_succeeds deployment.config decisionId draw
    dispatched (controlled.route_of_retrying status) stored follows.items
    (executionId_of_retrying reachable here status) controlled.attempt_pos
  have success : s.db.handle deployment.config (.dispatchAttempt task decisionId) redelivered draw =
      .ok ⟨db, false, effects⟩ := by
    rw [OrdersDb.handle, OrdersDb.dispatchScheduledAttempt, OrdersDb.markRetryDispatched,
      OrdersDb.updateTask?_of_found found, if_pos (by simp [status])]
    simp only [published]
    rfl
  rcases handle_moves success with ⟨-, ignores⟩ | ⟨row, row', columns, about, move, commits⟩
  · exact absurd status (ignores file.row found)
  · obtain rfl : row = file.row := by
      have here := commits.found
      rw [about] at here
      exact Option.some.inj (here.symm.trans found)
    dsimp only at move
    generalize effects = sent at move success
    cases move with
    | retryDispatched _ items route => exact ⟨db, items, route, success⟩

end Dispatch

/-! ## Requests and the retries that cause them -/

/-- A retry causes at most one request, whose attempt is the one this retry, and no other, has counted. -/
def OwnDispatches (retries : List (DecisionId × ℕ)) (requests : List MessageEnvelope) : Prop :=
  ∀ retry ∈ retries, (requests.filter (·.decisionId = some retry.1)).length ≤ 1 ∧
    ∀ request ∈ requests, request.decisionId = some retry.1 →
      ∀ other ∈ retries, other.2 = request.attemptNumber ↔ other.1 = retry.1

instance (retries : List (DecisionId × ℕ)) (requests : List MessageEnvelope) :
    Decidable (OwnDispatches retries requests) := inferInstanceAs (Decidable (∀ retry ∈ retries, _))

namespace OwnDispatches

variable {file : TaskFile} {decisionId : DecisionId} {request : MessageEnvelope}

/-- A request under a decision that was no retry concerns no retry. -/
theorem of_other (holds : OwnDispatches (retriesOf file.events) file.requests)
    (other : ∀ retry ∈ retriesOf file.events, request.decisionId ≠ some retry.1) :
    OwnDispatches (retriesOf file.events) (file.requests ++ [request]) := by
  intro retry member
  obtain ⟨once, own⟩ := holds retry member
  constructor
  · have apart : [request].filter (fun asked => asked.decisionId = some retry.1) = [] := by
      simpa using other retry member
    rw [List.filter_append, apart, List.append_nil]
    exact once
  · intro asked named
    rcases List.mem_append.mp named with old | new
    · exact own asked old
    · obtain rfl := List.mem_singleton.mp new
      exact fun same => absurd same (other retry member)

/-- A retry that was just decided has caused nothing, and counts an attempt that was not sent. -/
theorem of_retry (holds : OwnDispatches (retriesOf file.events) file.requests) (retried : Retried file)
    (requested : Requested file) (undecided : ∀ earlier ∈ file.executed, earlier.decisionId ≠ decisionId) :
    OwnDispatches (retriesOf file.events ++ [(decisionId, file.row.attemptNumber + 1)]) file.requests := by
  have uncaused : ∀ asked ∈ file.requests, asked.decisionId ≠ some decisionId := by
    intro asked named same
    obtain ⟨execution, here, decided⟩ := retried.asked asked named
    exact undecided execution here (Option.some.inj (decided.symm.trans same))
  intro retry member
  rcases List.mem_append.mp member with old | new
  · obtain ⟨once, own⟩ := holds retry old
    refine ⟨once, fun asked named same other among => ?_⟩
    rcases List.mem_append.mp among with old' | new'
    · exact own asked named same other old'
    · obtain rfl := List.mem_singleton.mp new'
      obtain ⟨execution, here, decided⟩ := retried.decided retry old
      have sent := (requested.bounded asked named).2.2
      refine iff_of_false ?_ ?_
      · intro counted
        dsimp only at counted
        omega
      · intro named
        exact undecided execution here (decided.trans named.symm)
  · obtain rfl := List.mem_singleton.mp new
    refine ⟨?_, fun asked named same => absurd same (uncaused asked named)⟩
    have none : file.requests.filter (fun asked => asked.decisionId = some decisionId) = [] :=
      List.filter_eq_nil_iff.mpr fun asked named => by simpa using uncaused asked named
    rw [none]
    exact Nat.zero_le _

/-- The latest retry of a retrying task names the attempt on the row. -/
theorem latest_iff (retried : Retried file) (retrying : file.row.status = .retrying)
    (latest : latestRetry file.events = some decisionId) {retry : DecisionId × ℕ}
    (member : retry ∈ retriesOf file.events) :
    retry.2 = file.row.attemptNumber ↔ retry.1 = decisionId := by
  rw [latestRetry_eq, Option.map_eq_some_iff] at latest
  obtain ⟨last, is, rfl⟩ := latest
  have among := List.mem_of_getLast? is
  have counted : last.2 = file.row.attemptNumber := by
    have same := retried.latest retrying
    rw [is] at same
    exact Option.some.inj same
  constructor
  · intro same
    rw [retried.eq_of_attempt member among (same.trans counted.symm)]
  · intro same
    rw [retried.eq_of_decision member among same, counted]

/-- The dispatch of the latest retry is its only request. -/
theorem of_latest (holds : OwnDispatches (retriesOf file.events) file.requests) (retried : Retried file)
    (requested : Requested file) (retrying : file.row.status = .retrying)
    (latest : latestRetry file.events = some decisionId) (carries : request.decisionId = some decisionId)
    (attempt : request.attemptNumber = file.row.attemptNumber) :
    OwnDispatches (retriesOf file.events) (file.requests ++ [request]) := by
  intro retry member
  obtain ⟨once, own⟩ := holds retry member
  have here := @latest_iff file decisionId retried retrying latest
  constructor
  · rw [List.filter_append]
    by_cases same : retry.1 = decisionId
    · have none : file.requests.filter (fun asked => asked.decisionId = some retry.1) = [] := by
        refine List.filter_eq_nil_iff.mpr fun asked named => ?_
        rw [decide_eq_true_eq]
        intro under
        have sent := (own asked named under retry member).mpr rfl
        have before := requested.pending retrying asked named
        rw [← sent, (here member).mpr same] at before
        exact lt_irrefl _ before
      rw [none, List.nil_append]
      exact List.length_filter_le _ _
    · have apart : [request].filter (fun asked => asked.decisionId = some retry.1) = [] := by
        simpa [carries] using Ne.symm same
      rw [apart, List.append_nil]
      exact once
  · intro asked named
    rcases List.mem_append.mp named with old | new
    · exact own asked old
    · obtain rfl := List.mem_singleton.mp new
      intro under other among
      rw [carries, Option.some_inj] at under
      rw [attempt, ← under]
      exact here among

end OwnDispatches

namespace OrdersService

/-- The retries of a task, in order, with the attempts they counted. -/
def retries (s : OrdersService) (task : TaskId) : List (DecisionId × ℕ) := retriesOf (s.db.trajectory task)

/-- Every request of the state belongs to the retry it names. -/
def ownDispatches (s : OrdersService) : Prop := ∀ task, OwnDispatches (s.retries task) (s.requestsFor task)

/-- What the dispatch of a scheduled attempt publishes carries its decision and the attempt this decision
has counted. -/
def dispatchesOwn (deployment : Deployment) (s : OrdersService) : OrdersLabel → Prop
  | .consume (.dispatchAttempt task decisionId) redelivered draw => ∀ handled,
      s.db.handle deployment.config (.dispatchAttempt task decisionId) redelivered draw = .ok handled →
        ∀ request ∈ handled.effects.filterMap Effect.request?, request.taskId = task ∧
          request.decisionId = some decisionId ∧ (decisionId, request.attemptNumber) ∈ s.retries task
  | _ => True

/-- A dispatch that finds its task retrying is the one its latest retry scheduled. -/
def dispatchesInTurn (s : OrdersService) : OrdersLabel → Prop
  | .consume (.dispatchAttempt task decisionId) _ _ => ∀ row, s.db.task? task = some row →
      row.status = .retrying → latestRetry (s.db.trajectory task) = some decisionId
  | _ => True

end OrdersService

section Run

variable {deployment : Deployment} {s t : OrdersService} {label : OrdersLabel}

theorem OrdersService.retries_eq {task : TaskId} {file : TaskFile} (found : s.file? task = some file) :
    s.retries task = retriesOf file.events := by
  rw [retries, (file?_eq_some_iff.mp found).2.2.1]

/-- A state keeps its requests with their retries exactly when the files of its tasks do. -/
theorem ownDispatches_iff (reachable : (ordersMachine deployment).Reachable s) : s.ownDispatches ↔
    ∀ task file, s.file? task = some file → OwnDispatches (retriesOf file.events) file.requests := by
  constructor
  · intro holds task file found
    rw [← OrdersService.retries_eq found, ← OrdersService.requestsFor_eq found]
    exact holds task
  · intro holds task
    cases found : s.file? task with
    | some file =>
      rw [OrdersService.retries_eq found, OrdersService.requestsFor_eq found]
      exact holds task file found
    | none =>
      rw [OrdersService.file?, Option.map_eq_none_iff] at found
      rw [OrdersService.retries, (reachable_ledger reachable).trajectory_of_absent found]
      intro retry member
      cases member

/-- A dispatch in turn publishes under its own decision the attempt this decision has counted. -/
theorem dispatchesOwn_of_inTurn (reachable : (ordersMachine deployment).Reachable s)
    (condition : s.dispatchesInTurn label) : s.dispatchesOwn deployment label := by
  cases label with
  | createOrder | build | decide | raise | deadLetter => trivial
  | consume message redelivered draw =>
    cases message with
    | inventoryEvent | timeoutCheck | reevaluate => trivial
    | dispatchAttempt task decisionId =>
      intro handled success request member
      rcases handle_moves success with ⟨rfl, -⟩ | ⟨row, row', columns, own, move, commits⟩
      · cases member
      · have found := commits.found
        rw [own] at found
        change s.db.task? task = some row at found
        obtain ⟨file, here, rfl, -, -⟩ := file?_of_task? found
        have latest := condition file.row found
        obtain ⟨db, opens, effects⟩ := handled
        dsimp only at move member
        generalize dispatched : OrdersMessage.dispatchAttempt task decisionId = message at move
        cases move with
        | repeated | inert | failed | completed | timedOut | waitOver => cases dispatched
        | retryDispatched _ items route retrying =>
          cases dispatched
          obtain rfl := List.mem_singleton.mp member
          refine ⟨rfl, rfl, ?_⟩
          have retried := reachable_retried reachable here
          specialize latest retrying
          rw [← (file?_eq_some_iff.mp here).2.2.1, latestRetry_eq, Option.map_eq_some_iff] at latest
          obtain ⟨retry, last, rfl⟩ := latest
          have counted := retried.latest retrying
          rw [last, Option.map_some, Option.some_inj] at counted
          rw [OrdersService.retries_eq here]
          have attempt : (requestOf ((file.row.setStatus .dispatched draw.now).bumpSeq draw.now) retry.1 draw
              items).attemptNumber = retry.2 := counted.symm
          rw [attempt]
          exact List.mem_of_getLast? last

/-- A dispatch after which every request is still its retry's is that of the latest retry. -/
private theorem inTurn_of_published (reachable : (ordersMachine deployment).Reachable s) {decisionId : DecisionId}
    {redelivered : Bool} {draw : Draw} {task : TaskId} {file file' : TaskFile} (here : s.file? task = some file)
    (moves : FileStep deployment s (.consume (.dispatchAttempt task decisionId) redelivered draw) file file')
    (retrying : file.row.status = .retrying) (later : OwnDispatches (retriesOf file'.events) file'.requests)
    {delayMs : ℕ} (sent : Effect.scheduleDispatch task decisionId delayMs ∈ s.sent) :
    latestRetry (s.db.trajectory task) = some decisionId := by
  have found := (file?_eq_some_iff.mp here).1
  have retried := reachable_retried reachable here
  have own := OrdersService.taskId_of_file here
  obtain ⟨db, items, route, success⟩ := handle_of_retrying reachable found retrying decisionId redelivered draw
  have published : OwnDispatches (retriesOf file.events) (file.requests ++
      [requestOf ((file.row.setStatus .dispatched draw.now).bumpSeq draw.now) decisionId draw items]) := by
    rcases moves.of_consume with ⟨-, spares⟩ | ⟨_, other, -⟩ |
      ⟨row', columns, effects, opens, move, -, -, ⟨db', same⟩, rfl⟩
    · rcases spares own.symm with ignores | ⟨error, raises⟩
      · exact absurd retrying (ignores file.row found)
      · rw [success] at raises
        cases raises
    · cases other
    · rw [success] at same
      cases same
      have kept := move.retriesOf_numbered s.db.taskEvents.rows.length (by rintro _ _ ⟨⟩)
      rw [retriesOf_after, kept, List.append_nil, TaskFile.requests_after] at later
      exact later
  have mine : Effect.scheduleDispatch task decisionId delayMs ∈ file.sent := by
    rw [(file?_eq_some_iff.mp here).2.2.2.2.2.1, List.mem_filter]
    exact ⟨sent, decide_eq_true rfl⟩
  obtain ⟨retry, member, rfl⟩ := retried.scheduled task decisionId delayMs mine
  obtain ⟨last, is, counted⟩ := Option.map_eq_some_iff.mp (retried.latest retrying)
  have belongs := ((published retry member).2 _ (List.mem_append_right _ (List.mem_singleton_self _)) rfl
    last (List.mem_of_getLast? is)).mp counted
  rw [← (file?_eq_some_iff.mp here).2.2.1, latestRetry_eq, is, Option.map_some, belongs]

/-- A decision keeps every request with its retry: the one it schedules is new, and so is its request. -/
private theorem ownDispatches_of_decision (reachable : (ordersMachine deployment).Reachable s) {task : TaskId}
    {file : TaskFile} (here : s.file? task = some file)
    (before : OwnDispatches (retriesOf file.events) file.requests) {draw : Draw} {decision : Decision}
    {decisionId : DecisionId} {row' : TaskRow} {columns : List EventColumns} {effects : List Effect} {opens : Bool}
    (move : Move deployment.config s.db draw file.row (.decision decision decisionId) row' columns effects opens)
    (undecided : ∀ earlier ∈ s.executed, earlier.decisionId ≠ decisionId) (n : ℕ) :
    OwnDispatches (retriesOf file.events ++ retriesOf (numbered n columns))
      (file.requests ++ effects.filterMap Effect.request?) := by
  have requested := reachable_requested reachable here
  have retried := reachable_retried reachable here
  have quiet := move.retriesOf_numbered n
  have newest : ∀ earlier ∈ file.executed, earlier.decisionId ≠ decisionId := by
    intro earlier member
    rw [(file?_eq_some_iff.mp here).2.2.2.2.2.2] at member
    exact undecided earlier (List.mem_of_mem_filter member)
  have apart : ∀ retry ∈ retriesOf file.events, decisionId ≠ retry.1 := by
    intro retry member named
    obtain ⟨execution, decided, is⟩ := retried.decided retry member
    exact newest execution decided (is.trans named.symm)
  cases move with
  | retried _ _ action alive dispatched =>
    have silent : [Effect.scheduleDispatch file.row.taskId decisionId
        deployment.config.messaging.retryDelayMs].filterMap Effect.request? = [] := rfl
    rw [silent, List.append_nil]
    exact before.of_retry retried requested newest
  | continued _ _ items action | fellBack _ _ items route action =>
    rw [quiet (by rintro _ _ ⟨⟩; simp [action]), List.append_nil]
    exact before.of_other fun retry member named => apart retry member (Option.some_inj.mp named)
  | waited _ _ action =>
    have silent : [Effect.scheduleReevaluation file.row.taskId (file.row.waitCount + 1)
        deployment.config.messaging.waitDelayMs].filterMap Effect.request? = [] := rfl
    rw [quiet (by rintro _ _ ⟨⟩; simp [action]), List.append_nil, silent, List.append_nil]
    exact before
  | aborted _ _ action =>
    rw [quiet (by rintro _ _ ⟨⟩; simp [action]), List.append_nil, List.filterMap_nil, List.append_nil]
    exact before

/-- A change of a file keeps its requests with their retries when the attempt it dispatches is in turn. -/
private theorem ownDispatches_of_moves (reachable : (ordersMachine deployment).Reachable s)
    (condition : s.dispatchesInTurn label) {task : TaskId} {file file' : TaskFile} (here : s.file? task = some file)
    (before : OwnDispatches (retriesOf file.events) file.requests)
    (moves : FileStep deployment s label file file') :
    OwnDispatches (retriesOf file'.events) file'.requests := by
  cases moves with
  | same | closed | built | noted | declined => exact before
  | moved draw cause row' columns effects opens point executed move happens =>
    rw [retriesOf_after, TaskFile.requests_after]
    have quiet := move.retriesOf_numbered s.db.taskEvents.rows.length
    generalize file.point = openPoint at happens
    cases happens with
    | message message redelivered draw promised =>
      rw [quiet (by rintro _ _ ⟨⟩), List.append_nil]
      cases move with
      | repeated | inert | failed | completed | timedOut | waitOver =>
        rw [List.filterMap_nil, List.append_nil]
        exact before
      | retryDispatched decisionId items route retrying =>
        have own := OrdersService.taskId_of_file here
        have found := (file?_eq_some_iff.mp here).1
        have latest : latestRetry file.events = some decisionId := by
          rw [(file?_eq_some_iff.mp here).2.2.1, ← own]
          exact condition file.row (by rw [own]; exact found) retrying
        exact before.of_latest (reachable_retried reachable here) (reachable_requested reachable here) retrying
          latest rfl rfl
    | deadLetter letter now =>
      rw [quiet (by rintro _ _ ⟨⟩), List.append_nil]
      cases move with
      | deadLettered | deadLetterLogged =>
        rw [List.filterMap_nil, List.append_nil]
        exact before
    | decision owner output decisionId draw state decision built same describes resolved permits undecided =>
      exact ownDispatches_of_decision reachable here before move undecided _

/-- A step keeps every request with its retry exactly when the attempt it dispatches, if any, is in turn. -/
theorem ownDispatches_step_iff (reachable : (ordersMachine deployment).Reachable s) (holds : s.ownDispatches)
    (offered : (ordersMachine deployment).admissible s label)
    (step : (ordersMachine deployment).step s label = some t) :
    t.ownDispatches ↔ s.dispatchesInTurn label := by
  rw [ownDispatches_iff (reachable.snoc offered step)]
  rw [ownDispatches_iff reachable] at holds
  constructor
  · intro later
    cases label with
    | createOrder | build | decide | raise | deadLetter => trivial
    | consume message redelivered draw =>
      cases message with
      | inventoryEvent | timeoutCheck | reevaluate => trivial
      | dispatchAttempt task decisionId =>
        intro row found retrying
        obtain ⟨file, here, rfl, -, -⟩ := file?_of_task? found
        obtain ⟨file', here', moves⟩ := exists_file_of_step reachable offered step here
        obtain ⟨delayMs, sent⟩ := exists_scheduleDispatch offered.1
        exact inTurn_of_published reachable here moves retrying (later task file' here') sent
  · intro condition task file' here'
    rcases step_file reachable offered step here' with ⟨request, now, -, -, rfl⟩ | ⟨file, here, moves⟩
    · intro retry member
      cases member
    · exact ownDispatches_of_moves reachable condition here (holds task file here) moves

/-- Along a run each request belongs to the retry whose dispatch published it exactly when every message
that dispatches an attempt is the one that the latest retry of its task has scheduled. -/
theorem run_ownDispatches_iff {moments : List (OrdersService × OrdersLabel)}
    (run : (ordersMachine deployment).Run moments s) :
    (s.ownDispatches ∧ ∀ moment ∈ moments, moment.1.ownDispatches ∧
        moment.1.dispatchesOwn deployment moment.2) ↔
      ∀ moment ∈ moments, moment.1.dispatchesInTurn moment.2 := by
  have states := run.forall_states_iff (P := OrdersService.ownDispatches)
    (C := OrdersService.dispatchesInTurn) (by
      intro task retry member
      cases member) fun s label t reachable holds offered step =>
    ownDispatches_step_iff reachable holds offered step
  rw [← states]
  constructor
  · rintro ⟨last, before⟩
    exact ⟨last, fun moment member => (before moment member).1⟩
  · intro holds
    refine ⟨holds.1, fun moment member => ⟨holds.2 moment member, ?_⟩⟩
    exact dispatchesOwn_of_inTurn (run.reachable_of_mem member) (states.mp holds moment member)

end Run

/-- The dispatch that the first of two retries scheduled is delivered once the second has been decided. -/
def dispatchedTwice : List OrdersLabel :=
  retriedTwice ++ [.consume (.dispatchAttempt 1 2) false ⟨15, 4100⟩]

/-- Attempt 3, which decision 3 has counted, is requested under decision 2. -/
theorem not_ownDispatches : ¬∀ (deployment : Deployment) (s : OrdersService),
    (ordersMachine deployment).Reachable s → s.ownDispatches := by
  intro claim
  obtain ⟨s, reachable, passes⟩ : ∃ s, (ordersMachine .pilot).Reachable s ∧
      (!decide (OwnDispatches (s.retries 1) (s.requestsFor 1))) = true :=
    Machine.exists_reachable_of_replay? dispatchedTwice (by decide +kernel)
  rw [Bool.not_eq_true', decide_eq_false_iff_not] at passes
  exact passes (claim _ s reachable 1)

/-- The equivalence along the run that dispatches attempt 3 under decision 2. -/
theorem run_ownDispatches_iff_pilot : ∃ moments s, (ordersMachine .pilot).Run moments s ∧
    (s.db.task? 1).map (·.attemptNumber) = some 3 ∧
    ((s.ownDispatches ∧ ∀ moment ∈ moments, moment.1.ownDispatches ∧
        moment.1.dispatchesOwn Deployment.pilot moment.2) ↔
      ∀ moment ∈ moments, moment.1.dispatchesInTurn moment.2) := by
  obtain ⟨s, run, passes⟩ := Machine.exists_run_of_replay? (m := ordersMachine .pilot)
    dispatchedTwice (p := fun s => (s.db.task? 1).map (·.attemptNumber) = some 3) (by decide +kernel)
  exact ⟨_, s, run, of_decide_eq_true passes, run_ownDispatches_iff run⟩

end OrchLab
