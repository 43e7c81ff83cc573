import OrchLab.Soundness.Orders.Control

/-! # The requests of a task

A move asks the inventory at most once, under the position and the attempt number it leaves on the row.
The log holds one row for each request published, in the same order; positions increase, attempts on the
primary route increase, and nothing follows the request to the fallback route. So the position a reply
carries names one request, and the latest one says on which route the task is.
-/

namespace OrchLab

/-! ## Moves that ask and moves that do not -/

/-- The part of a trajectory row, or of an envelope, that identifies a request. -/
structure RequestKey where
  messageId : Option MessageId
  eventSeq : ℕ
  attemptNumber : ℕ
  target : Option Target

def TaskEvent.requestKey (event : TaskEvent) : RequestKey :=
  ⟨event.messageId, event.eventSeq, event.attemptNumber, event.target⟩

def MessageEnvelope.requestKey (request : MessageEnvelope) : RequestKey :=
  ⟨some request.messageId, request.eventSeq, request.attemptNumber, request.target⟩

/-- A move that publishes nothing. -/
structure Quiet (row row' : TaskRow) (columns : List EventColumns) (effects : List Effect) : Prop where
  effects : effects.filterMap Effect.request? = []
  columns : ∀ event ∈ columns, event.eventType = .stockReservationRequested → event.redelivered = true
  target : row'.currentTarget = row.currentTarget
  attempt : row.attemptNumber ≤ row'.attemptNumber
  retrying : row'.status = .retrying → row.status = .retrying ∨ row.attemptNumber < row'.attemptNumber

/-- A move that publishes the request of the attempt it leaves on the row. -/
structure Asks (config : ExperimentConfig) (draw : Draw) (row row' : TaskRow)
    (columns : List EventColumns) (effects : List Effect) : Prop where
  request : ∃ decisionId items route first, row'.currentTarget = some route ∧
    effects = requestEffects config row' decisionId draw items route ∧
    columns = first ++ [requestColumns row' decisionId draw items] ∧
    ∀ event ∈ first, event.eventType = .fallbackScheduled
  attempt : row'.attemptNumber = row.attemptNumber
  eventSeq : row.currentEventSeq < row'.currentEventSeq
  dispatched : row'.status ≠ .retrying
  reason : row.status = .retrying ∧ row'.currentTarget = row.currentTarget ∨
    row.currentTarget = none ∧ row'.currentTarget = some .inventoryPrimary ∨
    row.fallbackUsed = false ∧ row'.currentTarget ≠ some .inventoryPrimary

namespace Move

variable {config : ExperimentConfig} {db : OrdersDb} {draw : Draw} {row row' : TaskRow} {cause : Cause}
  {columns : List EventColumns} {effects : List Effect} {opens : Bool}

theorem eventSeq_le (move : Move config db draw row cause row' columns effects opens) :
    row.currentEventSeq ≤ row'.currentEventSeq := by
  cases move <;> simp [TaskRow.bumpSeq, TaskRow.setLastResult, TaskRow.complete, TaskRow.setStatus,
    TaskRow.dispatchTo, TaskRow.retry, TaskRow.wait, TaskRow.fallBack, Nat.le_succ_of_le]

theorem eventSeq_lt_of_decision {decision : Decision} {decisionId : DecisionId}
    (move : Move config db draw row (.decision decision decisionId) row' columns effects opens) :
    row.currentEventSeq < row'.currentEventSeq := by
  cases move <;> simp only [TaskRow.bumpSeq, TaskRow.setStatus, TaskRow.dispatchTo, TaskRow.retry, TaskRow.wait,
    TaskRow.fallBack] <;> omega

theorem quiet_or_asks (move : Move config db draw row cause row' columns effects opens)
    (permitted : ∀ decision id, cause = .decision decision id → Permits config row decision)
    (replies : ∀ event, cause = .message (.inventoryEvent event) →
      event.eventType ≠ .stockReservationRequested) :
    Quiet row row' columns effects ∨ Asks config draw row row' columns effects := by
  cases move with
  | repeated event | inert event | failed event | completed event =>
    refine .inl ⟨rfl, ?_, rfl, le_rfl, ?_⟩
    · simp [messageColumns, internalColumns, replies event rfl]
    · simp +contextual [TaskRow.bumpSeq, TaskRow.setLastResult, TaskRow.complete]
  | timedOut | waitOver | aborted | deadLettered | deadLetterLogged | waited =>
    refine .inl ⟨rfl, ?_, rfl, le_rfl, ?_⟩
    · simp [internalColumns]
    · simp +contextual [TaskRow.bumpSeq, TaskRow.setLastResult, TaskRow.setStatus, TaskRow.wait]
  | retried =>
    refine .inl ⟨rfl, ?_, rfl, Nat.le_succ _, fun _ => .inr (Nat.lt_succ_self _)⟩
    simp [internalColumns]
  | retryDispatched decisionId items route retrying target =>
    exact .inr ⟨⟨decisionId, items, route, [], target, rfl, rfl, by simp⟩, rfl, Nat.lt_succ_self _, by rintro ⟨⟩,
      .inl ⟨retrying, rfl⟩⟩
  | continued decision decisionId items action status target =>
    exact .inr ⟨⟨decisionId, items, .inventoryPrimary, [], rfl, rfl, rfl, by simp⟩, rfl, Nat.lt_succ_self _,
      by rintro ⟨⟩, .inr (.inl ⟨target, rfl⟩)⟩
  | fellBack decision decisionId items route action target alive unused =>
    obtain ⟨-, toFallback⟩ : row.fallbackUsed = false ∧ decision.target = some .inventoryFallback := by
      simpa only [Permits, action] using permitted decision decisionId rfl
    obtain rfl : route = .inventoryFallback := by simpa [target] using toFallback
    refine .inr ⟨⟨decisionId, items, .inventoryFallback, [internalColumns ((row.fallBack
        (some .inventoryFallback) draw.now).bumpSeq draw.now) .fallbackScheduled
          (some (.fallbackScheduled decisionId)) draw.now], rfl, rfl, rfl, ?_⟩, rfl, ?_, by rintro ⟨⟩,
      .inr (.inr ⟨unused, by rintro ⟨⟩⟩)⟩
    · simp [internalColumns]
    · exact Nat.lt_succ_of_lt (Nat.lt_succ_self _)

end Move

/-! ## The log of requests -/

/-- What is known of the requests published for a task. -/
structure Requested (file : TaskFile) : Prop where
  rows : (file.events.filter TaskEvent.isRequest).map TaskEvent.requestKey =
    file.requests.map MessageEnvelope.requestKey
  increasing : file.requests.Pairwise (·.eventSeq < ·.eventSeq)
  spread : file.requests.Pairwise fun earlier later => earlier.target = some .inventoryPrimary ∧
    (later.target = some .inventoryPrimary → earlier.attemptNumber < later.attemptNumber)
  bounded : ∀ request ∈ file.requests, request.eventSeq ≤ file.row.currentEventSeq ∧
    1 ≤ request.attemptNumber ∧ request.attemptNumber ≤ file.row.attemptNumber
  pending : file.row.status = .retrying →
    ∀ request ∈ file.requests, request.attemptNumber < file.row.attemptNumber
  latest : file.requests.getLast?.map (·.target) = file.row.currentTarget.map some
  payload : ∀ request ∈ file.requests, ∃ items, request.payload = .requested ⟨file.row.orderId, items⟩
  routes : ∀ request route, Effect.publish request route ∈ file.sent → request.target = some route

theorem not_isRequest_of_mem_numbered {n : ℕ} {columns : List EventColumns}
    (quiet : ∀ event ∈ columns, event.eventType = .stockReservationRequested → event.redelivered = true) :
    ∀ row ∈ numbered n columns, ¬row.isRequest = true := by
  intro row member asks
  simp only [TaskEvent.isRequest, Bool.and_eq_true, decide_eq_true_eq, Bool.not_eq_true'] at asks
  simpa [asks.2] using quiet row.toEventColumns (mem_of_mem_numbered member) asks.1

namespace Requested

variable {file : TaskFile} {config : ExperimentConfig} {draw : Draw} {row' : TaskRow}
  {columns : List EventColumns} {effects : List Effect} {n : ℕ} {point : DecisionPoint}
  {received : List MessageEnvelope} {executed : List Execution}

theorem of_quiet (holds : Requested file) (quiet : Quiet file.row row' columns effects)
    (seq : file.row.currentEventSeq ≤ row'.currentEventSeq) (order : row'.orderId = file.row.orderId) :
    Requested (file.after n row' columns point received effects executed) := by
  have same : (file.after n row' columns point received effects executed).requests = file.requests :=
    TaskFile.requests_after_of_quiet quiet.effects
  refine ⟨?_, ?_, ?_, ?_, ?_, ?_, ?_, ?_⟩
  · rw [same, TaskFile.after, List.filter_append,
      List.filter_eq_nil_iff.mpr (not_isRequest_of_mem_numbered quiet.columns), List.append_nil]
    exact holds.rows
  · exact same ▸ holds.increasing
  · exact same ▸ holds.spread
  · rw [same]
    exact fun request member => ⟨(holds.bounded request member).1.trans seq,
      (holds.bounded request member).2.1, (holds.bounded request member).2.2.trans quiet.attempt⟩
  · rw [same]
    intro retrying request member
    rcases quiet.retrying retrying with before | more
    · exact (holds.pending before request member).trans_le quiet.attempt
    · exact (holds.bounded request member).2.2.trans_lt more
  · rw [same]
    exact holds.latest.trans (congrArg (Option.map some) quiet.target.symm)
  · rw [same]
    intro request member
    obtain ⟨items, asked⟩ := holds.payload request member
    exact ⟨items, by rw [asked, ← order]; rfl⟩
  · intro request route member
    rcases List.mem_append.mp member with old | new
    · exact holds.routes request route old
    · have asked : request ∈ effects.filterMap Effect.request? :=
        List.mem_filterMap.mpr ⟨_, new, rfl⟩
      rw [quiet.effects] at asked
      cases asked

/-- Nothing was asked for a task without a route. -/
theorem requests_of_undispatched (holds : Requested file) (undispatched : file.row.currentTarget = none) :
    file.requests = [] := by
  have last := holds.latest
  rw [undispatched, Option.map_none, Option.map_eq_none_iff] at last
  exact List.getLast?_eq_none_iff.mp last

/-- What was asked before a move that asks was asked on the primary route. -/
private theorem primary_of_asks (holds : Requested file)
    (unused : file.row.fallbackUsed = decide (file.row.currentTarget = some .inventoryFallback))
    (route : file.row.status = .retrying → file.row.currentTarget = some .inventoryPrimary)
    (asks : Asks config draw file.row row' columns effects) :
    ∀ request ∈ file.requests, request.target = some .inventoryPrimary ∧
      (row'.currentTarget = some .inventoryPrimary → request.attemptNumber < row'.attemptNumber) := by
  have onPrimary : file.row.currentTarget = some .inventoryPrimary →
      ∀ request ∈ file.requests, request.target = some .inventoryPrimary := by
    intro primary request member
    have last := holds.latest
    rw [primary] at last
    obtain ⟨init, final, split⟩ : ∃ init final, file.requests = init ++ [final] :=
      (List.eq_nil_or_concat' file.requests).resolve_left fun none => by
        rw [none] at member
        cases member
    rw [split, List.getLast?_concat, Option.map_some, Option.map_some, Option.some_inj] at last
    have spread := holds.spread
    rw [split, List.pairwise_append] at spread
    rw [split] at member
    rcases List.mem_append.mp member with early | late
    · exact (spread.2.2 request early final (List.mem_singleton_self _)).1
    · obtain rfl := List.mem_singleton.mp late
      exact last
  intro request member
  rcases asks.reason with ⟨retrying, same⟩ | ⟨none, -⟩ | ⟨free, elsewhere⟩
  · refine ⟨onPrimary (route retrying) request member, fun _ => ?_⟩
    rw [asks.attempt]
    exact holds.pending retrying request member
  · rw [holds.requests_of_undispatched none] at member
    cases member
  · refine ⟨?_, fun primary => absurd primary elsewhere⟩
    cases target : file.row.currentTarget with
    | none =>
      rw [holds.requests_of_undispatched target] at member
      cases member
    | some route =>
      cases route with
      | inventoryPrimary => exact onPrimary target request member
      | inventoryFallback =>
        rw [free, target] at unused
        simp at unused

theorem of_asks (holds : Requested file)
    (unused : file.row.fallbackUsed = decide (file.row.currentTarget = some .inventoryFallback))
    (route : file.row.status = .retrying → file.row.currentTarget = some .inventoryPrimary)
    (attempt : 1 ≤ file.row.attemptNumber)
    (asks : Asks config draw file.row row' columns effects) (order : row'.orderId = file.row.orderId) :
    Requested (file.after n row' columns point received effects executed) := by
  have before := holds.primary_of_asks unused route asks
  obtain ⟨decisionId, items, target, first, targets, rfl, rfl, internal⟩ := asks.request
  have more : (file.after n row' (first ++ [requestColumns row' decisionId draw items]) point received
      (requestEffects config row' decisionId draw items target) executed).requests =
        file.requests ++ [requestOf row' decisionId draw items] := TaskFile.requests_after_of_request
  refine ⟨?_, ?_, ?_, ?_, ?_, ?_, ?_, ?_⟩
  · have row : (numbered (n + first.length) [requestColumns row' decisionId draw items]).filter
        TaskEvent.isRequest = numbered (n + first.length) [requestColumns row' decisionId draw items] := rfl
    rw [more, TaskFile.after, List.filter_append, numbered_append, List.filter_append,
      List.filter_eq_nil_iff.mpr (not_isRequest_of_mem_numbered fun event member type => by
        simp [internal event member] at type), row, List.nil_append, List.map_append, List.map_append, holds.rows]
    rfl
  · rw [more]
    refine List.pairwise_append.mpr ⟨holds.increasing, List.pairwise_singleton .., ?_⟩
    intro earlier member later new
    obtain rfl := List.mem_singleton.mp new
    exact (holds.bounded earlier member).1.trans_lt asks.eventSeq
  · rw [more]
    refine List.pairwise_append.mpr ⟨holds.spread, List.pairwise_singleton .., ?_⟩
    intro earlier member later new
    obtain rfl := List.mem_singleton.mp new
    exact before earlier member
  · rw [more]
    simp only [List.forall_mem_append, List.forall_mem_singleton]
    refine ⟨fun request member => ?_, le_rfl, attempt.trans_eq asks.attempt.symm, le_rfl⟩
    obtain ⟨seq, positive, at_most⟩ := holds.bounded request member
    exact ⟨seq.trans asks.eventSeq.le, positive, at_most.trans_eq asks.attempt.symm⟩
  · exact fun retrying => absurd retrying asks.dispatched
  · rw [more, List.getLast?_concat, Option.map_some, TaskFile.after, targets, Option.map_some, ← targets]
    rfl
  · rw [more]
    simp only [List.forall_mem_append, List.forall_mem_singleton]
    refine ⟨fun request member => ?_, items, rfl⟩
    obtain ⟨items', asked⟩ := holds.payload request member
    exact ⟨items', by rw [asked, ← order]; rfl⟩
  · intro request route member
    rcases List.mem_append.mp member with old | new
    · exact holds.routes request route old
    · simp only [requestEffects, List.mem_cons, Effect.publish.injEq, reduceCtorEq, List.not_mem_nil,
        or_false] at new
      rw [new.1, new.2]
      exact targets

end Requested

/-- A message that is handled is no request. -/
theorem Happens.replies {deployment : Deployment} {s : OrdersService} {row : TaskRow} {opens : Bool}
    {label : OrdersLabel} {draw : Draw} {cause : Cause} {point point' : DecisionPoint}
    {executed : List Execution}
    (happens : Happens deployment s row opens label draw cause point point' executed) :
    ∀ event, cause = .message (.inventoryEvent event) → event.eventType ≠ .stockReservationRequested := by
  rintro event rfl
  cases happens with
  | message _ _ _ promised =>
    obtain ⟨⟨request, -, answers⟩, -⟩ := promised
    exact answers.2.2.2.2.2.2

/-- The requests of every task of a reachable state are in order. -/
theorem reachable_requested {deployment : Deployment} {s : OrdersService}
    (reachable : (ordersMachine deployment).Reachable s) {task : TaskId} {file : TaskFile}
    (found : s.file? task = some file) : Requested file := by
  refine reachable_file ?_ ?_ reachable task file found
  · rintro task _ now n -
    exact ⟨rfl, .nil, .nil, by simp [TaskFile.requests, TaskFile.created],
      by simp [TaskFile.requests, TaskFile.created], rfl, by simp [TaskFile.requests, TaskFile.created],
      by simp [TaskFile.created]⟩
  · intro s label task file file' reachable found holds step
    have controlled := reachable_controlled reachable found
    cases step with
    | same => exact holds
    | closed | built | noted | declined =>
      exact ⟨holds.rows, holds.increasing, holds.spread, holds.bounded, holds.pending, holds.latest,
        holds.payload, holds.routes⟩
    | moved draw cause row' columns effects opens point executed move happens =>
      rcases move.quiet_or_asks happens.permitted happens.replies with quiet | asks
      · exact holds.of_quiet quiet move.eventSeq_le move.keeps.orderId
      · exact holds.of_asks controlled.fallbackUsed controlled.route_of_retrying controlled.attempt_pos asks
          move.keeps.orderId

/-! ## What was published where -/

/-- The request an effect publishes to a route. -/
def Effect.publishedTo? (route : Target) : Effect → Option MessageEnvelope
  | .publish envelope queue => if queue = route then some envelope else none
  | _ => none

namespace OrdersService

/-- The effects of a task, in the order they were sent. -/
def sentFor (s : OrdersService) (task : TaskId) : List Effect := s.sent.filter (·.taskId = task)

def requestsFor (s : OrdersService) (task : TaskId) : List MessageEnvelope :=
  (s.sentFor task).filterMap Effect.request?

def publishedTo (s : OrdersService) (task : TaskId) (route : Target) : List MessageEnvelope :=
  (s.sentFor task).filterMap (Effect.publishedTo? route)

variable {s : OrdersService} {task : TaskId} {file : TaskFile}

theorem requestsFor_eq (found : s.file? task = some file) : s.requestsFor task = file.requests := by
  rw [requestsFor, sentFor, TaskFile.requests, (file?_eq_some_iff.mp found).2.2.2.2.2.1]

/-- A request is published to the route it names. -/
theorem publishedTo_eq (requested : Requested file) (found : s.file? task = some file) (route : Target) :
    s.publishedTo task route = file.requests.filter (·.target = some route) := by
  rw [publishedTo, sentFor, ← (file?_eq_some_iff.mp found).2.2.2.2.2.1, TaskFile.requests,
    List.filter_filterMap]
  refine List.filterMap_congr fun effect member => ?_
  cases effect with
  | publish envelope queue =>
    have target := requested.routes envelope queue member
    by_cases same : queue = route <;> simp [Effect.publishedTo?, Effect.request?, Option.filter, target, same]
  | _ => rfl

end OrdersService

end OrchLab
