import OrchLab.Soundness.Orders.Dispatches
import OrchLab.Soundness.Orders.Recording

/-! # What a decision leaves

A decision is shown the positions of its task up to some point, is recorded, and takes the next position. So each
row a decision leaves, each request and each reply names one recorded decision of its task, taken on a recorded
state that stops right before it; only the request of a retry comes later, when its dispatch is delivered.
-/

namespace OrchLab

/-! ## The traces of a decision -/

/-- What an internal row says of the decision that left it. -/
structure Trace where
  decisionId : DecisionId
  action : Action
  reasonCode : Option String

/-- The trace in the payload of `RETRY_SCHEDULED`, `WAIT_SCHEDULED`, `FALLBACK_SCHEDULED` or `TASK_ABORTED`. -/
def EventPayload.trace? : EventPayload → Option Trace
  | .retryScheduled decisionId _ => some ⟨decisionId, .retry, none⟩
  | .waitScheduled decisionId _ _ => some ⟨decisionId, .wait, none⟩
  | .fallbackScheduled decisionId => some ⟨decisionId, .fallback, none⟩
  | .taskAborted decisionId reasonCode => some ⟨decisionId, .abort, some reasonCode⟩
  | _ => none

def EventColumns.trace? (columns : EventColumns) : Option Trace := columns.payload.bind EventPayload.trace?

/-- The trace a decision leaves. -/
def Trace.of (decision : Decision) (decisionId : DecisionId) : Trace :=
  ⟨decisionId, decision.action, if decision.action = .abort then some decision.reasonCode else none⟩

/-- The traces of rows, in order. -/
def tracesOf (events : List TaskEvent) : List Trace := events.filterMap (·.trace?)

theorem tracesOf_numbered (n : ℕ) (columns : List EventColumns) :
    tracesOf (numbered n columns) = columns.filterMap EventColumns.trace? := by
  induction columns generalizing n with
  | nil => rfl
  | cons first rest ih =>
    simp only [tracesOf, numbered, List.filterMap_cons] at ih ⊢
    rw [ih]

/-- How a request follows from a decision that saw the positions up to `seen`: the first dispatch and the fallback
at once, the dispatch of a retry later. -/
inductive MessageEnvelope.Follows (request : MessageEnvelope) (decision : Decision) (seen : ℕ) : Prop
  | continued (action : decision.action = .continueFlow) (target : request.target = some .inventoryPrimary)
      (eventSeq : request.eventSeq = seen + 1)
  | fellBack (action : decision.action = .fallback) (target : request.target = decision.target)
      (eventSeq : request.eventSeq = seen + 2)
  | retried (action : decision.action = .retry) (eventSeq : seen + 1 < request.eventSeq)

namespace Move

variable {config : ExperimentConfig} {db : OrdersDb} {draw : Draw} {row row' : TaskRow} {cause : Cause}
  {columns : List EventColumns} {effects : List Effect} {opens : Bool}

/-- A move leaves no trace, or one of the decision it executes, at the next position. -/
theorem traces (move : Move config db draw row cause row' columns effects opens) :
    columns.filterMap EventColumns.trace? = [] ∨
      ∃ decision decisionId, cause = .decision decision decisionId ∧
        columns.filterMap EventColumns.trace? = [.of decision decisionId] ∧
        ∀ event ∈ columns, event.trace? ≠ none → event.eventSeq = row.currentEventSeq + 1 := by
  cases move with
  | repeated | inert | failed | completed | timedOut | waitOver | retryDispatched | continued | deadLettered
  | deadLetterLogged => exact .inl rfl
  | retried decision decisionId action | waited decision decisionId action | aborted decision decisionId action =>
    refine .inr ⟨decision, decisionId, rfl, ?_, ?_⟩
    · simp [EventColumns.trace?, EventPayload.trace?, internalColumns, Trace.of, action]
    · simp [internalColumns, TaskRow.bumpSeq, TaskRow.retry, TaskRow.wait, TaskRow.setStatus]
  | fellBack decision decisionId items route action =>
    refine .inr ⟨decision, decisionId, rfl, ?_, ?_⟩
    · simp [EventColumns.trace?, EventPayload.trace?, internalColumns, requestColumns, messageColumns, Trace.of,
        action]
    · simp [EventColumns.trace?, EventPayload.trace?, internalColumns, requestColumns, messageColumns,
        TaskRow.bumpSeq, TaskRow.fallBack]

/-- A request follows from the decision a move executes, or was scheduled by one. -/
theorem request_follows (move : Move config db draw row cause row' columns effects opens)
    {request : MessageEnvelope} (asked : request ∈ effects.filterMap Effect.request?) :
    request.taskId = row.taskId ∧ ∃ decisionId, request.decisionId = some decisionId ∧
      ((∃ decision, cause = .decision decision decisionId ∧ request.Follows decision row.currentEventSeq) ∨
        cause = .message (.dispatchAttempt row.taskId decisionId) ∧
          request.eventSeq = row.currentEventSeq + 1) := by
  cases move with
  | repeated | inert | failed | completed | timedOut | waitOver | retried | waited | aborted | deadLettered
  | deadLetterLogged => simp [Effect.request?] at asked
  | continued decision decisionId items action =>
    obtain rfl : request = _ := by simpa [requestEffects, Effect.request?] using asked
    exact ⟨rfl, decisionId, rfl, .inl ⟨decision, rfl, .continued action rfl rfl⟩⟩
  | fellBack decision decisionId items route action target =>
    obtain rfl : request = _ := by simpa [requestEffects, Effect.request?] using asked
    exact ⟨rfl, decisionId, rfl, .inl ⟨decision, rfl, .fellBack action target.symm rfl⟩⟩
  | retryDispatched decisionId =>
    obtain rfl : request = _ := by simpa [requestEffects, Effect.request?] using asked
    exact ⟨rfl, decisionId, rfl, .inr ⟨rfl, rfl⟩⟩

/-- Only a retry schedules a dispatch, after its delay and under its own decision. -/
theorem dispatch_follows (move : Move config db draw row cause row' columns effects opens) {task : TaskId}
    {decisionId : DecisionId} {delayMs : ℕ} (scheduled : Effect.scheduleDispatch task decisionId delayMs ∈ effects) :
    task = row.taskId ∧ delayMs = config.messaging.retryDelayMs ∧ row'.currentEventSeq = row.currentEventSeq + 1 ∧
      ∃ decision, cause = .decision decision decisionId ∧ decision.action = .retry := by
  cases move with
  | repeated | inert | failed | completed | timedOut | waitOver | waited | aborted | deadLettered | deadLetterLogged
  | continued | fellBack | retryDispatched => simp [requestEffects] at scheduled
  | retried decision decisionId action =>
    obtain ⟨rfl, rfl, rfl⟩ : task = row.taskId ∧ _ ∧ _ := by simpa using scheduled
    exact ⟨rfl, rfl, rfl, decision, rfl, action⟩

end Move

/-! ## Snapshots that stay current -/

/-- A snapshot at a decision point shows every position of its task, unless the task has ended. -/
def OrdersService.Shown (s : OrdersService) : Prop :=
  ∀ owner state, s.points owner = .built state → ∀ row, s.db.task? state.taskId = some row →
    row.status.terminal = true ∨ state.currentEventSeq = row.currentEventSeq

namespace OrdersService.Shown

variable {deployment : Deployment} {s : OrdersService}

private theorem setPoint (shown : s.Shown) (owner : DecisionOwner) (point : DecisionPoint)
    (current : ∀ state, point = .built state → ∀ row, s.db.task? state.taskId = some row →
      row.status.terminal = true ∨ state.currentEventSeq = row.currentEventSeq) :
    (s.setPoint owner point).Shown := by
  intro other state built row known
  rw [setPoint_points] at built
  split_ifs at built with same
  · exact current state built row known
  · exact shown other state built row known

private theorem move (shown : s.Shown) {db : OrdersDb} {cause : Cause} {row row' : TaskRow}
    {columns : List EventColumns} {received : List MessageEnvelope} {sent : List Effect} {executed : List Execution}
    (commits : Commits s.db db row cause row' columns)
    (free : (∀ owner, (s.points owner).task? ≠ some row.taskId) ∨ row'.status.terminal = true) :
    (⟨db, s.points, received, sent, executed⟩ : OrdersService).Shown := by
  intro owner state built row'' known
  rw [commits.task?] at known
  split_ifs at known with same
  · rcases free with free | ended
    · exact absurd (by rw [built, DecisionPoint.task?, same]) (free owner)
    · exact .inl (Option.some.inj known ▸ ended)
  · exact shown owner state built row'' known

theorem of_reachable (reachable : (ordersMachine deployment).Reachable s) : s.Shown := by
  refine Machine.Reachable.invariant ?_ ?_ reachable
  · rintro owner state ⟨⟩
  · intro s label t earlier shown offered step
    have coherent := reachable_coherent earlier
    cases step_cases step with
    | uncreated | unconsumed | unlettered => exact shown
    | created request now db number creates =>
      have kept : OrdersService.Shown { s with db } := by
        intro owner state built row known
        rw [creates.task?] at known
        split_ifs at known with same
        · exact absurd (same ▸ creates.absent) (coherent.known owner _ (by rw [built, DecisionPoint.task?]))
        · exact shown owner state built row known
      exact kept.setPoint _ _ (by simp)
    | consumed message redelivered draw db row row' columns effects opens idle task move commits =>
      obtain ⟨effect, sent, about⟩ := exists_sent_of_deliverable offered.1
      obtain ⟨known, closed⟩ := coherent.sent effect sent
      rw [about] at known closed
      have free : ∀ owner, (s.points owner).task? ≠ some row.taskId := by
        rw [task]
        rintro (_ | named) opened
        · simp [idle, DecisionPoint.task?] at opened
        · obtain rfl := coherent.own named _ opened
          simp [closed, DecisionPoint.task?] at opened
      refine (shown.move commits (.inl free)).setPoint _ _ ?_
      cases opens <;> simp
    | ignored message redelivered draw idle ignores =>
      exact shown.setPoint .worker _ (by simp)
    | built owner seen task state row opened found builds describes valid =>
      obtain ⟨row', latency, known, -, -, same⟩ := OrdersDb.exists_snapshot_of_build builds
      refine shown.setPoint owner _ fun state' here row'' there => .inr ?_
      obtain rfl := DecisionPoint.built.inj here
      rw [same, show (snapshot _ _ _ _ _ _).taskId = row'.taskId from rfl, OrdersDb.taskId_of_task? known, known]
        at there
      rw [same, ← Option.some.inj there]
      rfl
    | unbuilt owner | unresolved owner | raised owner => exact shown.setPoint owner _ (by simp)
    | decided owner output decisionId draw state decision db row row' columns effects built task resolved
        approved move commits =>
      have here : (s.points owner).task? = some row.taskId := by rw [built, DecisionPoint.task?, task]
      have free : ∀ other, ((s.setPoint owner .closed).points other).task? ≠ some row.taskId := by
        intro other
        simp only [setPoint_points]
        split_ifs with same
        · simp [DecisionPoint.task?]
        · exact coherent.alone here same
      exact (shown.setPoint owner .closed (by simp)).move (s := s.setPoint owner .closed) commits
        (.inl free)
    | declined owner output decisionId draw state decision built resolved approved refused =>
      exact shown.setPoint owner _ (by simp)
    | lettered letter now db row row' columns task move commits =>
      exact shown.move commits (.inr move.terminal_of_deadLetter)

end OrdersService.Shown

/-! ## Decisions of a recording service -/

/-- A step decides and records the decision, or is another step of the service under the same records. -/
theorem decision_of_step {deployment : Deployment} {s t : RecordingService} {l : RecordingLabel}
    (step : (recordingMachine deployment).step s l = some t) :
    (∀ record ∈ s.states, record ∈ t.states) ∧
      ((∃ label, (∀ owner output decisionId draw, label ≠ .decide owner output decisionId draw) ∧
          (label = l.label ∨ ∃ owner, label = .raise owner) ∧ s.service.step deployment label = some t.service ∧
          t.decisions = s.decisions) ∨
        ∃ owner output decisionId draw state decision, l.label = .decide owner output decisionId draw ∧
          s.service.points owner = .built state ∧ deployment.validator.decision? state output = some decision ∧
          s.service.step deployment l.label = some t.service ∧ t.decisions = s.decisions.write owner
            (.of deployment.validator state output decision decisionId l.measured)) := by
  refine ⟨?_, ?_⟩
  · cases records_of_step step with
    | built owner seen task state label opened builds here step states =>
      rw [states]
      exact fun record member => Shards.mem_write.mpr (.inl member)
    | decided _ _ _ _ _ _ _ _ _ _ states | silent _ _ _ _ states =>
      rw [states]
      exact fun record member => member
  obtain ⟨label, measured⟩ := l
  cases label with
  | decide owner output decisionId draw =>
    change s.step deployment ⟨.decide owner output decisionId draw, measured⟩ = some t at step
    simp only [RecordingService.step] at step
    cases point : s.service.points owner with
    | closed | opened => simp [point] at step
    | built state =>
      simp only [point, Option.some_inj, RecordingService.decide] at step
      have ended : s.service.step deployment (.raise owner) = some (s.service.setPoint owner .closed) := by
        rw [OrdersService.step, if_neg (by rw [point]; exact DecisionPoint.noConfusion)]
      have raised : { s with service := s.service.setPoint owner .closed } = t →
          ∃ label, (∀ owner output decisionId draw, label ≠ .decide owner output decisionId draw) ∧
            (label = .decide owner output decisionId draw ∨ ∃ owner, label = .raise owner) ∧
            s.service.step deployment label = some t.service ∧ t.decisions = s.decisions := by
        rintro rfl
        exact ⟨.raise owner, by rintro _ _ _ _ ⟨⟩, .inr ⟨owner, rfl⟩, ended, rfl⟩
      cases resolved : deployment.validator.decision? state output with
      | none =>
        simp only [resolved] at step
        exact .inl (raised step)
      | some decision =>
        simp only [resolved] at step
        split_ifs at step with valid
        · subst step
          exact .inr ⟨owner, output, decisionId, draw, state, decision, rfl, point, resolved,
            by simp only [OrdersService.step, point], rfl⟩
        · exact .inl (raised step)
  | createOrder | consume | build | raise | deadLetter =>
    refine .inl ?_
    cases records_of_step step with
    | built owner seen task state label opened builds here step states decisions =>
      exact ⟨_, by rintro _ _ _ _ ⟨⟩, .inl rfl, step, decisions⟩
    | decided owner output decisionId draw state decision label => cases label
    | silent label same building step states decisions =>
      refine ⟨label, ?_, same, step, decisions⟩
      rcases same with rfl | ⟨owner, rfl⟩ <;> rintro _ _ _ _ ⟨⟩

namespace RecordingService

/-- A decision of the engine is recorded, and so is the state of the task it was taken on. -/
def Took (s : RecordingService) (task : TaskId) (decisionId : DecisionId) (decision : Decision) (seen : ℕ) : Prop :=
  ∃ record ∈ s.decisions, record.taskId = task ∧ record.decisionId = decisionId ∧
    record.executedDecision = decision ∧
      ∃ state ∈ s.states, state.stateId = record.stateId ∧ state.taskId = task ∧ state.currentEventSeq = seen

/-- Each row, each request and each scheduled dispatch leads back to the decision that left it; a dispatch is
scheduled after the delay of a retry. -/
structure Leading (s : RecordingService) (config : ExperimentConfig) : Prop where
  rows : ∀ row ∈ s.service.db.taskEvents.rows, ∀ trace, row.trace? = some trace → ∃ decision seen,
    s.Took row.taskId trace.decisionId decision seen ∧ trace = .of decision trace.decisionId ∧
      row.eventSeq = seen + 1
  once : ((tracesOf s.service.db.taskEvents.rows).map (·.decisionId)).Nodup
  requests : ∀ request ∈ s.service.requests, ∃ decisionId decision seen, request.decisionId = some decisionId ∧
    s.Took request.taskId decisionId decision seen ∧ request.Follows decision seen
  dispatches : ∀ task decisionId delayMs, Effect.scheduleDispatch task decisionId delayMs ∈ s.service.sent →
    delayMs = config.messaging.retryDelayMs ∧
      ∃ decision seen, s.Took task decisionId decision seen ∧ decision.action = .retry ∧
        ∀ row, s.service.db.task? task = some row → seen + 1 ≤ row.currentEventSeq

/-- So does each reply, through the request it answers. -/
structure Traced (s : RecordingService) (config : ExperimentConfig) : Prop extends s.Leading config where
  replies : ∀ reply ∈ s.service.received, ∃ decisionId decision seen, reply.decisionId = some decisionId ∧
    s.Took reply.taskId decisionId decision seen ∧ ∃ request ∈ s.service.requests, reply.Answers request ∧
      request.Follows decision seen

variable {deployment : Deployment} {s t : RecordingService}

theorem Took.mono {task : TaskId} {decisionId : DecisionId} {decision : Decision} {seen : ℕ}
    (took : s.Took task decisionId decision seen) (states : ∀ record ∈ s.states, record ∈ t.states)
    (decisions : ∀ record ∈ s.decisions, record ∈ t.decisions) : t.Took task decisionId decision seen := by
  obtain ⟨record, recorded, own, named, is, state, shown, rest⟩ := took
  exact ⟨record, decisions record recorded, own, named, is, state, states state shown, rest⟩

namespace Leading

variable (leading : s.Leading deployment.config) (states : ∀ record ∈ s.states, record ∈ t.states)
  (decisions : ∀ record ∈ s.decisions, record ∈ t.decisions)
include leading states decisions

/-- A step that leaves no trace and sends nothing. -/
theorem still (added : List TaskEvent)
    (rows : t.service.db.taskEvents.rows = s.service.db.taskEvents.rows ++ added) (untraced : tracesOf added = [])
    (sent : t.service.sent = s.service.sent)
    (tasks : ∀ effect ∈ s.service.sent, t.service.db.task? effect.taskId = s.service.db.task? effect.taskId) :
    t.Leading deployment.config where
  rows row member trace left := by
    rw [rows] at member
    rcases List.mem_append.mp member with old | new
    · obtain ⟨decision, seen, took, rest⟩ := leading.rows row old trace left
      exact ⟨decision, seen, took.mono states decisions, rest⟩
    · exact absurd (left.symm.trans (List.filterMap_eq_nil_iff.mp untraced row new)) (Option.some_ne_none _)
  once := by
    rw [rows, tracesOf, List.filterMap_append, ← tracesOf, ← tracesOf, untraced, List.append_nil]
    exact leading.once
  requests request asked := by
    rw [OrdersService.requests, sent] at asked
    obtain ⟨decisionId, decision, seen, named, took, follows⟩ := leading.requests request asked
    exact ⟨decisionId, decision, seen, named, took.mono states decisions, follows⟩
  dispatches task decisionId delayMs scheduled := by
    rw [sent] at scheduled
    obtain ⟨delay, decision, seen, took, action, written⟩ := leading.dispatches task decisionId delayMs scheduled
    exact ⟨delay, decision, seen, took.mono states decisions, action,
      fun row known => written row (tasks _ scheduled ▸ known)⟩

/-- A step that moves a task: what it leaves follows from the decision it executes, or from a retry. -/
theorem move {cause : Cause} {draw : Draw} {row row' : TaskRow} {columns : List EventColumns}
    {effects : List Effect} {opens : Bool}
    (move : Move deployment.config s.service.db draw row cause row' columns effects opens)
    (commits : Commits s.service.db t.service.db row cause row' columns)
    (sent : t.service.sent = s.service.sent ++ effects)
    (taken : ∀ decision decisionId, cause = .decision decision decisionId →
      t.Took row.taskId decisionId decision row.currentEventSeq ∧
        ∀ record ∈ s.decisions, record.decisionId ≠ decisionId)
    (scheduled : ∀ decisionId, cause = .message (.dispatchAttempt row.taskId decisionId) →
      ∃ delayMs, Effect.scheduleDispatch row.taskId decisionId delayMs ∈ s.service.sent) :
    t.Leading deployment.config where
  rows event member trace left := by
    rw [commits.rows] at member
    rcases List.mem_append.mp member with old | new
    · obtain ⟨decision, seen, took, rest⟩ := leading.rows event old trace left
      exact ⟨decision, seen, took.mono states decisions, rest⟩
    · have traced : trace ∈ columns.filterMap EventColumns.trace? :=
        List.mem_filterMap.mpr ⟨_, mem_of_mem_numbered new, left⟩
      rcases move.traces with none | ⟨decision, decisionId, is, one, position⟩
      · rw [none] at traced
        cases traced
      · rw [one, List.mem_singleton] at traced
        obtain rfl := traced
        refine ⟨decision, row.currentEventSeq, ?_, rfl,
          position _ (mem_of_mem_numbered new) (left.symm ▸ Option.some_ne_none _)⟩
        rw [commits.own _ (mem_of_mem_numbered new)]
        exact (taken decision decisionId is).1
  once := by
    rw [commits.rows, tracesOf, List.filterMap_append, ← tracesOf, ← tracesOf, tracesOf_numbered]
    rcases move.traces with none | ⟨decision, decisionId, is, one, -⟩
    · rw [none, List.append_nil]
      exact leading.once
    · rw [one, List.map_append, List.nodup_append]
      refine ⟨leading.once, List.nodup_singleton _, ?_⟩
      intro earlier old here new same
      obtain ⟨trace, traced, rfl⟩ := List.mem_map.mp old
      obtain ⟨event, recorded, left⟩ := List.mem_filterMap.mp traced
      obtain ⟨-, -, ⟨record, kept, -, named, -⟩, -⟩ := leading.rows event recorded trace left
      rw [List.map_singleton, List.mem_singleton] at new
      exact (taken decision decisionId is).2 record kept (named.trans (same.trans new))
  requests request asked := by
    rw [OrdersService.requests, sent, List.filterMap_append] at asked
    rcases List.mem_append.mp asked with old | new
    · obtain ⟨decisionId, decision, seen, named, took, follows⟩ := leading.requests request old
      exact ⟨decisionId, decision, seen, named, took.mono states decisions, follows⟩
    · obtain ⟨own, decisionId, named, ⟨decision, is, follows⟩ | ⟨is, eventSeq⟩⟩ := move.request_follows new
      · exact ⟨decisionId, decision, row.currentEventSeq, named, own ▸ (taken decision decisionId is).1, follows⟩
      · obtain ⟨delayMs, before⟩ := scheduled decisionId is
        obtain ⟨-, decision, seen, took, action, written⟩ := leading.dispatches _ _ _ before
        have later := written row commits.found
        exact ⟨decisionId, decision, seen, named, own ▸ took.mono states decisions, .retried action (by omega)⟩
  dispatches task decisionId delayMs promised := by
    rw [sent] at promised
    rcases List.mem_append.mp promised with old | new
    · obtain ⟨delay, decision, seen, took, action, written⟩ := leading.dispatches task decisionId delayMs old
      refine ⟨delay, decision, seen, took.mono states decisions, action, fun row'' known => ?_⟩
      rw [commits.task?] at known
      split_ifs at known with same
      · obtain rfl := Option.some.inj known
        exact (written row (same ▸ commits.found)).trans move.eventSeq_le
      · exact written row'' known
    · obtain ⟨rfl, delay, next, decision, is, action⟩ := move.dispatch_follows new
      refine ⟨delay, decision, row.currentEventSeq, (taken decision decisionId is).1, action, fun row'' known => ?_⟩
      rw [commits.task?, if_pos rfl] at known
      rw [← Option.some.inj known, next]

end Leading

theorem leading_of_reachable (reachable : (recordingMachine deployment).Reachable s) :
    s.Leading deployment.config := by
  refine Machine.Reachable.invariant (P := fun s => s.Leading deployment.config) ?_ ?_ reachable
  · constructor
    · rintro row ⟨⟩
    · exact List.nodup_nil
    · rintro request ⟨⟩
    · rintro task decisionId delayMs ⟨⟩
  · intro s l t earlier leading offered step
    have reached := reachable_service earlier
    have coherent := reachable_coherent reached
    obtain ⟨states, ⟨label, undecided, same, steps, decisions⟩ |
      ⟨owner, output, decisionId, draw, state, decision, label, built, resolved, steps, decisions⟩⟩ :=
        decision_of_step step
    · have kept : ∀ record ∈ s.decisions, record ∈ t.decisions := fun record member => decisions ▸ member
      have promised : s.service.admissible label := by
        rcases same with rfl | ⟨owner, rfl⟩
        · exact offered.1
        · trivial
      have quiet : ∀ {db : OrdersDb}, t.service.db = db → db.taskEvents.rows = s.service.db.taskEvents.rows →
          (∀ task, db.task? task = s.service.db.task? task) → t.service.sent = s.service.sent →
            t.Leading deployment.config :=
        fun is rows tasks sent => leading.still states kept [] (by rw [is, rows, List.append_nil]) rfl
          sent fun effect _ => by rw [is, tasks]
      generalize after : t.service = service at steps
      cases step_cases steps with
      | uncreated | unconsumed | unlettered => exact quiet (by rw [after]) rfl (fun _ => rfl) (by rw [after])
      | ignored | built | unbuilt | unresolved | raised =>
        exact quiet (by rw [after]; rfl) rfl (fun _ => rfl) (by rw [after]; rfl)
      | created request now db number creates =>
        refine leading.still states kept _ (by rw [after]; exact creates.rows) rfl (by rw [after]; rfl) ?_
        intro effect sent
        rw [after]
        refine (creates.task? _).trans (if_neg fun same => ?_)
        exact (coherent.sent effect sent).1 (same ▸ creates.absent)
      | consumed message redelivered draw db row row' columns effects opens idle task move commits =>
        refine leading.move states kept move (by rw [after]; exact commits) (by rw [after]; rfl) ?_ ?_
        · rintro _ _ ⟨⟩
        · rintro decisionId is
          obtain rfl := Cause.message.inj is
          exact exists_scheduleDispatch promised.1
      | decided | declined => exact absurd rfl (undecided _ _ _ _)
      | lettered letter now db row row' columns task move commits =>
        refine leading.move states kept move (by rw [after]; exact commits)
          (by rw [after, List.append_nil]) ?_ ?_
        · rintro _ _ ⟨⟩
        · rintro _ ⟨⟩
    · have kept : ∀ record ∈ s.decisions, record ∈ t.decisions :=
        fun record member => decisions ▸ Shards.mem_write.mpr (.inl member)
      rw [label] at steps
      have fresh : ∀ record ∈ s.decisions, record.decisionId ≠ decisionId := by
        have promised := offered.2
        rwa [label] at promised
      have taken : t.Took state.taskId decisionId decision state.currentEventSeq :=
        ⟨_, decisions ▸ Shards.mem_write.mpr (.inr rfl), rfl, rfl, rfl, _,
          states _ ((reachable_recording earlier).built owner state built), rfl, rfl, rfl⟩
      generalize after : t.service = service at steps
      have moved : (ordersMachine deployment).step s.service (.decide owner output decisionId draw) = some service :=
        steps
      cases step_cases moved with
      | decided _ _ _ _ state' decision' db row row' columns effects built' task resolved' approved move commits =>
        obtain rfl := DecisionPoint.built.inj (built.symm.trans built')
        obtain rfl := Option.some.inj (resolved.symm.trans resolved')
        refine leading.move states kept move (by rw [after]; exact commits) (by rw [after]; rfl) ?_ ?_
        · rintro _ _ ⟨⟩
          have alive := move.alive_of_decision
          have current := (OrdersService.Shown.of_reachable reached owner state built row
            (task ▸ commits.found)).resolve_left (by rw [alive]; exact Bool.false_ne_true)
          rw [task, ← current]
          exact ⟨taken, fresh⟩
        · rintro _ ⟨⟩
      | unresolved _ _ _ _ state' built' raises =>
        obtain rfl := DecisionPoint.built.inj (built.symm.trans built')
        cases raises.symm.trans resolved
      | declined =>
        exact leading.still states kept [] (by rw [after, List.append_nil]; rfl) rfl (by rw [after]; rfl)
          fun effect _ => by rw [after]; rfl

end RecordingService

/-- In every reachable state, everything decisions have left leads back to their records. -/
theorem decisions_traced {deployment : Deployment} {s : RecordingService}
    (reachable : (recordingMachine deployment).Reachable s) : s.Traced deployment.config := by
  have leading := RecordingService.leading_of_reachable reachable
  refine ⟨leading, fun reply arrived => ?_⟩
  obtain ⟨request, asked, answers⟩ := (reachable_ledger (reachable_service reachable)).answers reply arrived
  obtain ⟨decisionId, decision, seen, named, took, follows⟩ := leading.requests request asked
  refine ⟨decisionId, decision, seen, ?_, ?_, request, asked, answers, follows⟩
  · rw [answers.2.2.2.2.1, named]
  · rwa [answers.2.1]

/-- The first request fails, and the retry it leads to is dispatched. -/
def retriedOnce : List OrdersLabel :=
  firstDispatch ++
    [.consume (.inventoryEvent (firstReply 20 (.failed ⟨1, .primary, .transientError⟩))) false ⟨11, 100⟩,
      .build .worker (.calm 101 2),
      .decide .worker (.proposing .retry (some .inventoryPrimary) .transientRetry) 2 ⟨12, 102⟩,
      .consume (.dispatchAttempt 1 2) false ⟨13, 103⟩]

/-- The two requests lead back to a first dispatch and to a retry, and the row of the retry to the same decision. -/
theorem decisions_traced_pilot : ∃ s, (recordingMachine .pilot).Reachable s ∧
    (tracesOf s.service.db.taskEvents.rows).map (·.decisionId) = [2] ∧
    s.service.requests.map (·.decisionId) = [some 1, some 2] ∧ s.Traced Deployment.pilot.config := by
  obtain ⟨s, reachable, passes⟩ : ∃ s, (recordingMachine .pilot).Reachable s ∧
      decide ((tracesOf s.service.db.taskEvents.rows).map (·.decisionId) = [2] ∧
        s.service.requests.map (·.decisionId) = [some 1, some 2]) = true :=
    Machine.exists_reachable_of_replay? (retriedOnce.map (⟨·, ⟨.rules, 1, none, none, 0⟩⟩)) (by decide +kernel)
  obtain ⟨traces, requests⟩ := of_decide_eq_true passes
  exact ⟨s, reachable, traces, requests, decisions_traced reachable⟩

end OrchLab
