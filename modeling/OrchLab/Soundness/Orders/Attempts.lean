import OrchLab.Soundness.Orders.Bounds

/-! # Attempts and their requests

`RETRY` counts an attempt when it executes and dispatches it later. In between the previous request is still the
current one, so a late reply may end the task or open a decision point, and a dead letter may end it too; the attempt
is then counted and never dispatched. The attempts and the primary requests agree along a run exactly when nothing but
its dispatch takes a task out of `RETRYING`.
-/

namespace OrchLab

/-- The primary requests of a task carry 1, 2, 3, ..., up to the attempt on the row, or to the one before it
while a retry is scheduled; every attempt that a `RETRY` has counted was dispatched, or is the one scheduled. -/
def TaskRow.NumbersAttempts (row : TaskRow) (attempts : List ℕ) : Prop :=
  attempts = List.range' 1 attempts.length ∧
    (row.status = .dispatched → row.currentTarget = some .inventoryPrimary →
      attempts.length = row.attemptNumber) ∧
    (row.status = .retrying → attempts.length = row.attemptNumber - 1) ∧
    ∀ attempt ≤ row.attemptNumber, 2 ≤ attempt →
      attempt ∈ attempts ∨ row.status = .retrying ∧ attempt = row.attemptNumber

instance (row : TaskRow) (attempts : List ℕ) : Decidable (row.NumbersAttempts attempts) :=
  inferInstanceAs (Decidable (_ ∧ _ ∧ _ ∧ _))

namespace OrdersService

/-- The attempts of the requests published to the primary route, in order. -/
def primaryAttempts (s : OrdersService) (task : TaskId) : List ℕ :=
  (s.publishedTo task .inventoryPrimary).map (·.attemptNumber)

/-- No task of the state has skipped an attempt. -/
def noPhantomAttempts (s : OrdersService) : Prop :=
  ∀ task row, s.db.task? task = some row → row.NumbersAttempts (s.primaryAttempts task)

/-- The step executes a decision on the task, handles its first success, or handles a dead letter of it. -/
def strands (deployment : Deployment) (s : OrdersService) (task : TaskId) : OrdersLabel → Prop
  | .decide owner output _ _ => ∃ state decision, s.points owner = .built state ∧ state.taskId = task ∧
      deployment.validator.decision? state output = some decision
  | .consume (.inventoryEvent event) _ _ => event.taskId = task ∧
      event.eventType = .stockReservationSucceeded ∧ s.db.isEventProcessed event.messageId = false
  | .deadLetter letter _ => letter.taskId = some task
  | _ => False

/-- The step leaves every attempt that is scheduled to its dispatch. -/
def retriesUndisturbed (deployment : Deployment) (s : OrdersService) (label : OrdersLabel) : Prop :=
  ∀ task row, s.db.task? task = some row → row.status = .retrying → ¬s.strands deployment task label

end OrdersService

/-- The attempts of the requests published to the primary route, in order. -/
def TaskFile.primaryAttempts (file : TaskFile) : List ℕ :=
  (file.requests.filter (·.target = some .inventoryPrimary)).map (·.attemptNumber)

theorem OrdersService.primaryAttempts_eq {s : OrdersService} {task : TaskId} {file : TaskFile}
    (requested : Requested file) (found : s.file? task = some file) :
    s.primaryAttempts task = file.primaryAttempts := by
  rw [primaryAttempts, publishedTo_eq requested found, TaskFile.primaryAttempts]

namespace Requested

variable {file : TaskFile}

/-- A task on the primary route has a request there. -/
theorem one_mem_of_primary (holds : Requested file)
    (numbered : file.primaryAttempts = List.range' 1 file.primaryAttempts.length)
    (primary : file.row.currentTarget = some .inventoryPrimary) : 1 ∈ file.primaryAttempts := by
  have latest := holds.latest
  rw [primary, Option.map_some] at latest
  obtain ⟨request, last, target⟩ := Option.map_eq_some_iff.mp latest
  have asked : request.attemptNumber ∈ file.primaryAttempts :=
    List.mem_map_of_mem (List.mem_filter.mpr ⟨List.mem_of_getLast? last, decide_eq_true target⟩)
  rw [numbered, List.mem_range'_1]
  have positive := List.length_pos_of_mem asked
  omega

/-- When the attempt on the row was dispatched and none was skipped, the row counts the requests. -/
theorem length_of_mem (holds : Requested file)
    (numbered : file.primaryAttempts = List.range' 1 file.primaryAttempts.length)
    (dispatched : file.row.attemptNumber ∈ file.primaryAttempts) :
    file.primaryAttempts.length = file.row.attemptNumber := by
  have at_most : file.primaryAttempts.length ≤ file.row.attemptNumber := by
    rw [TaskFile.primaryAttempts, List.length_map]
    exact holds.length_primary_le
  rw [numbered, List.mem_range'_1] at dispatched
  omega

end Requested

/-- The cause executes a decision, is the first success, or is a dead letter. -/
def Cause.Strands (db : OrdersDb) : Cause → Prop
  | .decision _ _ | .deadLetter _ => True
  | .message (.inventoryEvent event) =>
      event.eventType = .stockReservationSucceeded ∧ db.isEventProcessed event.messageId = false
  | .message _ => False

section After

variable {config : ExperimentConfig} {db : OrdersDb} {draw : Draw} {file : TaskFile} {row' : TaskRow}
  {cause : Cause} {columns : List EventColumns} {effects : List Effect} {opens : Bool} {n : ℕ}
  {point : DecisionPoint} {received : List MessageEnvelope} {executed : List Execution}

private theorem primaryAttempts_of_quiet (quiet : effects.filterMap Effect.request? = []) :
    (file.after n row' columns point received effects executed).primaryAttempts = file.primaryAttempts := by
  rw [TaskFile.primaryAttempts, TaskFile.requests_after_of_quiet quiet]
  rfl

private theorem primaryAttempts_of_request (decisionId : DecisionId) (items : List OrderItem)
    (route : Target) :
    (file.after n row' columns point received (requestEffects config row' decisionId draw items route)
      executed).primaryAttempts = file.primaryAttempts ++
        if row'.currentTarget = some .inventoryPrimary then [row'.attemptNumber] else [] := by
  rw [TaskFile.primaryAttempts, TaskFile.requests_after_of_request, List.filter_append, List.map_append]
  by_cases primary : row'.currentTarget = some .inventoryPrimary
  · rw [if_pos primary, List.filter_singleton]
    simp [requestOf, primary, TaskFile.primaryAttempts, TaskFile.requests]
  · rw [if_neg primary, List.filter_singleton]
    simp [requestOf, primary, TaskFile.primaryAttempts, TaskFile.requests]

/-- A move that does not strand a scheduled attempt keeps the attempts numbered. -/
private theorem numbersAttempts_move (holds : file.row.NumbersAttempts file.primaryAttempts)
    (requested : Requested file)
    (undispatched : file.row.currentTarget = none → file.row.attemptNumber = 1 ∧ file.requests = [])
    (primary : file.row.status = .retrying → file.row.currentTarget = some .inventoryPrimary)
    (attempt : 1 ≤ file.row.attemptNumber)
    (move : Move config db draw file.row cause row' columns effects opens)
    (undisturbed : file.row.status = .retrying → ¬cause.Strands db)
    (permitted : ∀ decision id, cause = .decision decision id → Permits config file.row decision) :
    row'.NumbersAttempts (file.after n row' columns point received effects executed).primaryAttempts := by
  obtain ⟨numbered, whenDispatched, whenRetrying, counted⟩ := holds
  -- A cause that would strand a scheduled attempt finds none, so every counted attempt was dispatched.
  have settled : cause.Strands db → ∀ attempt ≤ file.row.attemptNumber, 2 ≤ attempt →
      attempt ∈ file.primaryAttempts := fun strands attempt bounded consumed =>
    (counted attempt bounded consumed).resolve_right fun scheduled => undisturbed scheduled.1 strands
  cases move with
  | repeated | inert | failed | timedOut | waitOver | deadLetterLogged =>
    rw [primaryAttempts_of_quiet rfl]
    exact ⟨numbered, whenDispatched, whenRetrying, counted⟩
  | completed event payload redelivered task fresh type =>
    rw [primaryAttempts_of_quiet rfl]
    have first : Cause.Strands db (.message (.inventoryEvent event)) :=
      ⟨by rw [MessageEnvelope.eventType, type]; rfl, fresh⟩
    exact ⟨numbered, by rintro ⟨⟩, by rintro ⟨⟩, fun attempt bounded consumed =>
      .inl (settled first attempt bounded consumed)⟩
  | waited | aborted | deadLettered =>
    rw [primaryAttempts_of_quiet rfl]
    exact ⟨numbered, by rintro ⟨⟩, by rintro ⟨⟩, fun attempt bounded consumed =>
      .inl (settled trivial attempt bounded consumed)⟩
  | retried decision decisionId action =>
    obtain ⟨route, -⟩ : file.row.currentTarget = some .inventoryPrimary ∧
        file.row.attemptNumber < config.messaging.maxAttempts := by
      simpa only [Permits, action] using permitted decision decisionId rfl
    have dispatched : file.row.attemptNumber ∈ file.primaryAttempts := by
      rcases attempt.eq_or_lt with first | later
      · exact first ▸ requested.one_mem_of_primary numbered route
      · exact settled trivial _ le_rfl later
    rw [primaryAttempts_of_quiet rfl]
    refine ⟨numbered, by rintro ⟨⟩, fun _ => requested.length_of_mem numbered dispatched,
      fun attempt bounded consumed => ?_⟩
    change attempt ≤ file.row.attemptNumber + 1 at bounded
    rcases bounded.eq_or_lt with scheduled | earlier
    · exact .inr ⟨rfl, scheduled⟩
    · exact .inl (settled trivial attempt (Nat.lt_succ_iff.mp earlier) consumed)
  | retryDispatched decisionId items route retrying =>
    have length := whenRetrying retrying
    rw [primaryAttempts_of_request]
    change TaskRow.NumbersAttempts _ (file.primaryAttempts ++
      if file.row.currentTarget = some .inventoryPrimary then [file.row.attemptNumber] else [])
    rw [if_pos (primary retrying)]
    refine ⟨?_, fun _ _ => ?_, by rintro ⟨⟩, fun attempt bounded consumed => .inl ?_⟩
    · rw [List.length_append, List.length_singleton, List.range'_concat, ← numbered, length]
      congr
      omega
    · rw [List.length_append, List.length_singleton, length]
      exact Nat.sub_add_cancel attempt
    · rw [List.mem_append, List.mem_singleton]
      exact (counted attempt bounded consumed).imp_right And.right
  | continued decision decisionId items action status target =>
    obtain ⟨first, none⟩ := undispatched target
    have nothing : file.primaryAttempts = [] := by rw [TaskFile.primaryAttempts, none]; rfl
    rw [primaryAttempts_of_request, nothing]
    change TaskRow.NumbersAttempts _ [file.row.attemptNumber]
    rw [first]
    refine ⟨rfl, fun _ _ => first.symm, by rintro ⟨⟩, fun attempt bounded consumed => ?_⟩
    change attempt ≤ file.row.attemptNumber at bounded
    omega
  | fellBack decision decisionId items route action target =>
    obtain ⟨-, toFallback⟩ : file.row.fallbackUsed = false ∧ decision.target = some .inventoryFallback := by
      simpa only [Permits, action] using permitted decision decisionId rfl
    obtain rfl : route = .inventoryFallback := by simpa [target] using toFallback
    rw [primaryAttempts_of_request, if_neg (by rintro ⟨⟩), List.append_nil]
    exact ⟨numbered, by rintro ⟨⟩, by rintro ⟨⟩, fun attempt bounded consumed =>
      .inl (settled trivial attempt bounded consumed)⟩

/-- A move that strands a scheduled attempt has counted it and will not dispatch it. -/
private theorem not_numbersAttempts_move (holds : file.row.NumbersAttempts file.primaryAttempts)
    (requested : Requested file) (retrying : file.row.status = .retrying)
    (primary : file.row.currentTarget = some .inventoryPrimary)
    (move : Move config db draw file.row cause row' columns effects opens) (strands : cause.Strands db)
    (permitted : ∀ decision id, cause = .decision decision id → Permits config file.row decision) :
    ¬row'.NumbersAttempts (file.after n row' columns point received effects executed).primaryAttempts := by
  obtain ⟨numbered, -, whenRetrying, -⟩ := holds
  have first := List.length_pos_of_mem (requested.one_mem_of_primary numbered primary)
  have length := whenRetrying retrying
  suffices stranded : (file.after n row' columns point received effects executed).primaryAttempts =
        file.primaryAttempts ∧ file.row.attemptNumber ≤ row'.attemptNumber ∧
        (row'.status = .retrying → file.row.attemptNumber ≠ row'.attemptNumber) by
    rintro ⟨-, -, -, counted⟩
    rcases counted file.row.attemptNumber stranded.2.1 (by omega) with dispatched | ⟨still, same⟩
    · rw [stranded.1, numbered, List.mem_range'_1] at dispatched
      omega
    · exact stranded.2.2 still same
  cases move with
  | repeated event eventSeq task processed => exact absurd (strands.2.symm.trans processed) (by decide)
  | inert event redelivered task fresh type late =>
    rcases late with settled | ⟨failed, -⟩
    · simp [retrying, TaskStatus.terminal] at settled
    · cases strands.1.symm.trans failed
  | failed event payload redelivered task fresh type =>
    have succeeded := strands.1
    rw [MessageEnvelope.eventType, type] at succeeded
    cases succeeded
  | timedOut | waitOver | retryDispatched => exact strands.elim
  | continued _ _ _ _ _ target => simp [primary] at target
  | deadLetterLogged _ _ settled => simp [retrying, TaskStatus.terminal] at settled
  | completed | waited | aborted | deadLettered =>
    exact ⟨primaryAttempts_of_quiet rfl, le_rfl, by rintro ⟨⟩⟩
  | retried => exact ⟨primaryAttempts_of_quiet rfl, Nat.le_succ _, fun _ => (Nat.lt_succ_self _).ne⟩
  | fellBack decision decisionId items route action target =>
    obtain ⟨-, toFallback⟩ : file.row.fallbackUsed = false ∧ decision.target = some .inventoryFallback := by
      simpa only [Permits, action] using permitted decision decisionId rfl
    obtain rfl : route = .inventoryFallback := by simpa [target] using toFallback
    refine ⟨?_, le_rfl, by rintro ⟨⟩⟩
    rw [primaryAttempts_of_request, if_neg (by rintro ⟨⟩), List.append_nil]

end After

/-- The step that moves a task strands it exactly if the cause of the move does. -/
private theorem strands_iff_of_happens {deployment : Deployment} {s : OrdersService} {row row' : TaskRow}
    {label : OrdersLabel} {draw : Draw} {cause : Cause} {before point : DecisionPoint} {executed : List Execution}
    {columns : List EventColumns} {effects : List Effect} {opens : Bool}
    (happens : Happens deployment s row opens label draw cause before point executed)
    (move : Move deployment.config s.db draw row cause row' columns effects opens) :
    s.strands deployment row.taskId label ↔ cause.Strands s.db := by
  cases happens with
  | message message =>
    cases message with
    | inventoryEvent event => exact and_iff_right move.message_taskId
    | timeoutCheck | dispatchAttempt | reevaluate => exact Iff.rfl
  | decision owner output decisionId draw state decision built task describes resolved =>
    exact iff_of_true ⟨state, decision, built, task, resolved⟩ trivial
  | deadLetter letter now =>
    refine iff_of_true ?_ trivial
    cases move with
    | deadLettered _ task | deadLetterLogged _ task => exact task

/-- A step that leaves a file with a scheduled attempt alone does not strand it. -/
private theorem not_strands_of_spares {deployment : Deployment} {s : OrdersService} {file : TaskFile}
    {label : OrdersLabel} (found : s.db.task? file.row.taskId = some file.row)
    (spares : label.Spares deployment s file.row.taskId) : ¬s.strands deployment file.row.taskId label := by
  intro strands
  cases label with
  | createOrder | build | raise => exact strands
  | decide owner output decisionId draw =>
    obtain ⟨state, decision, built, own, -⟩ := strands
    exact spares (by rw [built, DecisionPoint.task?, own])
  | deadLetter letter now => exact spares strands
  | consume message redelivered draw =>
    cases message with
    | timeoutCheck | dispatchAttempt | reevaluate => exact strands
    | inventoryEvent event =>
      obtain ⟨own, succeeded, fresh⟩ := strands
      rcases spares own with (processed | absent) | ⟨error, raises⟩
      · exact absurd (fresh.symm.trans processed) (by decide)
      · rw [own, found] at absent
        cases absent
      · obtain ⟨payload, type⟩ : ∃ payload, event.payload = .succeeded payload := by
          rw [MessageEnvelope.eventType] at succeeded
          cases type : event.payload with
          | succeeded payload => exact ⟨payload, rfl⟩
          | requested | failed => simp [type, MessagePayload.eventType] at succeeded
        obtain ⟨result, handled⟩ :=
          exists_handled_of_success (own.symm ▸ found) fresh type draw redelivered
        simp [OrdersDb.handle, handled, Except.map] at raises

/-- A step of a file keeps its attempts numbered exactly when it does not strand one that is scheduled. -/
private theorem numbersAttempts_fileStep_iff {deployment : Deployment} {s : OrdersService} {label : OrdersLabel}
    {task : TaskId} {file file' : TaskFile} (reachable : (ordersMachine deployment).Reachable s)
    (here : s.file? task = some file) (before : file.row.NumbersAttempts file.primaryAttempts)
    (moves : FileStep deployment s label file file') :
    file'.row.NumbersAttempts file'.primaryAttempts ↔
      (file.row.status = .retrying → ¬s.strands deployment file.row.taskId label) := by
  have requested := reachable_requested reachable here
  have controlled := reachable_controlled reachable here
  have found : s.db.task? file.row.taskId = some file.row := by
    rw [OrdersService.taskId_of_file here]
    exact (file?_eq_some_iff.mp here).1
  cases moves with
  | same spares => exact iff_of_true before fun _ => not_strands_of_spares found spares
  | closed busy owner abandons =>
    refine iff_of_true before fun _ strands => ?_
    cases label with
    | createOrder | consume | deadLetter => exact abandons
    | build | raise => exact strands
    | decide owner' output decisionId draw =>
      obtain ⟨rfl, state, built, raises⟩ := abandons
      obtain ⟨other, decision, built', -, resolved⟩ := strands
      obtain rfl := DecisionPoint.built.inj (built.symm.trans built')
      cases raises.symm.trans resolved
  | built state opened describes valid owner seen labels =>
    subst labels
    exact iff_of_true before fun _ => id
  | noted event redelivered draw labels own promised processed =>
    subst labels
    exact iff_of_true before fun _ strands => absurd (strands.2.2.symm.trans processed) (by decide)
  | declined owner output decisionId draw state decision labels built seen valid resolved approved refused =>
    refine iff_of_true before fun retrying => ?_
    have alive : file.row.status.terminal = false := by rw [retrying]; rfl
    obtain ⟨error, raised⟩ := refused.resolve_right (by simp [alive])
    exact absurd raised (not_declined reachable here alive (seen.resolve_left (by simp [alive])) valid approved error)
  | moved draw cause row' columns effects opens point executed move happens =>
    rw [strands_iff_of_happens happens move]
    constructor
    · intro later retrying strands
      exact not_numbersAttempts_move before requested retrying (controlled.route_of_retrying retrying) move strands
        happens.permitted later
    · intro undisturbed
      exact numbersAttempts_move before requested (fun none => ⟨controlled.undispatched none,
        requested.requests_of_undispatched none⟩) controlled.route_of_retrying controlled.attempt_pos move
        undisturbed happens.permitted

/-- A step keeps every task free of phantom attempts exactly when it leaves the scheduled ones to their dispatch. -/
theorem noPhantomAttempts_step_iff {deployment : Deployment} {s t : OrdersService} {label : OrdersLabel}
    (reachable : (ordersMachine deployment).Reachable s) (holds : s.noPhantomAttempts)
    (offered : (ordersMachine deployment).admissible s label)
    (step : (ordersMachine deployment).step s label = some t) :
    t.noPhantomAttempts ↔ s.retriesUndisturbed deployment label := by
  have after := reachable.snoc offered step
  have numbered : ∀ {task file}, s.file? task = some file → file.row.NumbersAttempts file.primaryAttempts := by
    intro task file here
    rw [← OrdersService.primaryAttempts_eq (reachable_requested reachable here) here]
    exact holds task file.row (file?_eq_some_iff.mp here).1
  constructor
  · intro later task row found
    obtain ⟨file, here, rfl, -, -⟩ := file?_of_task? found
    obtain ⟨file', here', moves⟩ := exists_file_of_step reachable offered step here
    have own := OrdersService.taskId_of_file here
    rw [← own]
    apply (numbersAttempts_fileStep_iff reachable here (numbered here) moves).mp
    rw [← OrdersService.primaryAttempts_eq (reachable_requested after here') here']
    exact later task file'.row (file?_eq_some_iff.mp here').1
  · intro undisturbed task row found
    obtain ⟨file', here', rfl, -, -⟩ := file?_of_task? found
    rw [OrdersService.primaryAttempts_eq (reachable_requested after here') here']
    rcases step_file reachable offered step here' with ⟨request, now, -, -, rfl⟩ | ⟨file, here, moves⟩
    · refine ⟨rfl, by rintro ⟨⟩, by rintro ⟨⟩, fun attempt bounded consumed => ?_⟩
      change attempt ≤ 1 at bounded
      omega
    · refine (numbersAttempts_fileStep_iff reachable here (numbered here) moves).mpr ?_
      rw [OrdersService.taskId_of_file here]
      exact undisturbed task file.row (file?_eq_some_iff.mp here).1

/-- Attempts and requests agree in every state of a run exactly when every step of it leaves the attempts that are
scheduled to their dispatch. -/
theorem run_noPhantomAttempts_iff {deployment : Deployment} {moments : List (OrdersService × OrdersLabel)}
    {s : OrdersService} (run : (ordersMachine deployment).Run moments s) :
    (s.noPhantomAttempts ∧ ∀ moment ∈ moments, moment.1.noPhantomAttempts) ↔
      ∀ moment ∈ moments, moment.1.retriesUndisturbed deployment moment.2 := by
  refine run.forall_states_iff ?_ fun s label t reachable holds offered step =>
    noPhantomAttempts_step_iff reachable holds offered step
  intro task row found
  simp [ordersMachine, OrdersService.initial, OrdersDb.task?, OrdersDb.empty] at found

/-- The first attempt times out and is retried; before the dispatch its late failure arrives, and the
decision it opens retries again. -/
def retriedTwice : List OrdersLabel :=
  firstDispatch ++
    [.consume (.timeoutCheck 1 10) false ⟨11, 2002⟩, .build .worker (.calm 2003 2),
      .decide .worker (.proposing .retry (some .inventoryPrimary) .transientRetry) 2 ⟨12, 2004⟩,
      .consume (.inventoryEvent (firstReply 20 (.failed ⟨1, .primary, .transientError⟩))) false ⟨13, 2100⟩,
      .build .worker (.calm 2101 3),
      .decide .worker (.proposing .retry (some .inventoryPrimary) .transientRetry) 3 ⟨14, 2102⟩]

/-- Attempt 2 is counted and never dispatched. -/
theorem not_noPhantomAttempts : ¬∀ (deployment : Deployment) (s : OrdersService),
    (ordersMachine deployment).Reachable s → s.noPhantomAttempts := by
  intro claim
  obtain ⟨s, reachable, passes⟩ : ∃ s, (ordersMachine .pilot).Reachable s ∧
      ((s.db.task? 1).any fun row => !decide (row.NumbersAttempts (s.primaryAttempts 1))) = true :=
    Machine.exists_reachable_of_replay? retriedTwice (by decide +kernel)
  obtain ⟨row, found, skips⟩ := (Option.any_eq_true _ _).mp passes
  rw [Bool.not_eq_true', decide_eq_false_iff_not] at skips
  exact skips (claim _ s reachable 1 row found)

/-- The equivalence along the run that retries twice. -/
theorem run_noPhantomAttempts_iff_pilot : ∃ moments s, (ordersMachine .pilot).Run moments s ∧
    (s.db.task? 1).map (·.status) = some .retrying ∧
    ((s.noPhantomAttempts ∧ ∀ moment ∈ moments, moment.1.noPhantomAttempts) ↔
      ∀ moment ∈ moments, moment.1.retriesUndisturbed Deployment.pilot moment.2) := by
  obtain ⟨s, run, passes⟩ := Machine.exists_run_of_replay? (m := ordersMachine .pilot)
    retriedTwice (p := fun s => (s.db.task? 1).map (·.status) = some .retrying) (by decide +kernel)
  exact ⟨_, s, run, of_decide_eq_true passes, run_noPhantomAttempts_iff run⟩

end OrchLab
