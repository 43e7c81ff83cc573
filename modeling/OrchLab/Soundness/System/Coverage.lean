import OrchLab.Soundness.System.Pending

/-! # No task is lost without a crash

While the orders-service does not die, and the API completes the decision point it opens, a task that has
not ended has something pending. A message leaves its queue only when its guards refuse it, when it moves
the task on to the next thing pending, or when it becomes the dead letter.
-/

namespace OrchLab

/-- A process that does not die. -/
def Ending.survives : Ending → Bool
  | .died _ => false
  | _ => true

/-- What the engine proposes at the decision point of the owner resolves to a decision. -/
def OrdersService.resolves (deployment : Deployment) (s : OrdersService) (owner : DecisionOwner)
    (output : EngineOutput) : Bool :=
  match s.points owner with
  | .built state => (deployment.validator.decision? state output).isSome
  | _ => true

/-- The orders-service does not die, and the API completes the decision point it opens. -/
def System.orderly (deployment : Deployment) (s : System) : SystemLabel → Prop
  | .consume _ _ _ ending | .decide .worker _ _ _ ending | .stop .worker ending => ending.survives = true
  | .build (.api task) seen => (s.service.db.build deployment.config task seen).isOk = true
  | .decide (.api task) output _ _ ending => ending = .done ∧ s.service.resolves deployment (.api task) output = true
  | .stop (.api _) _ => False
  | _ => True

instance (deployment : Deployment) (s : System) : ∀ label, Decidable (s.orderly deployment label)
  | .consume .. => inferInstanceAs (Decidable (_ = _))
  | .decide .worker .. => inferInstanceAs (Decidable (_ = _))
  | .stop .worker _ => inferInstanceAs (Decidable (_ = _))
  | .build (.api _) _ => inferInstanceAs (Decidable (_ = _))
  | .decide (.api _) .. => inferInstanceAs (Decidable (_ ∧ _))
  | .stop (.api _) _ => inferInstanceAs (Decidable False)
  | .build .worker _ => inferInstanceAs (Decidable True)
  | .createOrder .. => inferInstanceAs (Decidable True)
  | .deadLetter .. => inferInstanceAs (Decidable True)
  | .repeatEvent _ => inferInstanceAs (Decidable True)
  | .repeatRequest _ => inferInstanceAs (Decidable True)
  | .reserve .. => inferInstanceAs (Decidable True)
  | .answer .. => inferInstanceAs (Decidable True)

/-- Both services without crashes of the orders-service. -/
def orderlyMachine (deployment : Deployment) (stock : List String) : Machine System SystemLabel :=
  (systemMachine deployment stock).restrict (System.orderly deployment)

instance (deployment : Deployment) (stock : List String) (s : System) (label : SystemLabel) :
    Decidable ((orderlyMachine deployment stock).admissible s label) :=
  inferInstanceAs (Decidable (s.admissible label ∧ s.orderly deployment label))
/-! ## Along a run -/

/-- Every task that has not ended has something pending. -/
def System.Covered (s : System) : Prop :=
  ∀ task file, s.service.file? task = some file → file.row.status.terminal = false → Pending s file

section Step

variable {deployment : Deployment} {s t : System} {label : SystemLabel}

/-- The step of the orders-service changes a file as it does on its own. -/
private theorem step_file_of_system (network : Network s) (alone : (ordersMachine deployment).Reachable s.service)
    (offered : s.admissible label) (step : SystemStep deployment s label t) {own : OrdersLabel}
    (is : label.orders? = some own) {task : TaskId} {file' : TaskFile} (found : t.service.file? task = some file') :
    file'.point ≠ .closed ∨
      ∃ file, s.service.file? task = some file ∧ FileStep deployment s.service own file file' := by
  rcases step.service with ⟨none, -⟩ | ⟨own', is', moved⟩
  · rw [is] at none
    cases none
  · obtain rfl := Option.some.inj (is.symm.trans is')
    rcases step_file alone (network.admissible offered step is) moved found with ⟨request, now, -, -, rfl⟩ | moves
    · exact .inl (by simp [TaskFile.created])
    · exact .inr moves

/-- A step of the broker or the inventory keeps every task covered. -/
private theorem covered_of_untouched (network : Network s) (alone : (ordersMachine deployment).Reachable s.service)
    (covered : s.Covered) (step : SystemStep deployment s label t) (untouched : label.orders? = none) :
    t.Covered := by
  cases step with
  | created | rejected | opened | handled | built | unbuilt | decided | undecided | unresolved | stopped | lettered =>
    cases untouched
  | repeatedEvent message =>
    exact fun task file found alive => (covered task file found alive).same network alone found alive
      (List.Subset.refl _) (List.subset_append_left _ _) (List.Subset.refl _)
  | repeatedRequest request =>
    exact fun task file found alive => (covered task file found alive).same network alone found alive
      (List.Subset.refl _) (List.Subset.refl _) (List.subset_append_left _ _)
  | reserved =>
    exact fun task file found alive => (covered task file found alive).same network alone found alive
      (List.Subset.refl _) (List.Subset.refl _) (List.Subset.refl _)
  | refused request =>
    intro task file found alive
    by_cases own : request.envelope.taskId = file.row.taskId
    · exact .deadLetter _ (List.mem_append_right _ (List.mem_singleton_self _)) (congrArg some own)
    · refine (covered task file found alive).keep network alone found alive (.refl file)
        (fun letter queued _ => List.mem_append_left _ queued) (fun message queued _ _ => queued)
        fun other queued about => .inl ((List.mem_erase_of_ne ?_).mpr queued)
      rintro rfl
      exact own about
  | answered route ending answer answering =>
    intro task file found alive
    rw [System.publish_service] at found
    have letters : s.deadLetters ⊆ (s.publish answer ending).deadLetters := by
      cases ending with
      | done | died => exact List.Subset.refl _
      | raised => exact List.subset_append_left _ _
    have events : s.events ⊆ (s.publish answer ending).events := by
      rw [System.publish_events]
      exact List.subset_append_left _ _
    by_cases own : (∃ count, ending = .raised count) ∧ answer.request.envelope.taskId = file.row.taskId
    · obtain ⟨⟨count, rfl⟩, own⟩ := own
      exact .deadLetter _ (List.mem_append_right _ (List.mem_singleton_self _)) (congrArg some own)
    · refine (covered task file found alive).keep network alone found alive (.refl file)
        (fun letter queued _ => letters queued) (fun message queued _ _ => events queued)
        fun request queued about => ?_
      by_cases same : request = answer.request
      · subst same
        cases ending with
        | raised count => exact absurd ⟨⟨count, rfl⟩, about⟩ own
        | died => exact .inl queued
        | done => exact .inr ⟨answer.reply, List.mem_append_right _ (List.mem_singleton_self _),
            network.answers_of_answering (reachable_ledger alone).requests answering⟩
      · cases ending with
        | done | raised => exact .inl ((List.mem_erase_of_ne same).mpr queued)
        | died => exact .inl queued

/-- A message that opens a decision point sends nothing. -/
private theorem handled_effects_of_opens {message : OrdersMessage} {redelivered : Bool} {draw : Draw}
    {handled : Handled} (success : s.service.db.handle deployment.config message redelivered draw = .ok handled)
    (opens : handled.decisionRequired = true) : handled.effects = [] := by
  rcases handle_moves success with ⟨rfl, -⟩ | ⟨row, row', columns, -, move, -⟩
  · rfl
  · rw [opens] at move
    generalize handled.effects = effects at move
    cases move <;> rfl

/-- A decision of a process that does not die leaves its task pending: its effects are performed, or the
worker's message is a dead letter. -/
private theorem pending_of_decided (network : Network s) (alone : (ordersMachine deployment).Reachable s.service)
    (covered : s.Covered) {owner : DecisionOwner} {output : EngineOutput} {decisionId : DecisionId} {draw : Draw}
    {ending : Ending} (orderly : s.orderly deployment (.decide owner output decisionId draw ending))
    {state : SystemState} {decision : Decision} {db : OrdersDb} {result : ExecutionResult} {effects : List Effect}
    (built : s.service.points owner = .built state)
    (resolved : deployment.validator.decision? state output = some decision)
    (success : s.service.db.execute deployment.config state.taskId decisionId draw decision =
      .ok (db, result, effects))
    {task : TaskId} {file file' : TaskFile} (here : s.service.file? task = some file)
    (moves : FileStep deployment s.service (.decide owner output decisionId draw) file file')
    (same : file'.row.taskId = file.row.taskId) (alive' : file'.row.status.terminal = false) :
    Pending (({ s with service := s.service.decide deployment owner state output decisionId draw }.emit
      (ending.performed effects)).leave owner ending) file' := by
  have performed : ending = .done →
      (∀ message ∈ effects.filterMap Effect.message?,
        message ∈ (({ s with service := s.service.decide deployment owner state output decisionId draw }.emit
          (ending.performed effects)).leave owner ending).events) ∧
      ∀ request ∈ effects.filterMap Effect.routed?,
        request ∈ (({ s with service := s.service.decide deployment owner state output decisionId draw }.emit
          (ending.performed effects)).leave owner ending).requests := by
    rintro rfl
    refine ⟨fun message new => System.events_subset_leave _ owner .done (List.mem_append_right _ new),
      fun request new => ?_⟩
    rw [System.leave_requests]
    exact List.mem_append_right _ new
  refine .of_decide (covered task file here) network alone here built resolved success moves alive' ?_ ?_ ?_ ?_
  · refine List.Subset.trans ?_ (System.deadLetters_subset_leave _ owner ending)
    exact List.Subset.refl _
  · refine List.Subset.trans ?_ (System.events_subset_leave _ owner ending)
    exact List.subset_append_left _ _
  · rw [System.leave_requests]
    exact List.subset_append_left _ _
  · cases owner with
    | api => exact .inr (performed orderly.1)
    | worker =>
      cases ending with
      | done => exact .inr (performed rfl)
      | raised count =>
        refine .inl fun own => .of_interrupted network ?_ (by rfl) count same
        rw [built, DecisionPoint.task?, own]
      | died => cases orderly

/-- A decision that fails touches no task that has not ended. -/
private theorem pending_of_undecided (network : Network s)
    (alone : (ordersMachine deployment).Reachable s.service) (covered : s.Covered) {owner : DecisionOwner}
    {output : EngineOutput} {decisionId : DecisionId} {draw : Draw} {state : SystemState} {decision : Decision}
    {error : OrdersError} (built : s.service.points owner = .built state)
    (resolved : deployment.validator.decision? state output = some decision)
    (failed : s.service.db.execute deployment.config state.taskId decisionId draw decision = .error error)
    {task : TaskId} {file file' : TaskFile} (here : s.service.file? task = some file)
    (moves : FileStep deployment s.service (.decide owner output decisionId draw) file file')
    (alive' : file'.row.status.terminal = false) :
    Pending ({ s with service := s.service.decide deployment owner state output decisionId draw }.leave owner
      (.raised 0)) file' := by
  rcases moves.of_decide with ⟨rfl, -⟩ | ⟨⟨state', built', raises⟩, -⟩ |
    ⟨state', decision', built', valid, resolved', seen, approved, -, rfl⟩ |
    ⟨-, -, row', columns, effects, -, -, -, -, ⟨state', decision', db, result, built', resolved', success⟩, -⟩
  · exact (covered task file' here alive').leave network alone here alive' _ _ rfl rfl rfl
  · obtain rfl := DecisionPoint.built.inj (built.symm.trans built')
    cases resolved.symm.trans raises
  · obtain rfl := DecisionPoint.built.inj (built.symm.trans built')
    obtain rfl := Option.some.inj (resolved.symm.trans resolved')
    have describes := seen.resolve_left (by simpa using alive')
    rw [describes.task] at failed
    exact absurd failed (not_declined alone here (by simpa using alive') describes valid approved error)
  · obtain rfl := DecisionPoint.built.inj (built.symm.trans built')
    obtain rfl := Option.some.inj (resolved.symm.trans resolved')
    rw [success] at failed
    cases failed

/-- A step of the orders-service that does not die keeps every task covered. -/
private theorem covered_step (network : Network s) (alone : (ordersMachine deployment).Reachable s.service)
    (covered : s.Covered) (offered : s.admissible label) (orderly : s.orderly deployment label)
    (step : SystemStep deployment s label t) : t.Covered := by
  have of_file := @step_file_of_system deployment s t label network alone offered step
  have untouched := @covered_of_untouched deployment s t label network alone covered
  intro task file' found alive'
  cases step with
  | repeatedEvent message present =>
    exact untouched (.repeatedEvent message present) rfl task file' found alive'
  | repeatedRequest request present =>
    exact untouched (.repeatedRequest request present) rfl task file' found alive'
  | refused request draw injected error present idle failed =>
    exact untouched (.refused request draw injected error present idle failed) rfl task file' found alive'
  | reserved request draw injected inventory outcome reply present idle success =>
    exact untouched (.reserved request draw injected inventory outcome reply present idle success) rfl task file'
      found alive'
  | answered route ending answer answering =>
    exact untouched (.answered route ending answer answering) rfl task file' found alive'
  | created request now =>
    rcases of_file rfl found with opened | ⟨file, here, moves⟩
    · exact .decisionPoint opened
    · obtain rfl := moves.of_createOrder
      exact (covered task file' here alive').same network alone here alive' (List.Subset.refl _)
        (List.Subset.refl _) (List.Subset.refl _)
  | rejected message redelivered draw ending error idle present failed =>
    have pending := covered task file' found alive'
    by_cases own : message.taskId = file'.row.taskId
    · refine .deadLetter _ (List.mem_append_right _ (List.mem_singleton_self _)) ?_
      rw [OrdersMessage.deadLetter_taskId, own]
    · refine pending.keep network alone found alive' (.refl file')
        (fun letter queued _ => List.mem_append_left _ queued) (fun other queued about _ => ?_)
        fun request queued _ => .inl queued
      refine (List.mem_erase_of_ne ?_).mpr queued
      rintro rfl
      exact own about
  | opened message redelivered draw ending handled idle present success opens =>
    rcases of_file rfl found with opened | ⟨file, here, moves⟩
    · exact .decisionPoint opened
    · refine .of_consume (covered task file here) network alone here success moves alive' (List.Subset.refl _)
        (fun other queued apart => (List.mem_erase_of_ne apart).mpr queued) (List.Subset.refl _) ?_
      rw [handled_effects_of_opens success opens]
      exact .inr (by simp)
  | handled message redelivered draw ending handled idle present success quiet =>
    rcases of_file rfl found with opened | ⟨file, here, moves⟩
    · exact .decisionPoint opened
    · refine .of_consume (covered task file here) network alone here success moves alive' ?_
        (fun other queued apart => ?_) ?_ ?_
      · refine List.Subset.trans ?_ (System.deadLetters_subset_finish _ message ending)
        exact List.Subset.refl _
      · refine System.events_subset_finish _ message ending ?_
        exact List.mem_append_left _ ((List.mem_erase_of_ne apart).mpr queued)
      · rw [System.finish_requests, System.emit_requests]
        exact List.subset_append_left _ _
      · cases ending with
        | done => exact .inr fun request published => List.mem_append_right _ published
        | raised => exact .inl (List.mem_append_right _ (List.mem_singleton_self _))
        | died => cases orderly
  | built owner seen own state opened success =>
    rcases of_file rfl found with opened | ⟨file, here, moves⟩
    · exact .decisionPoint opened
    · rcases moves.of_build with ⟨rfl, -⟩ | ⟨about, ⟨error, failed⟩, rfl⟩ | ⟨state', -, rfl⟩
      · exact (covered task file' here alive').same network alone here alive' (List.Subset.refl _)
          (List.Subset.refl _) (List.Subset.refl _)
      · rw [opened, DecisionPoint.task?, Option.some_inj] at about
        rw [← about, success] at failed
        cases failed
      · exact .decisionPoint (by simp)
  | unbuilt owner seen own error opened failed =>
    rcases of_file rfl found with opened | ⟨file, here, moves⟩
    · exact .decisionPoint opened
    · rcases moves.of_build with ⟨rfl, -⟩ | ⟨about, -, rfl⟩ | ⟨state', -, rfl⟩
      · exact (covered task file' here alive').leave network alone here alive' _ _ rfl rfl rfl
      · cases owner with
        | worker => exact .of_interrupted network about (by rfl) 0 (by rfl)
        | api named =>
          obtain rfl := (reachable_coherent alone).own named own (by rw [opened, DecisionPoint.task?])
          rw [System.orderly, failed] at orderly
          cases orderly
      · exact .decisionPoint (by simp)
  | decided owner output decisionId draw ending state decision db result effects built resolved success =>
    rcases of_file rfl found with opened | ⟨file, here, moves⟩
    · exact .decisionPoint opened
    · refine pending_of_decided network alone covered orderly built resolved success here moves ?_ alive'
      rw [OrdersService.taskId_of_file found, OrdersService.taskId_of_file here]
  | undecided owner output decisionId draw ending state decision error built resolved failed =>
    rcases of_file rfl found with opened | ⟨file, here, moves⟩
    · exact .decisionPoint opened
    · exact pending_of_undecided network alone covered built resolved failed here moves alive'
  | unresolved owner output decisionId draw ending state built raises =>
    rcases of_file rfl found with opened | ⟨file, here, moves⟩
    · exact .decisionPoint opened
    · rcases moves.of_decide with ⟨rfl, -⟩ | ⟨-, about, rfl⟩ |
        ⟨state', decision, built', -, resolved, -⟩ |
        ⟨-, -, -, -, -, -, -, -, -, ⟨state', decision, -, -, built', resolved, -⟩, -⟩
      · exact (covered task file' here alive').leave network alone here alive' _ _ rfl rfl rfl
      · cases owner with
        | worker => exact .of_interrupted network about (by rfl) 0 (by rfl)
        | api named =>
          have resolves := orderly.2
          rw [OrdersService.resolves, built] at resolves
          simp [raises] at resolves
      · obtain rfl := DecisionPoint.built.inj (built.symm.trans built')
        cases raises.symm.trans resolved
      · obtain rfl := DecisionPoint.built.inj (built.symm.trans built')
        cases raises.symm.trans resolved
  | stopped owner ending busy ends =>
    rcases of_file rfl found with opened | ⟨file, here, moves⟩
    · exact .decisionPoint opened
    · rcases moves.of_raise with ⟨rfl, -⟩ | ⟨about, rfl⟩
      · exact (covered task file' here alive').leave network alone here alive' _ _ rfl rfl rfl
      · cases owner with
        | worker =>
          cases ending with
          | done => exact absurd rfl ends
          | raised count => exact .of_interrupted network about (by rfl) count (by rfl)
          | died => cases orderly
        | api => cases orderly
  | lettered letter now present =>
    rcases of_file rfl found with opened | ⟨file, here, moves⟩
    · exact .decisionPoint opened
    · rcases moves.of_deadLetter with ⟨rfl, other⟩ | settled
      · refine (covered task file' here alive').keep network alone here alive' (.refl file')
          (fun queued_letter queued own => ?_) (fun message queued _ _ => queued) fun request queued _ => .inl queued
        refine (List.mem_erase_of_ne ?_).mpr queued
        rintro rfl
        exact other own
      · rw [settled] at alive'
        cases alive'

end Step

/-- Every reachable state of a run without crashes covers its tasks. -/
theorem reachable_covered {deployment : Deployment} {stock : List String} {s : System}
    (reachable : (orderlyMachine deployment stock).Reachable s) : s.Covered := by
  refine Machine.Reachable.invariant (P := System.Covered) ?_ ?_ reachable
  · intro task file found
    cases found
  · rintro s label t earlier covered ⟨offered, orderly⟩ step
    obtain ⟨network, alone⟩ := reachable_network earlier.of_restrict
    exact covered_step network alone covered offered orderly (system_step_cases step)

/-- A task nothing was sent for has not been decided. -/
theorem pending_of_unsent {deployment : Deployment} {s : OrdersService}
    (reachable : (ordersMachine deployment).Reachable s) {task : TaskId} {file : TaskFile}
    (found : s.file? task = some file) (unsent : file.sent = []) :
    file.row.status = .pending ∨ file.row.status.terminal = true := by
  refine reachable_file (P := fun file => file.sent = [] → file.row.status = .pending ∨
    file.row.status.terminal = true) ?_ ?_ reachable task file found unsent
  · exact fun _ _ _ _ _ _ => .inl rfl
  · intro s label task file file' _ found holds step unsent
    cases step with
    | same | closed | built | noted | declined => exact holds unsent
    | moved draw cause row' columns effects opens point executed move happens =>
      obtain ⟨before, quiet⟩ := List.append_eq_nil_iff.mp unsent
      change row'.status = .pending ∨ row'.status.terminal = true
      cases move with
      | repeated | inert | failed | timedOut | waitOver | deadLetterLogged => exact holds before
      | completed | aborted | deadLettered => exact .inr rfl
      | retryDispatched | continued | retried | waited | fellBack => cases quiet

namespace System

/-- What the status of a task that has not ended promises to be pending for it. -/
def pendingFor (s : System) (row : TaskRow) : Prop :=
  match row.status with
  | .pending => s.service.points (.api row.taskId) ≠ .closed
  | .waiting => .reevaluate row.taskId row.waitCount ∈ s.events ∧
      s.service.db.accepts (.reevaluate row.taskId row.waitCount) = true
  | .retrying => ∃ decisionId, latestRetry (s.service.db.trajectory row.taskId) = some decisionId ∧
      .dispatchAttempt row.taskId decisionId ∈ s.events ∧
      s.service.db.accepts (.dispatchAttempt row.taskId decisionId) = true
  | .dispatched | .fallbackProcessing => ∃ request, s.service.unanswered row.taskId request ∧
      ((∃ route, ⟨request, route⟩ ∈ s.requests) ∨ ∃ reply, .inventoryEvent reply ∈ s.events ∧
        reply.Answers request ∧ s.service.db.accepts (.inventoryEvent reply) = true)
  | .processing => False
  | .completed | .aborted | .deadLettered => True

end System

/-- Between the steps of the worker, every task that has not ended has pending what its status promises, or
its message is a dead letter. -/
theorem no_lost_task {deployment : Deployment} {stock : List String} {s : System}
    (reachable : (orderlyMachine deployment stock).Reachable s) (between : s.service.points .worker = .closed)
    {task : TaskId} {row : TaskRow} (found : s.service.db.task? task = some row)
    (alive : row.status.terminal = false) :
    (∃ letter ∈ s.deadLetters, letter.taskId = some task) ∨ s.pendingFor row := by
  obtain ⟨network, alone⟩ := reachable_network reachable.of_restrict
  obtain ⟨file, here, rfl, -, events⟩ := file?_of_task? found
  have own := OrdersService.taskId_of_file here
  rw [System.pendingFor]
  cases reachable_covered reachable task file here alive with
  | deadLetter letter queued about => exact .inl ⟨letter, queued, by rw [about, own]⟩
  | reevaluation waiting queued unfinished =>
    rw [waiting]
    exact .inr ⟨queued, accepts_reevaluation here waiting unfinished⟩
  | dispatch decisionId retrying latest queued =>
    rw [retrying]
    exact .inr ⟨decisionId, by rw [own, ← events, latest], queued, accepts_dispatch here retrying decisionId⟩
  | reply request status latest unanswered inFlight =>
    have waits : s.service.unanswered file.row.taskId request := by
      rw [own, OrdersService.unanswered, OrdersService.requestsFor_eq here]
      refine ⟨latest, fun event member about => unanswered event ?_⟩
      rw [(file?_eq_some_iff.mp here).2.2.2.2.1, List.mem_filter]
      exact ⟨member, decide_eq_true about⟩
    have promised : ∃ request, s.service.unanswered file.row.taskId request ∧
        ((∃ route, ⟨request, route⟩ ∈ s.requests) ∨ ∃ reply, .inventoryEvent reply ∈ s.events ∧
          reply.Answers request ∧ s.service.db.accepts (.inventoryEvent reply) = true) :=
      ⟨request, waits, inFlight.imp_right fun ⟨reply, queued, answers⟩ =>
        ⟨reply, queued, answers, accepts_reply network alone here alive latest unanswered answers queued⟩⟩
    rcases status with is | is <;> rw [is] <;> exact .inr promised
  | decisionPoint opened =>
    have api : s.service.points (.api task) ≠ .closed := by
      intro closed
      refine opened ?_
      rw [(file?_eq_some_iff.mp here).2.2.2.1]
      simp [OrdersService.pointOn, between, closed, DecisionPoint.task?]
    have unsent : file.sent = [] := by
      rw [(file?_eq_some_iff.mp here).2.2.2.2.2.1, List.filter_eq_nil_iff]
      intro effect sent about
      have closed := ((reachable_coherent alone).sent effect sent).2
      rw [of_decide_eq_true about] at closed
      exact api closed
    rw [(pending_of_unsent alone here unsent).resolve_right (by simp [alive]), own]
    exact .inr api

/-- The API waits, the clock is behind when the wait is over, and the snapshot raises. -/
def lateClock : List SystemLabel :=
  [.createOrder .single 100, .build (.api 1) (.calm 101 1),
    .decide (.api 1) (.proposing .wait none .serviceUnavailable) 1 ⟨10, 102⟩ .done,
    .consume (.reevaluate 1 1) false ⟨11, 2102⟩ .done, .build .worker (.calm 99 2)]

/-- A task waits, and its reevaluation is a dead letter. -/
theorem not_reevaluation_pending : ¬∀ (deployment : Deployment) (stock : List String) (s : System),
    (orderlyMachine deployment stock).Reachable s → s.service.points .worker = .closed →
      ∀ task row, s.service.db.task? task = some row → row.status = .waiting →
        .reevaluate task row.waitCount ∈ s.events := by
  intro claim
  obtain ⟨s, reachable, passes⟩ : ∃ s, (orderlyMachine .pilot ["SKU-001"]).Reachable s ∧
      (decide (s.service.points .worker = .closed) && s.events.isEmpty &&
        (s.service.db.task? 1).any fun row => row.status = .waiting) = true :=
    Machine.exists_reachable_of_replay? lateClock (by decide +kernel)
  simp only [Bool.and_eq_true, decide_eq_true_eq, List.isEmpty_iff] at passes
  obtain ⟨⟨between, none⟩, waits⟩ := passes
  obtain ⟨row, found, waiting⟩ := (Option.any_eq_true _ _).mp waits
  have queued := claim _ _ s reachable between 1 row found (of_decide_eq_true waiting)
  rw [none] at queued
  cases queued

/-- The first attempt times out, and its retry is dispatched. -/
theorem no_lost_task_pilot : ∃ s row, (orderlyMachine .pilot ["SKU-001"]).Reachable s ∧
    s.service.db.task? 1 = some row ∧ row.status = .dispatched ∧
    ((∃ letter ∈ s.deadLetters, letter.taskId = some 1) ∨ s.pendingFor row) := by
  obtain ⟨s, reachable, passes⟩ : ∃ s, (orderlyMachine .pilot ["SKU-001"]).Reachable s ∧
      (decide (s.service.points .worker = .closed) &&
        (s.service.db.task? 1).any fun row => row.status = .dispatched && row.attemptNumber = 2) = true :=
    Machine.exists_reachable_of_replay? (firstDispatchOfSystem ++
      [.consume (.timeoutCheck 1 10) false ⟨11, 2003⟩ .done, .build .worker (.calm 2004 2),
        .decide .worker (.proposing .retry (some .inventoryPrimary) .transientRetry) 2 ⟨12, 2005⟩ .done,
        .consume (.dispatchAttempt 1 2) false ⟨15, 2505⟩ .done]) (by decide +kernel)
  obtain ⟨between, found⟩ := (Bool.and_eq_true _ _).mp passes
  obtain ⟨row, found, status⟩ := (Option.any_eq_true _ _).mp found
  rw [Bool.and_eq_true, decide_eq_true_eq] at status
  exact ⟨s, row, reachable, found, status.1,
    no_lost_task reachable (of_decide_eq_true between) found (by rw [status.1]; rfl)⟩

end OrchLab
