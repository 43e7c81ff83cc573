import OrchLab.Soundness.System.Reservations
import OrchLab.Soundness.System.Settlement

/-! # No answer is lost

The inventory commits a reservation with its answer before it replies, and the orders-service may never hear
of it. Whatever crashes, raises or is delivered twice, an answer the inventory has stored is still asked for,
on its way, received, or stands behind a dead letter of it or of its request. So once the queues have drained, the
trajectory of every task that holds stock shows the success or such a dead letter.
-/

namespace OrchLab

/-! ## What the trajectory shows -/

/-- What a task has received is a row of its trajectory. -/
theorem exists_row_of_received {deployment : Deployment} {s : OrdersService}
    (reachable : (ordersMachine deployment).Reachable s) {task : TaskId} {file : TaskFile}
    (found : s.file? task = some file) {event : MessageEnvelope} (member : event ∈ file.received) :
    ∃ row ∈ file.events, row.messageId = some event.messageId ∧ row.eventType = event.eventType := by
  refine reachable_file (P := fun file => ∀ event ∈ file.received,
    ∃ row ∈ file.events, row.messageId = some event.messageId ∧ row.eventType = event.eventType) ?_ ?_ reachable
      task file found event member
  · intro task itemsJson now n _ event member
    cases member
  · intro s label task file file' earlier found holds step
    cases step with
    | same | closed | built | declined => exact holds
    | noted event redelivered draw labels own promised processed =>
      intro other member
      rcases List.mem_append.mp member with old | new
      · exact holds other old
      · obtain rfl := List.mem_singleton.mp new
        obtain ⟨before, here, same⟩ := ((reachable_ledger earlier).processed other.messageId).mp processed
        obtain rfl := promised.2.2 before here same
        refine holds before ?_
        rw [(file?_eq_some_iff.mp found).2.2.2.2.1, List.mem_filter]
        exact ⟨here, by simpa using own.trans (OrdersService.taskId_of_file found)⟩
    | moved draw cause row' columns effects opens point executed move =>
      intro other member
      rcases List.mem_append.mp member with old | new
      · obtain ⟨row, here, shows⟩ := holds other old
        exact ⟨row, List.mem_append_left _ here, shows⟩
      · suffices shown : ∃ row ∈ numbered s.db.taskEvents.rows.length columns,
            row.messageId = some other.messageId ∧ row.eventType = other.eventType by
          obtain ⟨row, here, shows⟩ := shown
          exact ⟨row, List.mem_append_right _ here, shows⟩
        cases move with
        | repeated | inert | failed | completed =>
          obtain rfl := List.mem_singleton.mp new
          exact ⟨_, List.mem_cons_self .., rfl, rfl⟩
        | timedOut | waitOver | retryDispatched | continued | retried | waited | fellBack | aborted
        | deadLettered | deadLetterLogged => cases new

namespace Step

variable {deployment : Deployment} {s t : OrdersService} {label : OrdersLabel}

theorem received_subset (step : Step deployment s label t) : s.received ⊆ t.received := by
  cases step with
  | created | uncreated | unconsumed | built | unbuilt | declined | decided | unresolved | raised | lettered | unlettered =>
    exact List.Subset.refl _
  | consumed message | ignored message =>
    change s.received ⊆ s.receive message
    rw [receive_eq]
    exact List.subset_append_left _ _

/-- A dead letter of a known task is recorded on its trajectory, with what it holds. -/
theorem records_letter {letter : DeadLetter} {now : Timestamp} {task : TaskId}
    (step : Step deployment s (.deadLetter letter now) t) (named : letter.taskId = some task)
    (known : s.db.task? task ≠ none) :
    ∃ event ∈ t.db.trajectory task, event.eventType = .messageDeadLettered ∧
      ∃ changed, event.payload = some (letter.payload changed) := by
  cases step with
  | unlettered _ _ unknown => exact absurd (unknown task named) known
  | lettered _ _ db row row' columns own move commits =>
    obtain rfl := Option.some.inj (named.symm.trans own)
    change ∃ event ∈ db.trajectory row.taskId, _
    rw [commits.trajectory, if_pos rfl]
    cases move <;>
      exact ⟨_, List.mem_append_right _ (List.mem_cons_self ..), rfl, _, rfl⟩

end Step

theorem trajectory_subset_of_step {deployment : Deployment} {s t : OrdersService} {label : OrdersLabel}
    (step : (ordersMachine deployment).step s label = some t) (task : TaskId) :
    s.db.trajectory task ⊆ t.db.trajectory task := by
  obtain ⟨added, rows⟩ := exists_rows_of_step step
  rw [OrdersDb.trajectory, OrdersDb.trajectory, rows, List.filter_append]
  exact List.subset_append_left _ _

/-! ## Where an answer is -/

/-- The dead letter is of the answer, or of the request it answers. -/
structure DeadLetter.Of (row : ProcessedMessage) (letter : DeadLetter) : Prop where
  task : letter.taskId = some row.response.taskId
  message : letter.messageId = some row.messageId ∨ letter.messageId = some row.response.messageId

/-- The row shows the answer, or a dead letter of it or of its request. -/
def TaskEvent.Shows (row : ProcessedMessage) (event : TaskEvent) : Prop :=
  event.messageId = some row.response.messageId ∧ event.eventType = row.response.eventType ∨
    event.eventType = .messageDeadLettered ∧
      ∃ letter : DeadLetter, letter.Of row ∧ ∃ changed, event.payload = some (letter.payload changed)

/-- Where the answer is that the inventory has stored for a request. -/
inductive System.Accounts (s : System) (row : ProcessedMessage) : Prop
  | requested (request : RoutedRequest) (queued : request ∈ s.requests)
      (same : request.envelope.messageId = row.messageId)
  | sent (queued : .inventoryEvent row.response ∈ s.events)
  | received (here : row.response ∈ s.service.received)
  | deadLetter (letter : DeadLetter) (queued : letter ∈ s.deadLetters) (about : letter.Of row)
  | recorded (event : TaskEvent) (here : event ∈ s.service.db.trajectory row.response.taskId)
      (shows : event.Shows row)

namespace Network

variable {s : System}

/-- An answer is about the task of its request. -/
theorem taskId_of_stored (network : Network s) (requests : (s.service.requests.map (·.messageId)).Nodup)
    {row : ProcessedMessage} (stored : row ∈ s.inventory.processedMessages.rows) {request : RoutedRequest}
    (queued : request ∈ s.requests) (same : request.envelope.messageId = row.messageId) :
    row.response.taskId = request.envelope.taskId := by
  obtain ⟨asked, own, named, answers⟩ := network.stored row stored
  have sent := requests_of_publish (network.requests request queued)
  obtain rfl := List.inj_on_of_nodup_map requests own sent (named.trans same.symm)
  exact answers.2.1

/-- The dead letter of the request is one of its answer. -/
theorem letterOf_of_stored (network : Network s) (requests : (s.service.requests.map (·.messageId)).Nodup)
    {row : ProcessedMessage} (stored : row ∈ s.inventory.processedMessages.rows) {request : RoutedRequest}
    (queued : request ∈ s.requests) (same : request.envelope.messageId = row.messageId) :
    request.deadLetter.Of row where
  task := by
    rw [network.taskId_of_stored requests stored queued same]
    rfl
  message := .inl (congrArg some same)

theorem known_of_stored (network : Network s) {deployment : Deployment}
    (alone : (ordersMachine deployment).Reachable s.service) {row : ProcessedMessage}
    (stored : row ∈ s.inventory.processedMessages.rows) : s.service.db.task? row.response.taskId ≠ none := by
  obtain ⟨request, asked, -, answers⟩ := network.stored row stored
  obtain ⟨items, -⟩ := OrdersService.payload_of_request alone asked
  obtain ⟨effect, sent, is⟩ := List.mem_filterMap.mp asked
  rw [answers.2.1]
  have known := ((reachable_coherent alone).sent effect sent).1
  cases effect <;> simp only [Effect.request?, Option.some_inj, reduceCtorEq] at is
  rw [← is]
  exact known

end Network

section Step

variable {deployment : Deployment} {s t : System} {label : SystemLabel} {row : ProcessedMessage}

theorem SystemStep.received_subset (step : SystemStep deployment s label t) :
    s.service.received ⊆ t.service.received := by
  rcases step.service with ⟨-, alone⟩ | ⟨own, -, moved⟩
  · rw [alone]
    exact List.Subset.refl _
  · exact (step_cases moved).received_subset

theorem SystemStep.trajectory_subset (step : SystemStep deployment s label t) (task : TaskId) :
    s.service.db.trajectory task ⊆ t.service.db.trajectory task := by
  rcases step.service with ⟨-, alone⟩ | ⟨own, -, moved⟩
  · rw [alone]
    exact List.Subset.refl _
  · exact trajectory_subset_of_step moved task

/-- What the step leaves where it was stays accounted for, and what is received or recorded stays so. -/
private theorem System.Accounts.keep (accounts : s.Accounts row) (step : SystemStep deployment s label t)
    (requests : ∀ request ∈ s.requests, request.envelope.messageId = row.messageId →
      request ∈ t.requests ∨ t.Accounts row)
    (events : .inventoryEvent row.response ∈ s.events → .inventoryEvent row.response ∈ t.events ∨ t.Accounts row)
    (letters : ∀ letter ∈ s.deadLetters, letter.Of row → letter ∈ t.deadLetters ∨ t.Accounts row) :
    t.Accounts row := by
  cases accounts with
  | requested request queued same =>
    exact (requests request queued same).elim (fun kept => .requested request kept same) id
  | sent queued => exact (events queued).elim .sent id
  | received here => exact .received (step.received_subset here)
  | deadLetter letter queued about =>
    exact (letters letter queued about).elim (fun kept => .deadLetter letter kept about) id
  | recorded event here shows => exact .recorded event (step.trajectory_subset _ here) shows

/-- A message that is taken is received, or becomes a dead letter. -/
private theorem received_of_consume {message : OrdersMessage} {redelivered : Bool} {draw : Draw}
    {handled : Handled} (success : s.service.db.handle deployment.config message redelivered draw = .ok handled)
    {event : MessageEnvelope} (is : message = .inventoryEvent event) :
    event ∈ (s.service.consume deployment message redelivered draw).received := by
  subst is
  rw [OrdersService.consume_of_ok success]
  exact List.mem_append_right _ (List.mem_singleton_self _)

/-- An answer that is published takes the place of its request. -/
private theorem accounts_of_answered (network : Network s) (alone : (ordersMachine deployment).Reachable s.service)
    (stored : row ∈ s.inventory.processedMessages.rows) (accounts : s.Accounts row) {route : Target}
    {ending : Ending} {answer : Answer} (answering : s.answering route = some answer) :
    (s.publish answer ending).Accounts row := by
  have events : s.events ⊆ (s.publish answer ending).events := by
    rw [System.publish_events]
    exact List.subset_append_left _ _
  have step : SystemStep deployment s (.answer route ending) _ := .answered route ending answer answering
  refine accounts.keep step (fun request queued same => ?_)
    (fun queued => .inl (events queued)) fun letter queued _ => .inl ?_
  · by_cases own : request = answer.request
    · subst own
      cases ending with
      | died => exact .inl queued
      | raised count =>
        exact .inr (.deadLetter answer.request.deadLetter
          (List.mem_append_right _ (List.mem_singleton_self _))
          (network.letterOf_of_stored (reachable_ledger alone).requests stored queued same))
      | done =>
        obtain ⟨kept, member, named, reply⟩ := network.replying route answer answering
        have one := List.inj_on_of_nodup_map s.inventory.processedMessages.unique member stored
          (named.trans same)
        subst one
        exact .inr (.sent (List.mem_append_right _ (List.mem_singleton.mpr (by rw [reply]))))
    · cases ending with
      | done | raised => exact .inl ((List.mem_erase_of_ne own).mpr queued)
      | died => exact .inl queued
  · cases ending with
    | done | died => exact queued
    | raised => exact List.mem_append_left _ queued

/-- A message that is taken from the queue is not lost with it. -/
private theorem accounts_of_taken (accounts : s.Accounts row) (step : SystemStep deployment s label t)
    (message : OrdersMessage) (events : ∀ other ∈ s.events, other ≠ message → other ∈ t.events)
    (requests : s.requests ⊆ t.requests) (letters : s.deadLetters ⊆ t.deadLetters)
    (taken : message = .inventoryEvent row.response → t.Accounts row) : t.Accounts row := by
  refine accounts.keep step (fun request queued _ => .inl (requests queued)) (fun queued => ?_)
    fun letter queued _ => .inl (letters queued)
  by_cases own : message = .inventoryEvent row.response
  · exact .inr (taken own)
  · exact .inl (events _ queued (Ne.symm own))

/-- A step keeps account of every answer that was stored before it. -/
private theorem accounts_of_step (network : Network s) (alone : (ordersMachine deployment).Reachable s.service)
    (stored : row ∈ s.inventory.processedMessages.rows) (accounts : s.Accounts row)
    (step : SystemStep deployment s label t) : t.Accounts row := by
  have kept : s.events ⊆ t.events → s.requests ⊆ t.requests → s.deadLetters ⊆ t.deadLetters → t.Accounts row :=
    fun events requests letters => accounts.keep step (fun request queued _ => .inl (requests queued))
      (fun queued => .inl (events queued)) fun letter queued _ => .inl (letters queued)
  cases step with
  | created request now =>
    exact kept (List.Subset.refl _) (List.Subset.refl _) (List.Subset.refl _)
  | built | reserved => exact kept (List.Subset.refl _) (List.Subset.refl _) (List.Subset.refl _)
  | repeatedEvent => exact kept (List.subset_append_left _ _) (List.Subset.refl _) (List.Subset.refl _)
  | repeatedRequest => exact kept (List.Subset.refl _) (List.subset_append_left _ _) (List.Subset.refl _)
  | unbuilt owner | unresolved owner | stopped owner ending | undecided owner =>
    refine kept ?_ ?_ ?_
    · refine List.Subset.trans ?_ (System.events_subset_leave _ owner _)
      exact List.Subset.refl _
    · rw [System.leave_requests]
      exact List.Subset.refl _
    · refine List.Subset.trans ?_ (System.deadLetters_subset_leave _ owner _)
      exact List.Subset.refl _
  | decided owner output decisionId draw ending =>
    refine kept ?_ ?_ ?_
    · refine List.Subset.trans ?_ (System.events_subset_leave _ owner ending)
      exact List.subset_append_left _ _
    · rw [System.leave_requests]
      exact List.subset_append_left _ _
    · refine List.Subset.trans ?_ (System.deadLetters_subset_leave _ owner ending)
      exact List.Subset.refl _
  | rejected message redelivered draw ending error idle present failed =>
    refine accounts_of_taken accounts (.rejected message redelivered draw ending error idle present failed)
      message (fun other queued apart => (List.mem_erase_of_ne apart).mpr queued)
      (List.Subset.refl _) (List.subset_append_left _ _) fun own => ?_
    subst own
    exact .deadLetter _ (List.mem_append_right _ (List.mem_singleton_self _)) ⟨rfl, .inr rfl⟩
  | opened message redelivered draw ending handled idle present success opens =>
    exact accounts_of_taken accounts (.opened message redelivered draw ending handled idle present success opens)
      message (fun other queued apart => (List.mem_erase_of_ne apart).mpr queued)
      (List.Subset.refl _) (List.Subset.refl _) fun own => .received (received_of_consume success own)
  | handled message redelivered draw ending handled idle present success quiet =>
    refine accounts_of_taken accounts (.handled message redelivered draw ending handled idle present success quiet)
      message (fun other queued apart => ?_) ?_ ?_ fun own => .received ?_
    · refine System.events_subset_finish _ message ending ?_
      exact List.mem_append_left _ ((List.mem_erase_of_ne apart).mpr queued)
    · rw [System.finish_requests, System.emit_requests]
      exact List.subset_append_left _ _
    · refine List.Subset.trans ?_ (System.deadLetters_subset_finish _ message ending)
      exact List.Subset.refl _
    · rw [System.finish_service, System.emit_service]
      exact received_of_consume success own
  | lettered letter now present =>
    have step : SystemStep deployment s (.deadLetter letter now) _ := .lettered letter now present
    refine accounts.keep step (fun request queued _ => .inl queued) .inl fun other queued about => ?_
    by_cases own : other = letter
    · subst own
      have own : (ordersMachine deployment).step s.service (.deadLetter other now) =
          some (s.service.deadLetter other now) := rfl
      obtain ⟨event, here, type, holds⟩ :=
        (step_cases own).records_letter about.task (network.known_of_stored alone stored)
      exact .inr (.recorded event here (.inr ⟨type, other, about, holds⟩))
    · exact .inl ((List.mem_erase_of_ne own).mpr queued)
  | refused request draw injected error present idle failed =>
    have step : SystemStep deployment s (.reserve request draw injected) _ :=
      .refused request draw injected error present idle failed
    refine accounts.keep step (fun other queued same => ?_) .inl fun letter queued _ =>
      .inl (List.mem_append_left _ queued)
    by_cases own : other = request
    · subst own
      exact .inr (.deadLetter other.deadLetter (List.mem_append_right _ (List.mem_singleton_self _))
        (network.letterOf_of_stored (reachable_ledger alone).requests stored queued same))
    · exact .inl ((List.mem_erase_of_ne own).mpr queued)
  | answered route ending answer answering =>
    exact accounts_of_answered network alone stored accounts answering

end Step

/-- Every answer the inventory has stored is accounted for. -/
theorem reachable_accounts {deployment : Deployment} {stock : List String} {s : System}
    (reachable : (systemMachine deployment stock).Reachable s) :
    ∀ row ∈ s.inventory.processedMessages.rows, s.Accounts row := by
  refine Machine.Reachable.invariant (P := fun s => ∀ row ∈ s.inventory.processedMessages.rows,
    s.Accounts row) ?_ ?_ reachable
  · intro row stored
    cases stored
  · intro s label t earlier holds offered step row stored
    obtain ⟨network, alone⟩ := reachable_network earlier
    have transition := system_step_cases step
    have kept : ∀ row ∈ s.inventory.processedMessages.rows, t.Accounts row :=
      fun row stored => accounts_of_step network alone stored (holds row stored) transition
    cases transition with
    | reserved request draw injected inventory outcome reply present idle success =>
      rcases (InventoryDb.processReservationRequest_eq_ok success).stored_or_stores with
        ⟨same, -⟩ | ⟨⟨-, new, rows, named, -⟩, -⟩
      · exact kept row (by rw [← same]; exact stored)
      · change row ∈ inventory.processedMessages.rows at stored
        rw [rows] at stored
        rcases List.mem_append.mp stored with old | added
        · exact kept row old
        · obtain rfl := List.mem_singleton.mp added
          exact .requested request present named.symm
    | created | rejected | opened | built | lettered | repeatedEvent | repeatedRequest | refused =>
      exact kept row stored
    | handled | unbuilt | decided | undecided | unresolved | stopped | answered => exact kept row (by simpa using stored)

/-- A reservation was made with an answer that reports it. -/
theorem exists_answer_of_reservation {deployment : Deployment} {stock : List String} {s : System}
    (reachable : (systemMachine deployment stock).Reachable s) :
    ∀ reservation ∈ s.inventory.reservations.rows, ∃ row ∈ s.inventory.processedMessages.rows,
      row.response.taskId = reservation.taskId ∧ row.response.eventType = .stockReservationSucceeded := by
  refine Machine.Reachable.invariant (P := fun s => ∀ reservation ∈ s.inventory.reservations.rows,
    ∃ row ∈ s.inventory.processedMessages.rows, row.response.taskId = reservation.taskId ∧
      row.response.eventType = .stockReservationSucceeded) ?_ ?_ reachable
  · intro reservation made
    cases made
  · intro s label t earlier holds offered step reservation made
    have transition := system_step_cases step
    have kept : reservation ∈ s.inventory.reservations.rows → ∃ row ∈ t.inventory.processedMessages.rows,
        row.response.taskId = reservation.taskId ∧ row.response.eventType = .stockReservationSucceeded := by
      intro old
      obtain ⟨row, stored, reports⟩ := holds reservation old
      exact ⟨row, transition.processedMessages_subset stored, reports⟩
    rcases transition.inventory with same | ⟨request, draw, injected, reply, -, queued, replies, -⟩
    · exact kept (by rw [← same]; exact made)
    · generalize t.inventory = inventory at replies made kept ⊢
      cases replies with
      | again => exact kept made
      | failed _ _ _ same | existing _ _ _ _ same => exact kept (by rw [← same]; exact made)
      | reserved _ payload row asked status task order stores absent rows =>
        rw [rows] at made
        rcases List.mem_append.mp made with old | new
        · exact kept old
        · obtain rfl := List.mem_singleton.mp new
          obtain ⟨-, message, messages, -, response⟩ := stores
          refine ⟨message, ?_, ?_, ?_⟩
          · rw [messages]
            exact List.mem_append_right _ (List.mem_singleton_self _)
          · rw [response, task]
            rfl
          · rw [response]
            rfl

/-- What is accounted for in a drained system is on the trajectory. -/
theorem System.Accounts.of_drained {deployment : Deployment} {s : System} {row : ProcessedMessage}
    (alone : (ordersMachine deployment).Reachable s.service) (accounts : s.Accounts row) (drained : s.Drained)
    (known : s.service.db.task? row.response.taskId ≠ none) :
    ∃ event ∈ s.service.db.trajectory row.response.taskId, event.Shows row := by
  cases accounts with
  | requested request queued =>
    rw [drained.requests] at queued
    cases queued
  | sent queued =>
    rw [drained.events] at queued
    cases queued
  | deadLetter letter queued =>
    rw [drained.deadLetters] at queued
    cases queued
  | recorded event here shows => exact ⟨event, here, shows⟩
  | received here =>
    obtain ⟨task, stored⟩ := Option.ne_none_iff_exists'.mp known
    obtain ⟨file, found, -, -, events⟩ := file?_of_task? stored
    have member : row.response ∈ file.received := by
      rw [(file?_eq_some_iff.mp found).2.2.2.2.1, List.mem_filter]
      exact ⟨here, by simp⟩
    obtain ⟨event, recorded, shows⟩ := exists_row_of_received alone found member
    exact ⟨event, events ▸ recorded, .inl shows⟩

/-- Through crashes, errors and repeated deliveries, every answer the inventory has stored is asked for, on its
way, received, or behind a dead letter of it or of its request. Once the services have drained, the trajectory of
every task shows the answers it was given or such a dead letter, and so does that of every task that holds stock. -/
theorem no_answer_lost {deployment : Deployment} {stock : List String} {s : System}
    (reachable : (systemMachine deployment stock).Reachable s) :
    (∀ row ∈ s.inventory.processedMessages.rows, s.Accounts row) ∧
      (s.Drained →
        (∀ row ∈ s.inventory.processedMessages.rows,
          ∃ event ∈ s.service.db.trajectory row.response.taskId, event.Shows row) ∧
        ∀ reservation ∈ s.inventory.reservations.rows, ∃ event ∈ s.service.db.trajectory reservation.taskId,
          event.eventType = .stockReservationSucceeded ∨ event.eventType = .messageDeadLettered) := by
  obtain ⟨network, alone⟩ := reachable_network reachable
  have accounts := reachable_accounts reachable
  refine ⟨accounts, fun drained => ?_⟩
  have shown : ∀ row ∈ s.inventory.processedMessages.rows,
      ∃ event ∈ s.service.db.trajectory row.response.taskId, event.Shows row :=
    fun row stored => (accounts row stored).of_drained alone drained (network.known_of_stored alone stored)
  refine ⟨shown, fun reservation made => ?_⟩
  obtain ⟨row, stored, own, succeeded⟩ := exists_answer_of_reservation reachable reservation made
  obtain ⟨event, here, shows⟩ := shown row stored
  rw [own] at here
  exact ⟨event, here, shows.imp (fun same => same.2.trans succeeded) And.left⟩

/-- The process raises before it publishes the reply: the request becomes a dead letter, and the task ends with
its stock reserved. -/
theorem no_answer_lost_pilot : ∃ s, (systemMachine .pilot ["SKU-001"]).Reachable s ∧
    s.inventory.reservations.rows ≠ [] ∧ (s.service.db.task? 1).any (fun row => row.status = .deadLettered) = true ∧
    ∀ row ∈ s.inventory.processedMessages.rows, s.Accounts row := by
  obtain ⟨s, reachable, passes⟩ : ∃ s, (systemMachine .pilot ["SKU-001"]).Reachable s ∧
      (decide (s.inventory.reservations.rows ≠ []) &&
        (s.service.db.task? 1).any fun row => row.status = .deadLettered) = true :=
    Machine.exists_reachable_of_replay? (firstDispatchOfSystem ++
      [.reserve firstRequest ⟨20, 4⟩ none, .answer .inventoryPrimary (.raised 0),
        .deadLetter firstRequest.deadLetter 5]) (by decide +kernel)
  obtain ⟨made, ended⟩ := (Bool.and_eq_true _ _).mp passes
  exact ⟨s, reachable, of_decide_eq_true made, ended, (no_answer_lost reachable).1⟩

end OrchLab
