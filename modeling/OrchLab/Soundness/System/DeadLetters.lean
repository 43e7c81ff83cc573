import OrchLab.Model.DeadLetters
import OrchLab.Soundness.System.Accounts

/-! # Every dead letter is recorded

A message in `tasks.dlq` is one that a service has sent. Its wire form is read as the letter the broker was
said to move, the letter names a task the orders-service knows, and so it is always recorded: the branches of
`handle_dead_letter` that only log are never taken for a message of the two services.
-/

namespace OrchLab

/-! ## Reading what was sent -/

private theorem orElse_sequentialId (task : TaskId) (second : Option Json) :
    orElse (some (.string (sequentialId "TASK" task))) second = some (.string (sequentialId "TASK" task)) := by
  have full : sequentialId "TASK" task ≠ "" := by
    intro empty
    simpa [sequentialId] using congrArg String.toList empty
  have truthy : (Json.string (sequentialId "TASK" task)).truthy = true := by simpa [Json.truthy] using full
  rw [orElse, Option.filter_some, if_pos truthy]

namespace CeleryMessage

variable {message : CeleryMessage} {headers : List (String × Json)}

theorem Rejected.firstDeath? (rejected : message.Rejected headers) : ∃ death, OrchLab.firstDeath? headers = some death ∧
    field? death "queue" = some (.string message.queue) ∧ field? death "reason" = some (.string "rejected") := by
  obtain ⟨death, earlier, found, queue, reason⟩ := rejected.death
  refine ⟨death, ?_, queue, reason⟩
  have truthy : (Json.array (.object death :: earlier)).truthy = true := rfl
  rw [OrchLab.firstDeath?, found, Option.filter_some, if_pos truthy]

/-- A rejected message whose envelope names the task. -/
theorem Rejected.read_args (rejected : message.Rejected headers) (embed : Json) {fields : List (String × Json)}
    {task : TaskId} (args : message.args = [.object fields])
    (named : field? fields "task_id" = some (.string (sequentialId "TASK" task))) :
    RawDeadLetter.fromCeleryMessage (message.body embed) (some headers) =
      some ⟨some (.string message.task), some (sequentialId "TASK" task),
        (field? fields "message_id").bind Json.text?, (field? fields "event_type").bind Json.text?,
        some message.queue, some "rejected"⟩ := by
  obtain ⟨death, found, queue, reason⟩ := rejected.firstDeath?
  simp [RawDeadLetter.fromCeleryMessage, body, argsAndKwargs, args, named, found, queue, reason, rejected.task,
    orElse_sequentialId, Json.text?]

/-- A rejected message of an internal task names it among the keyword arguments. -/
theorem Rejected.read_kwargs (rejected : message.Rejected headers) (embed : Json) {task : TaskId}
    (args : message.args = [])
    (named : field? message.kwargs "task_id" = some (.string (sequentialId "TASK" task))) :
    RawDeadLetter.fromCeleryMessage (message.body embed) (some headers) =
      some ⟨some (.string message.task), some (sequentialId "TASK" task), none, none, some message.queue,
        some "rejected"⟩ := by
  obtain ⟨death, found, queue, reason⟩ := rejected.firstDeath?
  simp [RawDeadLetter.fromCeleryMessage, body, argsAndKwargs, args, named, found, queue, reason, rejected.task,
    orElse, Json.text?]

end CeleryMessage

/-- A message either service sends is read back from `tasks.dlq` as the dead letter it has become. -/
theorem BrokerMessage.fromCeleryMessage_celery (message : BrokerMessage) (toIso : Timestamp → String) (embed : Json)
    {headers : List (String × Json)} (rejected : (message.celery toIso).Rejected headers) :
    RawDeadLetter.fromCeleryMessage ((message.celery toIso).body embed) (some headers) =
      some message.deadLetter.printed := by
  cases message with
  | toInventory request => exact rejected.read_args embed rfl rfl
  | toOrders message =>
    cases message with
    | inventoryEvent event => exact rejected.read_args embed rfl rfl
    | timeoutCheck | dispatchAttempt | reevaluate => exact rejected.read_kwargs embed rfl rfl

/-! ## Where a dead letter comes from -/

/-- The service has sent the message. -/
def System.published (s : System) : BrokerMessage → Prop
  | .toOrders message => (∃ event ∈ s.responses, message = .inventoryEvent event) ∨ message ∈ s.service.scheduled
  | .toInventory request => .publish request.envelope request.route ∈ s.service.sent

namespace System

variable {s : System} {letter : DeadLetter} {ending : Ending}

theorem deadLetters_of_finish {message : OrdersMessage} (queued : letter ∈ (s.finish message ending).deadLetters) :
    letter ∈ s.deadLetters ∨ letter = message.deadLetter := by
  cases ending with
  | done | died => exact .inl queued
  | raised => exact (List.mem_append.mp queued).imp_right List.mem_singleton.mp

theorem deadLetters_of_leave {owner : DecisionOwner} (queued : letter ∈ (s.leave owner ending).deadLetters) :
    letter ∈ s.deadLetters ∨ ∃ message, s.holding = some message ∧ letter = message.deadLetter := by
  cases owner with
  | api => exact .inl queued
  | worker =>
    cases held : s.holding with
    | none => exact .inl (by simpa only [leave, held] using queued)
    | some message =>
      simp only [leave, held] at queued
      exact (deadLetters_of_finish queued).imp_right fun is => ⟨message, rfl, is⟩

end System

namespace SystemStep

variable {deployment : Deployment} {s t : System} {label : SystemLabel}

/-- What was sent is still sent after a step. -/
theorem published (step : SystemStep deployment s label t) {message : BrokerMessage} (sent : s.published message) :
    t.published message := by
  cases message with
  | toOrders message =>
    exact sent.imp (fun ⟨event, stored, is⟩ => ⟨event, step.responses_subset stored, is⟩)
      fun scheduled => List.filterMap_subset _ step.sent_subset scheduled
  | toInventory request => exact step.sent_subset sent

/-- A new dead letter is a message that its queue or its process had. -/
theorem deadLetters (step : SystemStep deployment s label t) (network : Network s) {letter : DeadLetter}
    (queued : letter ∈ t.deadLetters) : letter ∈ s.deadLetters ∨
      (∃ message, s.carries message ∧ letter = message.deadLetter) ∨
        ∃ request ∈ s.requests, letter = request.deadLetter := by
  cases step with
  | created | opened | built | repeatedEvent | repeatedRequest | reserved => exact .inl queued
  | lettered => exact .inl (List.mem_of_mem_erase queued)
  | rejected message redelivered draw ending error idle present =>
    exact (List.mem_append.mp queued).imp_right fun new => .inl ⟨message, .inl present, List.mem_singleton.mp new⟩
  | handled message redelivered draw ending handled idle present =>
    exact (System.deadLetters_of_finish queued).imp_right fun is => .inl ⟨message, .inl present, is⟩
  | unbuilt | decided | undecided | unresolved | stopped =>
    exact (System.deadLetters_of_leave queued).imp_right fun ⟨message, held, is⟩ => .inl ⟨message, .inr held, is⟩
  | refused request draw injected error present =>
    exact (List.mem_append.mp queued).imp_right fun new => .inr ⟨request, present, List.mem_singleton.mp new⟩
  | answered route ending answer busy =>
    cases ending with
    | done | died => exact .inl queued
    | raised =>
      exact (List.mem_append.mp queued).imp_right fun new =>
        .inr ⟨answer.request, (network.answering route answer busy).1, List.mem_singleton.mp new⟩

end SystemStep

/-- In every reachable state a dead letter is a message one of the services has sent. -/
theorem published_of_deadLetter {deployment : Deployment} {stock : List String} {s : System}
    (reachable : (systemMachine deployment stock).Reachable s) {letter : DeadLetter} (queued : letter ∈ s.deadLetters) :
    ∃ message, s.published message ∧ message.deadLetter = letter := by
  refine Machine.Reachable.invariant (P := fun s => ∀ letter ∈ s.deadLetters,
    ∃ message, s.published message ∧ message.deadLetter = letter) ?_ ?_ reachable letter queued
  · rintro letter ⟨⟩
  · intro s label t earlier ih _ moved letter queued
    have step := system_step_cases moved
    have network := (reachable_network earlier).1
    rcases step.deadLetters network queued with old | ⟨message, carried, rfl⟩ | ⟨request, asked, rfl⟩
    · obtain ⟨message, sent, is⟩ := ih letter old
      exact ⟨message, step.published sent, is⟩
    · have sent : s.published (.toOrders message) := network.events message carried
      exact ⟨.toOrders message, step.published sent, rfl⟩
    · have sent : s.published (.toInventory request) := network.requests request asked
      exact ⟨.toInventory request, step.published sent, rfl⟩

/-- What a service has sent is about a task the orders-service knows. -/
theorem known_of_published {deployment : Deployment} {stock : List String} {s : System}
    (reachable : (systemMachine deployment stock).Reachable s) {message : BrokerMessage} (sent : s.published message) :
    s.service.db.task? message.taskId ≠ none := by
  obtain ⟨network, alone⟩ := reachable_network reachable
  have coherent := reachable_coherent alone
  cases message with
  | toInventory request => exact (coherent.sent _ sent).1
  | toOrders message =>
    rcases sent with ⟨event, stored, rfl⟩ | scheduled
    · obtain ⟨row, kept, rfl⟩ := List.mem_map.mp stored
      obtain ⟨request, asked, -, answers⟩ := network.stored row kept
      obtain ⟨effect, here, is⟩ := List.mem_filterMap.mp asked
      cases effect <;> simp only [Effect.request?, Option.some_inj, reduceCtorEq] at is
      subst is
      rw [BrokerMessage.taskId, OrdersMessage.taskId, answers.2.1]
      exact (coherent.sent _ here).1
    · obtain ⟨effect, here, is⟩ := List.mem_filterMap.mp scheduled
      cases effect <;> simp only [Effect.message?, Option.some_inj, reduceCtorEq] at is
      all_goals
        subst is
        exact (coherent.sent _ here).1

/-- A dead letter of a known task ends it and is the next row of its trajectory. -/
theorem Step.lettered_known {deployment : Deployment} {s t : OrdersService} {letter : DeadLetter} {now : Timestamp}
    {task : TaskId} {row : TaskRow} (step : Step deployment s (.deadLetter letter now) t)
    (named : letter.taskId = some task) (known : s.db.task? task = some row) :
    ∃ row' event, t.db.task? task = some row' ∧
      row'.status = (if row.status.terminal then row.status else .deadLettered) ∧
      t.db.trajectory task = s.db.trajectory task ++ [event] ∧ event.eventType = .messageDeadLettered ∧
      event.payload = some (letter.payload (!row.status.terminal)) := by
  cases step with
  | unlettered _ _ unknown => exact absurd (unknown task named) (by rw [known]; exact Option.some_ne_none _)
  | lettered _ _ db own row' columns about move commits =>
    obtain rfl := Option.some.inj (named.symm.trans about)
    obtain rfl := Option.some.inj (known.symm.trans commits.found)
    have trajectory := commits.trajectory row.taskId
    rw [if_pos rfl] at trajectory
    cases move with
    | deadLettered _ _ alive =>
      exact ⟨_, _, commits.task?_self, by rw [alive]; rfl, trajectory, rfl, by rw [alive]; rfl⟩
    | deadLetterLogged _ _ settled =>
      exact ⟨_, _, commits.task?_self, by rw [settled]; rfl, trajectory, rfl, by rw [settled]; rfl⟩

/-- Every dead letter of a reachable state is a message one of the services has sent: the consumer of `tasks.dlq`
reads the same letter from its wire form, whatever it was wrapped in, and delivering the letter puts one row on
the trajectory of a known task and ends the task, unless it has ended. -/
theorem dead_letters_recorded {deployment : Deployment} {stock : List String} {s : System}
    (reachable : (systemMachine deployment stock).Reachable s) {letter : DeadLetter} (queued : letter ∈ s.deadLetters) :
    ∃ message row, s.published message ∧ s.service.db.task? message.taskId = some row ∧
      (∀ toIso embed headers, (message.celery toIso).Rejected headers →
        RawDeadLetter.fromCeleryMessage ((message.celery toIso).body embed) (some headers) = some letter.printed) ∧
      ∀ now, ∃ t row' event, (systemMachine deployment stock).step s (.deadLetter letter now) = some t ∧
        t.service.db.task? message.taskId = some row' ∧
        row'.status = (if row.status.terminal then row.status else .deadLettered) ∧
        t.service.db.trajectory message.taskId = s.service.db.trajectory message.taskId ++ [event] ∧
        event.eventType = .messageDeadLettered ∧ event.payload = some (letter.payload (!row.status.terminal)) := by
  obtain ⟨message, sent, rfl⟩ := published_of_deadLetter reachable queued
  obtain ⟨row, known⟩ := Option.ne_none_iff_exists'.mp (known_of_published reachable sent)
  have named : message.deadLetter.taskId = some message.taskId := by
    cases message with
    | toOrders message => exact message.deadLetter_taskId
    | toInventory => rfl
  refine ⟨message, row, sent, known, fun toIso embed headers => message.fromCeleryMessage_celery toIso embed, ?_⟩
  intro now
  have moved : (systemMachine deployment stock).step s (.deadLetter message.deadLetter now) =
      some { s with service := s.service.deadLetter message.deadLetter now
                    deadLetters := s.deadLetters.erase message.deadLetter } := if_pos queued
  have moves : (ordersMachine deployment).step s.service (.deadLetter message.deadLetter now) =
      some (s.service.deadLetter message.deadLetter now) := rfl
  obtain ⟨row', event, rest⟩ := (step_cases moves).lettered_known named known
  exact ⟨_, row', event, moved, rest⟩

/-- The process raises before it publishes the reply: the request is in `tasks.dlq`. -/
theorem dead_letters_recorded_pilot : ∃ s, (systemMachine .pilot ["SKU-001"]).Reachable s ∧
    s.deadLetters = [firstRequest.deadLetter] ∧
    ∃ message row, s.published message ∧ s.service.db.task? message.taskId = some row := by
  obtain ⟨s, reachable, queued⟩ : ∃ s, (systemMachine .pilot ["SKU-001"]).Reachable s ∧
      decide (s.deadLetters = [firstRequest.deadLetter]) = true :=
    Machine.exists_reachable_of_replay? (firstDispatchOfSystem ++
      [.reserve firstRequest ⟨20, 4⟩ none, .answer .inventoryPrimary (.raised 0)]) (by decide +kernel)
  rw [decide_eq_true_eq] at queued
  have present : firstRequest.deadLetter ∈ s.deadLetters := queued ▸ List.mem_singleton_self _
  obtain ⟨message, row, sent, known, -⟩ := dead_letters_recorded reachable present
  exact ⟨s, reachable, queued, message, row, sent, known⟩

end OrchLab
