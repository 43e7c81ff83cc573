import OrchLab.Soundness.Orders.Occurrences

/-! # Repeated deliveries in the log

The column `redelivered` marks two things: a repetition of a message, and a first delivery that the broker
flagged. A marked row therefore repeats an unmarked one, or it is the only row of its message. The lookup of
the original position skips marked rows, so a repetition is logged exactly when the first delivery was not
flagged.
-/

namespace OrchLab

/-- The first row that names a message. -/
def OrdersDb.firstOccurrence? (db : OrdersDb) (message : MessageId) : Option TaskEvent :=
  db.taskEvents.rows.find? (·.messageId = some message)

/-- A delivery is answered as a duplicate and leaves one more row, at the position of the first occurrence. -/
structure RepeatLogged (db : OrdersDb) (event : MessageEnvelope) (db' : OrdersDb) (outcome : EventOutcome) :
    Prop where
  duplicate : outcome.status = .duplicate
  tasks : db'.tasks = db.tasks
  orders : db'.orders = db.orders
  processedEvents : db'.processedEvents = db.processedEvents
  row : ∃ first row, db.firstOccurrence? event.messageId = some first ∧
    db'.taskEvents.rows = db.taskEvents.rows ++ [row] ∧ row.messageId = some event.messageId ∧
      row.eventSeq = first.eventSeq ∧ row.redelivered = true

/-- Every further delivery of an event is logged, at any time and with either flag. -/
def OrdersDb.LogsRepeats (db : OrdersDb) (event : MessageEnvelope) : Prop :=
  ∀ now redelivered, ∃ db' outcome, db.handleInventoryEvent now event redelivered = .ok (db', outcome) ∧
    RepeatLogged db event db' outcome

/-! ## Marked rows -/

/-- A marked row repeats an unmarked one before it, or it is the only row of its message. -/
def Marked (events : List TaskEvent) : Prop :=
  ∀ row ∈ events, ∀ message, row.messageId = some message → row.redelivered = true →
    (∃ earlier ∈ events, earlier.messageId = some message ∧ earlier.redelivered = false ∧
      earlier.eventId < row.eventId) ∨ ∀ other ∈ events, other.messageId = some message → other = row

namespace Marked

variable {events : List TaskEvent} {n : ℕ}

theorem append_known (holds : Marked events) (old : ∀ event ∈ events, event.eventId ≤ n) {column : EventColumns}
    {message : MessageId} (names : column.messageId = some message) {first : TaskEvent} (member : first ∈ events)
    (known : first.messageId = some message) (unmarked : first.redelivered = false) :
    Marked (events ++ numbered n [column]) := by
  intro row here id named marked
  rcases List.mem_append.mp here with stored | added
  · rcases holds row stored id named marked with ⟨earlier, before, rest⟩ | alone
    · exact .inl ⟨earlier, List.mem_append_left _ before, rest⟩
    · refine .inr fun other there also => ?_
      rcases List.mem_append.mp there with other_stored | other_added
      · exact alone other other_stored also
      · obtain rfl := List.mem_singleton.mp other_added
        obtain rfl : message = id := Option.some_inj.mp (names.symm.trans also)
        obtain rfl := alone first member known
        simp [unmarked] at marked
  · obtain rfl := List.mem_singleton.mp added
    obtain rfl : message = id := Option.some_inj.mp (names.symm.trans named)
    exact .inl ⟨first, List.mem_append_left _ member, known, unmarked, Nat.lt_succ_of_le (old first member)⟩

theorem append_fresh (holds : Marked events) {columns : List EventColumns}
    (fresh : ∀ event ∈ columns, ∀ message, event.messageId = some message →
      ∀ earlier ∈ events, earlier.messageId ≠ some message)
    (once : columns.Pairwise fun a b => a.messageId = none ∨ b.messageId = none) :
    Marked (events ++ numbered n columns) := by
  intro row here id named marked
  rcases List.mem_append.mp here with stored | added
  · rcases holds row stored id named marked with ⟨earlier, before, rest⟩ | alone
    · exact .inl ⟨earlier, List.mem_append_left _ before, rest⟩
    · refine .inr fun other there also => ?_
      rcases List.mem_append.mp there with other_stored | other_added
      · exact alone other other_stored also
      · exact absurd named (fresh other.toEventColumns (mem_of_mem_numbered other_added) id also row stored)
  · refine .inr fun other there also => ?_
    rcases List.mem_append.mp there with other_stored | other_added
    · exact absurd also (fresh row.toEventColumns (mem_of_mem_numbered added) id named other other_stored)
    · exact eq_of_once once other_added added also named

end Marked

/-- The rows of every task of a reachable state are marked so. -/
theorem reachable_marked {deployment : Deployment} {s : OrdersService}
    (reachable : (ordersMachine deployment).Reachable s) {task : TaskId} {file : TaskFile}
    (found : s.file? task = some file) : Marked file.events := by
  refine reachable_file (P := fun file => Marked file.events) ?_ ?_ reachable task file found
  · intro task _ now n _ row member message _ marked
    obtain rfl := List.mem_singleton.mp member
    cases marked
  · intro s label task file file' reachable found holds step
    cases step with
    | same | closed | built | noted | declined => exact holds
    | moved draw cause row' columns effects opens point executed move happens =>
      have ledger := reachable_ledger reachable
      have old := OrdersService.eventId_le_of_file found
      by_cases repeats : cause.Repeats s.db
      · obtain ⟨-, -, column, message, rfl, names, first, member, known, -, unmarked⟩ :=
          repeats_of_processed ledger found move happens repeats
        exact holds.append_known old names member known unmarked
      · have continues := continues_of_fresh ledger found move happens repeats
        exact holds.append_fresh continues.fresh continues.once

/-- The first row that passes a test has the smallest number. -/
theorem EventLog.eventId_le_of_find? {log : EventLog} {p : TaskEvent → Bool} {first other : TaskEvent}
    (found : log.rows.find? p = some first) (member : other ∈ log.rows) (passes : p other = true) :
    first.eventId ≤ other.eventId := by
  obtain ⟨-, before, after, split, earlier⟩ := List.find?_eq_some_iff_append.mp found
  have increasing := log.pairwise_eventId
  rw [split, List.pairwise_append, List.pairwise_cons] at increasing
  rw [split] at member
  rcases List.mem_append.mp member with sooner | later
  · simpa [passes] using earlier other sooner
  · rcases List.mem_cons.mp later with rfl | behind
    · exact le_rfl
    · exact (increasing.2.1.1 other behind).le

section Delivery

variable {deployment : Deployment} {s : OrdersService} {message : MessageId} {first : TaskEvent}

/-- The lookup finds the first row of a message if the row is unmarked. -/
theorem eventSeqOfMessage_of_unmarked (occurs : s.db.firstOccurrence? message = some first)
    (unmarked : first.redelivered = false) : s.db.eventSeqOfMessage message = some first.eventSeq := by
  obtain ⟨named, before, after, split, earlier⟩ := List.find?_eq_some_iff_append.mp occurs
  refine Option.map_eq_some_iff.mpr ⟨first, ?_, rfl⟩
  refine List.find?_eq_some_iff_append.mpr ⟨by rw [named, unmarked]; rfl, before, after, split, ?_⟩
  intro row member
  rw [Bool.not_eq_true', Bool.and_eq_false_iff]
  exact .inl (by simpa using earlier row member)

/-- The lookup finds nothing if the first row of a message is marked. -/
theorem eventSeqOfMessage_of_marked (reachable : (ordersMachine deployment).Reachable s)
    (occurs : s.db.firstOccurrence? message = some first) (marked : first.redelivered = true) :
    s.db.eventSeqOfMessage message = none := by
  have ledger := reachable_ledger reachable
  have stored := List.mem_of_find?_eq_some occurs
  have named : first.messageId = some message := of_decide_eq_true (List.find?_some occurs :)
  obtain ⟨task, found⟩ := Option.ne_none_iff_exists'.mp (ledger.events first stored)
  obtain ⟨file, here, -, -, -⟩ := file?_of_task? found
  have trajectory := (file?_eq_some_iff.mp here).2.2.1
  have own : first ∈ file.events := trajectory ▸ OrdersDb.mem_trajectory.mpr ⟨stored, rfl⟩
  rw [OrdersDb.eventSeqOfMessage, Option.map_eq_none_iff, List.find?_eq_none]
  intro row member names
  simp only [Bool.and_eq_true, decide_eq_true_eq, Bool.not_eq_true'] at names
  rcases reachable_marked reachable here first own message named marked with ⟨other, there, same, -, less⟩ | alone
  · rw [trajectory, OrdersDb.mem_trajectory] at there
    have least := EventLog.eventId_le_of_find? occurs there.1 (decide_eq_true same)
    omega
  · have also : row ∈ file.events := trajectory ▸
      OrdersDb.mem_trajectory.mpr ⟨member, ledger.taskId_eq member stored names.1 named⟩
    obtain rfl := alone row also names.1
    simp [marked] at names

/-- A processed event of a known task is a duplicate, with one more row if the lookup finds a position. -/
theorem handleInventoryEvent_of_processed {db : OrdersDb} {event : MessageEnvelope} {row : TaskRow}
    (found : db.task? event.taskId = some row) (type : event.eventType ≠ .stockReservationRequested)
    (processed : db.isEventProcessed event.messageId = true) (now : Timestamp) (redelivered : Bool) :
    db.handleInventoryEvent now event redelivered = .ok ((db.eventSeqOfMessage event.messageId).elim db
      fun eventSeq => db.appendEvent (messageColumns event eventSeq .inventory true now),
        ⟨.duplicate, none, false, false⟩) := by
  have handled : ¬(event.eventType ≠ .stockReservationSucceeded ∧ event.eventType ≠ .stockReservationFailed) := by
    rcases eventType_of_message event with requested | succeeded | failed
    · exact absurd requested type
    · simp [succeeded]
    · simp [failed]
  rw [OrdersDb.handleInventoryEvent, if_neg handled, if_pos processed, OrdersDb.recordRepeated]
  cases db.eventSeqOfMessage event.messageId with
  | none => rfl
  | some eventSeq =>
    simp only [OrdersDb.recordMessage_of_found found]
    rfl

/-- The deliveries of a processed event are logged exactly when its first row is unmarked, that is, when the
broker did not flag its first delivery. -/
theorem repeats_logged_iff (reachable : (ordersMachine deployment).Reachable s) {event : MessageEnvelope}
    (promised : s.deliverable (.inventoryEvent event))
    (processed : s.db.isEventProcessed event.messageId = true) :
    s.db.LogsRepeats event ↔
      ∃ first, s.db.firstOccurrence? event.messageId = some first ∧ first.redelivered = false := by
  obtain ⟨effect, sent, about⟩ := exists_sent_of_deliverable promised
  have known := ((reachable_coherent reachable).sent effect sent).1
  rw [about] at known
  obtain ⟨row, found⟩ := Option.ne_none_iff_exists'.mp known
  obtain ⟨⟨request, -, answers⟩, -, -⟩ := promised
  have handled := handleInventoryEvent_of_processed found answers.2.2.2.2.2.2 processed
  constructor
  · intro logs
    obtain ⟨db', outcome, success, logged⟩ := logs 0 true
    obtain ⟨first, row, occurs, rows, -⟩ := logged.row
    refine ⟨first, occurs, ?_⟩
    by_contra marked
    rw [Bool.not_eq_false] at marked
    rw [handled, eventSeqOfMessage_of_marked reachable occurs marked] at success
    cases success
    simp at rows
  · rintro ⟨first, occurs, unmarked⟩ now redelivered
    rw [handled, eventSeqOfMessage_of_unmarked occurs unmarked]
    exact ⟨_, _, rfl, rfl, rfl, rfl, rfl, first, _, occurs, rfl, rfl, rfl, rfl⟩

end Delivery

/-! ## A first delivery that the broker flagged -/

/-- The first failure of a task is delivered with the flag of the broker. -/
def flaggedFailure (redelivered : Bool) : List OrdersLabel :=
  firstDispatch ++ [.consume (.inventoryEvent (firstReply 20 (.failed ⟨1, .primary, .transientError⟩)))
    redelivered ⟨11, 100⟩]

/-- The second delivery of the flagged failure is not logged. -/
theorem not_repeats_logged : ¬∀ (deployment : Deployment) (s : OrdersService) (event : MessageEnvelope),
    (ordersMachine deployment).Reachable s → s.deliverable (.inventoryEvent event) →
      s.db.isEventProcessed event.messageId = true → s.db.LogsRepeats event := by
  intro claim
  let failure := firstReply 20 (.failed ⟨1, .primary, .transientError⟩)
  obtain ⟨s, reachable, passes⟩ := Machine.exists_reachable_of_replay? (m := ordersMachine .pilot)
    (flaggedFailure true) (p := fun s => decide (s.deliverable (.inventoryEvent failure)) &&
      s.db.isEventProcessed failure.messageId &&
        (match s.db.handleInventoryEvent 200 failure true with
          | .ok (db', _) => decide (db'.taskEvents.rows = s.db.taskEvents.rows)
          | .error _ => false)) (by decide +kernel)
  simp only [Bool.and_eq_true, decide_eq_true_eq] at passes
  obtain ⟨⟨promised, processed⟩, silent⟩ := passes
  obtain ⟨db', outcome, success, logged⟩ := claim .pilot s failure reachable promised processed 200 true
  obtain ⟨first, row, -, rows, -⟩ := logged.row
  simp [success, rows] at silent

/-- The equivalence for a failure whose first delivery was not flagged. -/
theorem repeats_logged_iff_pilot : ∃ s event, (ordersMachine .pilot).Reachable s ∧
    s.deliverable (.inventoryEvent event) ∧ s.db.isEventProcessed event.messageId = true ∧
    (s.db.LogsRepeats event ↔
      ∃ first, s.db.firstOccurrence? event.messageId = some first ∧ first.redelivered = false) := by
  let failure := firstReply 20 (.failed ⟨1, .primary, .transientError⟩)
  obtain ⟨s, reachable, passes⟩ := Machine.exists_reachable_of_replay? (m := ordersMachine .pilot)
    (flaggedFailure false) (p := fun s => decide (s.deliverable (.inventoryEvent failure)) &&
      s.db.isEventProcessed failure.messageId) (by decide +kernel)
  simp only [Bool.and_eq_true, decide_eq_true_eq] at passes
  exact ⟨s, failure, reachable, passes.1, passes.2, repeats_logged_iff reachable passes.1 passes.2⟩

end OrchLab
