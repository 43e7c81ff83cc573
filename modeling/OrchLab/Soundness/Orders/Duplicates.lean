import OrchLab.Soundness.Orders.Agreement

/-! # Extra deliveries of processed events

A run of transactions and a longer one, with extra deliveries of inventory events that had been
processed, are executed side by side. What they leave and return is the same exactly when no timeout
check of the longer run finds a live task waiting for its latest request behind rows that the extra
deliveries alone have written: such a check registers nothing, and the timeout is lost.
-/

namespace OrchLab

/-- A step of the longer run: one of the run itself, or an extra delivery. -/
inductive Entry where
  | own (transaction : Transaction)
  | extra (event : MessageEnvelope) (redelivered : Bool) (now : Timestamp)
deriving DecidableEq

/-- The transaction of the run itself. -/
def Entry.own? : Entry → Option Transaction
  | .own transaction => some transaction
  | .extra .. => none

/-- The longer run as it goes: its database, and the numbers of the rows its extra deliveries wrote. -/
structure LongerRun where
  db : OrdersDb
  inserted : List ℕ

namespace LongerRun

variable (config : ExperimentConfig)

/-- One step, with what it returns to the run itself. -/
def perform (s : LongerRun) : Entry → LongerRun × Option Returned
  | .own transaction =>
    let (db, returned) := s.db.perform config transaction
    (⟨db, s.inserted⟩, some returned)
  | .extra event redelivered now =>
    let (db, _) := s.db.perform config (.inventoryEvent event redelivered now)
    let before := s.db.taskEvents.rows.length
    (⟨db, s.inserted ++ List.range' (before + 1) (db.taskEvents.rows.length - before)⟩, none)

def performAll (s : LongerRun) : List Entry → LongerRun × List Returned
  | [] => (s, [])
  | entry :: rest =>
    let (next, returned) := s.perform config entry
    let (final, later) := next.performAll rest
    (final, returned.toList ++ later)

/-- A condition on each step and the state before it, along a run. -/
def Always (condition : LongerRun → Entry → Prop) (s : LongerRun) : List Entry → Prop
  | [] => True
  | entry :: rest => condition s entry ∧ Always condition (s.perform config entry).1 rest

instance decidableAlways (condition : LongerRun → Entry → Prop) [∀ s entry, Decidable (condition s entry)] :
    ∀ entries s, Decidable (Always config condition s entries)
  | [], _ => inferInstanceAs (Decidable True)
  | entry :: rest, s =>
    have := decidableAlways condition rest (s.perform config entry).1
    inferInstanceAs (Decidable (condition s entry ∧ Always config condition (s.perform config entry).1 rest))

/-- An extra delivery is one of an event that was processed. -/
def repeats (s : LongerRun) : Entry → Prop
  | .own _ => True
  | .extra event .. => s.db.isEventProcessed event.messageId = true

instance : ∀ s entry, Decidable (repeats s entry)
  | _, .own _ => inferInstanceAs (Decidable True)
  | _, .extra .. => inferInstanceAs (Decidable (_ = true))

/-- A timeout check is not silenced by the extra deliveries alone. -/
def heard (s : LongerRun) : Entry → Prop
  | .own (.timeoutCheck task request _) => s.db.silenced s.inserted task request = false
  | _ => True

end LongerRun

/-- The longer run leaves the tasks, orders and processed events of the run itself, and every step the two
have in common returned the same. -/
def Unnoticed (shorter : OrdersDb × List Returned) (longer : LongerRun × List Returned) : Prop :=
  longer.1.db.tasks = shorter.1.tasks ∧ longer.1.db.orders = shorter.1.orders ∧
    longer.1.db.processedEvents = shorter.1.processedEvents ∧ longer.2 = shorter.2

/-! ## One step -/

namespace OrdersDb

variable {config : ExperimentConfig} {inserted : List ℕ} {db db' : OrdersDb}

/-- A transaction preserves the agreement and returns the same on both sides. -/
theorem Agree.perform (agree : Agree inserted db db') (transaction : Transaction)
    (heard : LongerRun.heard ⟨db', inserted⟩ (.own transaction)) :
    Agree inserted (db.perform config transaction).1 (db'.perform config transaction).1 ∧
      (db'.perform config transaction).2 = (db.perform config transaction).2 := by
  cases about : transaction.task? with
  | none =>
    cases transaction with
    | createOrder executionId itemsJson now =>
      exact Congruence.settle agree (agree.createOrderWithTask executionId itemsJson now) .created
    | deadLetter letter now =>
      change letter.taskId = none at about
      simp only [OrdersDb.perform, OrdersDb.handleDeadLetter, about]
      exact ⟨agree, rfl⟩
    | _ => cases about
  | some task =>
    cases transaction with
    | timeoutCheck _ request now =>
      exact Congruence.settle agree (agree.registerTimeout now _ request heard) .registered
    | _ =>
      refine (congruence inserted task).perform agree config about (fun _ _ => trivial) ?_
      rintro _ _ ⟨⟩

/-- An extra delivery writes one row or nothing, and both databases still agree. -/
theorem Agree.perform_extra (agree : Agree inserted db db') (event : MessageEnvelope) (redelivered : Bool)
    (now : Timestamp) (processed : db'.isEventProcessed event.messageId = true) :
    let after := LongerRun.perform config ⟨db', inserted⟩ (.extra event redelivered now)
    Agree after.1.inserted db after.1.db := by
  have unchanged : (db'.perform config (.inventoryEvent event redelivered now)).1 = db' →
      let after := LongerRun.perform config ⟨db', inserted⟩ (.extra event redelivered now)
      Agree after.1.inserted db after.1.db := by
    intro same
    simpa [LongerRun.perform, same] using agree
  by_cases type : event.eventType ≠ .stockReservationSucceeded ∧ event.eventType ≠ .stockReservationFailed
  · exact unchanged (by simp [OrdersDb.perform, OrdersDb.handleInventoryEvent, type, OrdersDb.settle])
  · have repeated : (db'.perform config (.inventoryEvent event redelivered now)).1 =
        (db'.settle (fun _ : Unit => .handled ⟨.duplicate, none, false, false⟩)
          ((db'.recordRepeated now event).map (·, ()))).1 := by
      simp only [OrdersDb.perform, OrdersDb.handleInventoryEvent, if_neg type, processed, if_true]
      cases db'.recordRepeated now event <;> rfl
    cases position : db'.eventSeqOfMessage event.messageId with
    | none => exact unchanged (by simp [repeated, OrdersDb.recordRepeated, position, OrdersDb.settle, Except.map])
    | some originalSeq =>
      cases found : db'.task? event.taskId with
      | none =>
        refine unchanged ?_
        have absent : (db'.task? (messageColumns event originalSeq .inventory true now).taskId).isSome = false := by
          rw [show (messageColumns event originalSeq .inventory true now).taskId = event.taskId from rfl, found]
          rfl
        simp [repeated, OrdersDb.recordRepeated, position, OrdersDb.settle, Except.map, OrdersDb.recordMessage,
          OrdersDb.recordEvent, absent]
      | some row =>
        have written : (db'.perform config (.inventoryEvent event redelivered now)).1 =
            db'.appendEvent (messageColumns event originalSeq .inventory true now) := by
          rw [repeated]
          simp only [OrdersDb.recordRepeated, position, recordMessage_of_found found]
          rfl
        have reply : event.eventType = .stockReservationSucceeded ∨
            event.eventType = .stockReservationFailed := by
          by_contra neither
          exact type (not_or.mp neither)
        simpa [LongerRun.perform, written, EventLog.append] using
          agree.appendRepeated event originalSeq reply now

end OrdersDb

/-! ## Whole runs -/

/-- Side by side from agreeing databases, a run and a longer one leave and return the same exactly when
every timeout check of the longer one is heard. -/
theorem unnoticed_iff_of_agree {config : ExperimentConfig} {db : OrdersDb} {s : LongerRun}
    {entries : List Entry} (agree : OrdersDb.Agree s.inserted db s.db)
    (repeats : s.Always config LongerRun.repeats entries) :
    Unnoticed (db.performAll config (entries.filterMap Entry.own?)) (s.performAll config entries) ↔
      s.Always config LongerRun.heard entries := by
  induction entries generalizing db s with
  | nil => exact iff_of_true ⟨agree.tasks, agree.orders, agree.processedEvents, rfl⟩ trivial
  | cons entry rest ih =>
    obtain ⟨here, later⟩ := repeats
    cases entry with
    | extra event redelivered now =>
      have next := ih (agree.perform_extra event redelivered now here) later
      simp only [LongerRun.Always, LongerRun.heard, true_and]
      exact next
    | own transaction =>
      by_cases heard : s.heard (.own transaction)
      · obtain ⟨agrees, same⟩ := @OrdersDb.Agree.perform config s.inserted db s.db agree transaction heard
        have next := ih (s := (s.perform config (.own transaction)).1) agrees later
        simp only [LongerRun.Always, heard, true_and]
        rw [← next]
        simp [Unnoticed, LongerRun.performAll, OrdersDb.performAll, LongerRun.perform, Entry.own?, same]
      · refine iff_of_false (fun unnoticed => ?_) fun always => heard always.1
        have same := (List.cons.inj unnoticed.2.2.2).1
        cases transaction with
        | timeoutCheck task request now =>
          have silenced : s.db.silenced s.inserted task request = true := by
            simpa [LongerRun.heard] using heard
          obtain ⟨⟨_, without⟩, silent⟩ := agree.registerTimeout_of_silenced now silenced
          simp [without, silent, OrdersDb.settle] at same
        | _ => exact heard trivial

/-- Extra deliveries of processed events change nothing but the log exactly when they silence no timeout
check. -/
theorem duplicates_unnoticed_iff (config : ExperimentConfig) (db : OrdersDb) (entries : List Entry)
    (repeats : LongerRun.Always config LongerRun.repeats ⟨db, []⟩ entries) :
    Unnoticed (db.performAll config (entries.filterMap Entry.own?))
        (LongerRun.performAll config ⟨db, []⟩ entries) ↔
      LongerRun.Always config LongerRun.heard ⟨db, []⟩ entries :=
  unnoticed_iff_of_agree (.refl db) repeats

/-! ## A lost timeout -/

/-- A first attempt fails and its retry is dispatched under message 15; the failure is delivered once more,
and then the retry's timeout is checked. -/
def repeatedFailure : List Entry :=
  let failure := firstReply 20 (.failed ⟨1, .primary, .transientError⟩)
  [.own (.createOrder Deployment.pilot.executionId (canonicalJson CreateOrderRequest.single.items) 0),
    .own (.execute 1 1 ⟨.continueFlow, some .inventoryPrimary, "NORMAL_FLOW", by decide, by decide⟩ ⟨10, 2⟩),
    .own (.inventoryEvent failure false 100),
    .own (.execute 1 2 ⟨.retry, some .inventoryPrimary, "TRANSIENT_RETRY", by decide, by decide⟩ ⟨12, 102⟩),
    .own (.dispatchAttempt 1 2 ⟨15, 602⟩), .extra failure true 700, .own (.timeoutCheck 1 15 2602)]

/-- The repeated failure silences the timeout of the retry. -/
theorem not_duplicates_unnoticed : ¬∀ (config : ExperimentConfig) (db : OrdersDb) (entries : List Entry),
    LongerRun.Always config LongerRun.repeats ⟨db, []⟩ entries →
      Unnoticed (db.performAll config (entries.filterMap Entry.own?))
        (LongerRun.performAll config ⟨db, []⟩ entries) := by
  intro claim
  have repeats : LongerRun.Always .pilot LongerRun.repeats ⟨.empty, []⟩ repeatedFailure := by decide +kernel
  have differs : (LongerRun.performAll .pilot ⟨.empty, []⟩ repeatedFailure).2 ≠
      (OrdersDb.empty.performAll .pilot (repeatedFailure.filterMap Entry.own?)).2 := by decide +kernel
  exact differs (claim .pilot .empty repeatedFailure repeats).2.2.2

/-- The equivalence on the run that loses the timeout. -/
theorem duplicates_unnoticed_iff_pilot :
    Unnoticed (OrdersDb.empty.performAll .pilot (repeatedFailure.filterMap Entry.own?))
        (LongerRun.performAll .pilot ⟨.empty, []⟩ repeatedFailure) ↔
      LongerRun.Always .pilot LongerRun.heard ⟨.empty, []⟩ repeatedFailure :=
  duplicates_unnoticed_iff .pilot .empty repeatedFailure (by decide +kernel)

end OrchLab
