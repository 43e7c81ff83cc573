import OrchLab.Soundness.Inventory.Samples

/-! # Recorded faults and real failures

A fault is sampled and recorded before the transaction that finds out whether the message was answered already.
So every record of a failure is matched by a failure that is stored, or that a worker is about to store, exactly
as long as no worker records a failure for an answered message and none dies between the record and its
transaction.
-/

namespace OrchLab

/-- The row holds an injected failure. -/
def ProcessedMessage.transient (row : ProcessedMessage) : Bool :=
  match row.response.payload with
  | .failed payload => payload.failureReason = .transientError
  | _ => false

/-- The failure a worker has recorded and not stored yet, by its message and task. -/
def InventoryWorker.pending? : InventoryWorker → Option (MessageId × TaskId)
  | .sampled request (some _) => some (request.messageId, request.taskId)
  | _ => none

namespace InventoryService

/-- The failures that `FAULT_APPLIED` records tell of. -/
def recordedFailures (s : InventoryService) : List (MessageId × TaskId) :=
  (s.faultEvents.filter (·.effect = FailureReason.transientError.value)).map fun record =>
    (record.messageId, record.taskId)

/-- The injected failures that are stored. -/
def storedFailures (s : InventoryService) : List (MessageId × TaskId) :=
  (s.db.processedMessages.rows.filter ProcessedMessage.transient).map fun row => (row.messageId, row.taskId)

/-- The failures that are about to be stored. -/
def pendingFailures (s : InventoryService) : List (MessageId × TaskId) :=
  [Target.inventoryPrimary, .inventoryFallback].filterMap fun route => (s.workers route).pending?

/-- Every recorded failure is stored or about to be, each once, and no other is. -/
def FaultsReal (s : InventoryService) : Prop :=
  s.recordedFailures.Perm (s.storedFailures ++ s.pendingFailures)

/-- The record tells of a failure of the message. -/
def RecordsFailure (message : MessageId) (record : FaultApplied) : Prop :=
  record.messageId = message ∧ record.effect = FailureReason.transientError.value

instance (message : MessageId) (record : FaultApplied) : Decidable (RecordsFailure message record) :=
  inferInstanceAs (Decidable (_ ∧ _))

/-- A failure is recorded for a message exactly when its stored reply is one, once, and for the task of the row. -/
structure RecordsReal (s : InventoryService) : Prop where
  stored : ∀ message, (∃ record ∈ s.faultEvents, RecordsFailure message record) ↔
    ∃ row, s.db.findProcessedMessage message = some row ∧ row.transient = true
  once : ∀ message, s.faultEvents.countP (fun record => RecordsFailure message record) ≤ 1
  task : ∀ message, ∀ record ∈ s.faultEvents, RecordsFailure message record →
    ∃ row, s.db.findProcessedMessage message = some row ∧ row.transient = true ∧ row.taskId = record.taskId

/-- A worker that has recorded a failure finds its message unanswered, and does not die before its transaction. -/
def StoresFailure (s : InventoryService) : InventoryLabel → Prop
  | .process route _ => ∀ request reason, s.workers route = .sampled request (some reason) →
      s.db.findProcessedMessage request.messageId = none
  | .stop route => ∀ request reason, s.workers route ≠ .sampled request (some reason)
  | _ => True

end InventoryService

namespace InventoryDb

variable {db db' : InventoryDb} {request reply : MessageEnvelope} {draw : Draw} {outcome : RequestOutcome}

/-- Without an injected failure none is stored. -/
theorem transient_of_processed
    (success : db.processReservationRequest request draw none = .ok (db', outcome, reply)) :
    db'.processedMessages.rows.filter ProcessedMessage.transient =
      db.processedMessages.rows.filter ProcessedMessage.transient := by
  have silent : ∀ {result : ProcessingResult} {reservation : Option Reservation},
      Stored db db' request draw result reply reservation → (∀ payload, reply.payload = .failed payload →
        payload.failureReason = .invalidData) → db'.processedMessages.rows.filter ProcessedMessage.transient =
          db.processedMessages.rows.filter ProcessedMessage.transient := by
    intro result reservation stored reason
    rw [stored.messages, List.filter_append, List.filter_singleton]
    have plain : ProcessedMessage.transient
        ⟨request.messageId, request.taskId, request.eventType, result, reply, draw.now⟩ = false := by
      rw [ProcessedMessage.transient]
      split
      · next payload failed => simp [reason payload failed]
      · rfl
    rw [plain]
    exact List.append_nil _
  have chosen : ∀ {payload}, request.payload = .requested payload →
      db.findProcessedMessage request.messageId = none →
        reply = replyTo request draw (db.choose request payload none).2.2 := by
    intro payload asked fresh
    simp only [processReservationRequest, asked, fresh] at success
    exact reply_of_reserve success
  obtain ⟨payload, asked⟩ : ∃ payload, request.payload = .requested payload := by
    rw [processReservationRequest] at success
    split at success
    · next payload asked => exact ⟨payload, asked⟩
    · cases success
  cases processed_of_ok success with
  | again => rfl
  | failed _ failed stored =>
    refine silent stored fun _ same => ?_
    cases same
    have answer := congrArg MessageEnvelope.payload (chosen asked stored.fresh)
    exact reason_of_choose answer.symm
  | existing _ _ _ stored | reserved _ _ _ _ stored =>
    refine silent stored fun _ same => ?_
    cases same

end InventoryDb

/-! ## The steps of the workers -/

namespace InventoryService

variable {sampled : Sampling} {s t : InventoryService} {route : Target} {worker : InventoryWorker}
  {key : MessageId × TaskId}

/-- A worker that has recorded nothing takes the place of another. -/
theorem pending_of_none (before : (s.workers route).pending? = none) (after : worker.pending? = none) :
    (s.setWorker route worker).pendingFailures = s.pendingFailures := by
  cases route <;> simp [pendingFailures, setWorker, List.filterMap_cons, before, after]

/-- What the workers hold, with that of one worker in front. -/
theorem exists_pendingFailures_perm (s : InventoryService) (route : Target) : ∃ others,
    s.pendingFailures.Perm ((s.workers route).pending?.toList ++ others) ∧
      ∀ worker, (s.setWorker route worker).pendingFailures.Perm (worker.pending?.toList ++ others) := by
  have pair : ∀ first second : Option (MessageId × TaskId),
      [first, second].filterMap id = first.toList ++ second.toList := by
    intro first second
    cases first <;> cases second <;> rfl
  cases route with
  | inventoryPrimary =>
    refine ⟨(s.workers .inventoryFallback).pending?.toList, ?_, fun worker => ?_⟩
    · exact .of_eq (pair _ _)
    · exact .of_eq (pair _ _)
  | inventoryFallback =>
    refine ⟨(s.workers .inventoryPrimary).pending?.toList, ?_, fun worker => ?_⟩
    · exact (List.Perm.of_eq (pair _ _)).trans List.perm_append_comm
    · exact (List.Perm.of_eq (pair _ _)).trans List.perm_append_comm

/-- A worker has recorded a failure. -/
theorem pending_of_some (before : (s.workers route).pending? = none) (after : worker.pending? = some key) :
    (s.setWorker route worker).pendingFailures.Perm (key :: s.pendingFailures) := by
  obtain ⟨others, held, holds⟩ := s.exists_pendingFailures_perm route
  have holds := holds worker
  rw [before] at held
  rw [after] at holds
  exact holds.trans (held.symm.cons key)

/-- A worker gives up the failure it has recorded. -/
theorem pending_of_cleared (before : (s.workers route).pending? = some key) (after : worker.pending? = none) :
    s.pendingFailures.Perm (key :: (s.setWorker route worker).pendingFailures) := by
  obtain ⟨others, held, holds⟩ := s.exists_pendingFailures_perm route
  have holds := holds worker
  rw [before] at held
  rw [after] at holds
  exact held.trans (holds.symm.cons key)

end InventoryService

/-! ## One record for one failure -/

namespace InventoryService

variable {sampled : Sampling} {s t : InventoryService}

/-- What a step does to the recorded, the stored and the pending failures. -/
inductive Settles (s t : InventoryService) (label : InventoryLabel) : Prop
  | same (recorded : t.recordedFailures = s.recordedFailures) (stored : t.storedFailures = s.storedFailures)
      (pending : t.pendingFailures = s.pendingFailures) (stores : s.StoresFailure label)
  | recorded (key : MessageId × TaskId) (recorded : t.recordedFailures = s.recordedFailures ++ [key])
      (stored : t.storedFailures = s.storedFailures) (pending : t.pendingFailures.Perm (key :: s.pendingFailures))
      (stores : s.StoresFailure label)
  | stored (key : MessageId × TaskId) (recorded : t.recordedFailures = s.recordedFailures)
      (stored : t.storedFailures = s.storedFailures ++ [key])
      (pending : s.pendingFailures.Perm (key :: t.pendingFailures)) (stores : s.StoresFailure label)
  | lost (key : MessageId × TaskId) (recorded : t.recordedFailures = s.recordedFailures)
      (stored : t.storedFailures = s.storedFailures) (pending : s.pendingFailures.Perm (key :: t.pendingFailures))
      (loses : ¬s.StoresFailure label)

/-- A failure is recorded when the worker takes the message; a delay is no failure. -/
private theorem settles_of_take {route : Target} (idle : s.workers route = .idle) (raw : RawEnvelope) :
    Settles s (s.take sampled route raw) (.take route raw) := by
  have before : (s.workers route).pending? = none := by
    rw [idle]
    rfl
  rw [take]
  split
  · exact .same rfl rfl rfl trivial
  · next request read =>
    rcases beforeReservation_cases sampled s.fault request with
      ⟨applied, samples, delay⟩ | ⟨record, samples, effect, message, task⟩
    · rw [samples]
      refine .same ?_ rfl (pending_of_none before rfl) trivial
      have quiet : applied.toList.filter (·.effect = FailureReason.transientError.value) = [] := by
        rw [List.filter_eq_nil_iff]
        intro record member
        simp [delay record (Option.mem_toList.mp member)]
      change (((s.faultEvents ++ applied.toList).filter _).map _) = _
      rw [List.filter_append, quiet, List.append_nil]
      rfl
    · rw [samples]
      refine .recorded (request.messageId, request.taskId) ?_ rfl (pending_of_some before rfl) trivial
      change (((s.faultEvents ++ [record]).filter _).map _) = _
      simp [recordedFailures, List.filter_append, effect, message, task]

/-- A transaction stores the recorded failure exactly when the message is unanswered. -/
private theorem settles_of_process (samples : s.SamplesRequests) {route : Target} {request : MessageEnvelope}
    {injected : Option FailureReason} (waiting : s.workers route = .sampled request injected) (draw : Draw) :
    Settles s (s.process route request injected draw) (.process route draw) := by
  have stores : s.StoresFailure (.process route draw) ↔
      ∀ reason, injected = some reason → s.db.findProcessedMessage request.messageId = none := by
    constructor
    · rintro unanswered reason rfl
      exact unanswered request reason waiting
    · intro unanswered other reason same
      cases waiting.symm.trans same
      exact unanswered reason rfl
  obtain ⟨asks, rfl | rfl⟩ := samples route request injected waiting
  · have before : (s.workers route).pending? = none := by
      rw [waiting]
      rfl
    rw [process]
    split
    · exact .same rfl rfl (pending_of_none before rfl) (stores.mpr (by simp))
    · next db outcome reply success =>
      refine .same rfl ?_ (pending_of_none (s := { s with db }) before rfl) (stores.mpr (by simp))
      exact congrArg (List.map _) (InventoryDb.transient_of_processed success)
  · have before : (s.workers route).pending? = some (request.messageId, request.taskId) := by
      rw [waiting]
      rfl
    rw [process]
    cases found : s.db.findProcessedMessage request.messageId with
    | some previous =>
      rw [InventoryDb.processReservationRequest_of_answered asks found]
      refine .lost _ rfl rfl (pending_of_cleared before rfl) fun unanswered => ?_
      cases found.symm.trans (stores.mp unanswered _ rfl)
    | none =>
      obtain ⟨db', outcome, payload, success, reason, rows⟩ :=
        InventoryDb.processReservationRequest_of_injected asks found draw .transientError
      rw [success]
      refine .stored (request.messageId, request.taskId) rfl ?_
        (pending_of_cleared (s := { s with db := db' }) before rfl) (stores.mpr fun _ _ => found)
      change ((db'.processedMessages.rows.filter _).map _) = _
      simp [storedFailures, rows, List.filter_append, ProcessedMessage.transient, replyTo, reason]

/-- A worker that dies takes the failure it has recorded with it. -/
private theorem settles_of_stop (s : InventoryService) (route : Target) :
    Settles s (s.setWorker route .idle) (.stop route) := by
  cases before : (s.workers route).pending? with
  | none =>
    refine .same rfl rfl (pending_of_none before rfl) fun request reason waiting => ?_
    rw [waiting] at before
    cases before
  | some key =>
    refine .lost key rfl rfl (pending_of_cleared before rfl) fun survives => ?_
    cases worker : s.workers route with
    | idle | answered request reply =>
      rw [worker] at before
      cases before
    | sampled request injected =>
      cases injected with
      | none =>
        rw [worker] at before
        cases before
      | some reason => exact survives request reason worker

theorem settles_of_step (samples : s.SamplesRequests) {label : InventoryLabel}
    (step : s.step sampled label = some t) : Settles s t label := by
  cases stepped_of_step step with
  | controlWritten | controlCleared => exact .same rfl rfl rfl trivial
  | taken route raw idle => exact settles_of_take idle raw
  | processed route draw request injected waiting => exact settles_of_process samples waiting draw
  | published route request reply answered =>
    refine .same rfl rfl ?_ trivial
    apply pending_of_none (s := { s with published := s.published ++ [Publication.mk request reply] }) _ rfl
    change (s.workers route).pending? = none
    rw [answered]
    rfl
  | stopped route busy => exact settles_of_stop s route

/-- A record was written for a failure that is neither stored nor about to be. -/
def RecordsTooMany (s : InventoryService) : Prop :=
  s.storedFailures.length + s.pendingFailures.length < s.recordedFailures.length

theorem RecordsTooMany.not_faultsReal (surplus : s.RecordsTooMany) : ¬s.FaultsReal := by
  intro real
  have same := real.length_eq
  rw [List.length_append] at same
  rw [RecordsTooMany] at surplus
  omega

namespace Settles

variable {label : InventoryLabel}

theorem faultsReal (settles : Settles s t label) (real : s.FaultsReal) (stores : s.StoresFailure label) :
    t.FaultsReal := by
  rw [FaultsReal]
  cases settles with
  | same recorded stored pending _ =>
    rw [recorded, stored, pending]
    exact real
  | recorded key recorded stored pending _ =>
    rw [recorded, stored]
    refine (real.append_right _).trans ?_
    rw [List.append_assoc]
    exact ((List.perm_append_singleton _ _).trans pending.symm).append_left _
  | stored key recorded stored pending _ =>
    rw [recorded, stored, List.append_assoc]
    exact real.trans (pending.append_left _)
  | lost _ _ _ _ loses => exact absurd stores loses

theorem recordsTooMany_of_real (settles : Settles s t label) (real : s.FaultsReal)
    (loses : ¬s.StoresFailure label) : t.RecordsTooMany := by
  cases settles with
  | same _ _ _ stores | recorded _ _ _ _ stores | stored _ _ _ _ stores => exact absurd stores loses
  | lost key recorded stored pending _ =>
    have before := real.length_eq
    have given := pending.length_eq
    rw [RecordsTooMany, recorded, stored]
    simp only [List.length_append, List.length_cons] at before given
    omega

theorem recordsTooMany (settles : Settles s t label) (surplus : s.RecordsTooMany) : t.RecordsTooMany := by
  rw [RecordsTooMany] at surplus ⊢
  cases settles with
  | same recorded stored pending _ =>
    rw [recorded, stored, pending]
    exact surplus
  | recorded key recorded stored pending _ =>
    have given := pending.length_eq
    simp only [recorded, stored, List.length_append, List.length_cons, List.length_nil] at given ⊢
    omega
  | stored key recorded stored pending _ | lost key recorded stored pending _ =>
    have given := pending.length_eq
    simp only [recorded, stored, List.length_append, List.length_cons, List.length_nil] at given ⊢
    omega

end Settles

/-! ## The records and the stored replies -/

/-- The records of failures by the message. -/
theorem mem_recordedFailures {message : MessageId} {task : TaskId} :
    (message, task) ∈ s.recordedFailures ↔
      ∃ record ∈ s.faultEvents, RecordsFailure message record ∧ record.taskId = task := by
  simp only [recordedFailures, List.mem_map, List.mem_filter, decide_eq_true_eq, Prod.mk.injEq, RecordsFailure]
  constructor
  · rintro ⟨record, ⟨member, effect⟩, message, task⟩
    exact ⟨record, member, ⟨message, effect⟩, task⟩
  · rintro ⟨record, member, ⟨message, effect⟩, task⟩
    exact ⟨record, ⟨member, effect⟩, message, task⟩

/-- The stored failures by the message. -/
theorem mem_storedFailures {message : MessageId} {task : TaskId} :
    (message, task) ∈ s.storedFailures ↔ ∃ row, s.db.findProcessedMessage message = some row ∧
      row.transient = true ∧ row.taskId = task := by
  simp only [storedFailures, List.mem_map, List.mem_filter, Prod.mk.injEq, InventoryDb.findProcessedMessage,
    Table.find?_eq_some_iff]
  constructor
  · rintro ⟨row, ⟨member, transient⟩, message, task⟩
    exact ⟨row, ⟨member, message⟩, transient, task⟩
  · rintro ⟨row, ⟨member, message⟩, transient, task⟩
    exact ⟨row, ⟨member, transient⟩, message, task⟩

/-- A message has as many recorded failures as it has records of one. -/
theorem count_recordedFailures (s : InventoryService) (message : MessageId) :
    (s.recordedFailures.map Prod.fst).count message =
      s.faultEvents.countP fun record => RecordsFailure message record := by
  rw [recordedFailures, List.map_map, List.count, List.countP_map, List.countP_filter]
  refine List.countP_congr fun record _ => ?_
  simp only [Function.comp_apply, Bool.and_eq_true, beq_iff_eq, decide_eq_true_eq]
  rfl

/-- A message is stored once. -/
theorem nodup_storedFailures (s : InventoryService) : (s.storedFailures.map Prod.fst).Nodup := by
  rw [storedFailures, List.map_map]
  exact s.db.processedMessages.unique.sublist (List.filter_sublist.map _)

/-- When nothing is about to be stored, the matched records are real. -/
theorem FaultsReal.recordsReal (real : s.FaultsReal) (quiet : s.pendingFailures = []) : s.RecordsReal := by
  rw [FaultsReal, quiet, List.append_nil] at real
  have task : ∀ message, ∀ record ∈ s.faultEvents, RecordsFailure message record →
      ∃ row, s.db.findProcessedMessage message = some row ∧ row.transient = true ∧
        row.taskId = record.taskId := by
    intro message record member failure
    have recorded := mem_recordedFailures.mpr ⟨record, member, failure, rfl⟩
    exact mem_storedFailures.mp (real.mem_iff.mp recorded)
  constructor
  · intro message
    constructor
    · rintro ⟨record, member, failure⟩
      obtain ⟨row, found, transient, -⟩ := task message record member failure
      exact ⟨row, found, transient⟩
    · rintro ⟨row, found, transient⟩
      have stored := mem_storedFailures.mpr ⟨row, found, transient, rfl⟩
      obtain ⟨record, member, failure, -⟩ := mem_recordedFailures.mp (real.mem_iff.mpr stored)
      exact ⟨record, member, failure⟩
  · intro message
    rw [← count_recordedFailures, (real.map Prod.fst).count_eq]
    exact List.nodup_iff_count_le_one.mp s.nodup_storedFailures message
  · exact task

/-- Real records are no more than the stored failures. -/
theorem RecordsReal.not_recordsTooMany (real : s.RecordsReal) : ¬s.RecordsTooMany := by
  have distinct : (s.recordedFailures.map Prod.fst).Nodup := by
    rw [List.nodup_iff_count_le_one]
    intro message
    rw [count_recordedFailures]
    exact real.once message
  have same : (s.recordedFailures.map Prod.fst).Perm (s.storedFailures.map Prod.fst) := by
    rw [List.perm_ext_iff_of_nodup distinct s.nodup_storedFailures]
    intro message
    have matched := real.stored message
    simp only [List.mem_map, Prod.exists, exists_and_right, exists_eq_right, mem_recordedFailures,
      mem_storedFailures]
    constructor
    · rintro ⟨_, record, member, failure, -⟩
      obtain ⟨row, found, transient⟩ := matched.mp ⟨record, member, failure⟩
      exact ⟨_, row, found, transient, rfl⟩
    · rintro ⟨_, row, found, transient, -⟩
      obtain ⟨record, member, failure⟩ := matched.mpr ⟨row, found, transient⟩
      exact ⟨_, record, member, failure, rfl⟩
  have lengths := same.length_eq
  simp only [List.length_map] at lengths
  rw [RecordsTooMany]
  omega

end InventoryService

section Runs

variable {sampled : Sampling} {stock : List String} {s : InventoryService}
  {moments : List (InventoryService × InventoryLabel)}

/-- Along a run every recorded failure is stored or about to be, or there is a surplus of records that stays. -/
theorem faultsReal_or_recordsTooMany (run : Machine.Run (inventoryMachine sampled stock) moments s) :
    (∀ moment ∈ moments, moment.1.StoresFailure moment.2) ∧ s.FaultsReal ∨
      (¬∀ moment ∈ moments, moment.1.StoresFailure moment.2) ∧ s.RecordsTooMany := by
  induction run with
  | nil => exact .inl ⟨by simp, .refl _⟩
  | @snoc moments s t label before offered step ih =>
    have settles := InventoryService.settles_of_step (reachable_samplesRequests before.reachable) step
    simp only [List.forall_mem_append, List.forall_mem_singleton]
    rcases ih with ⟨earlier, real⟩ | ⟨earlier, surplus⟩
    · by_cases stores : s.StoresFailure label
      · exact .inl ⟨⟨earlier, stores⟩, settles.faultsReal real stores⟩
      · exact .inr ⟨fun both => stores both.2, settles.recordsTooMany_of_real real stores⟩
    · exact .inr ⟨fun both => earlier both.1, settles.recordsTooMany surplus⟩

/-- Under any deliveries and movements of the fault, the records of failures match the failures that are stored
or about to be exactly when every worker that recorded a failure found its message unanswered and lived to store
it. When no failure is about to be stored, that is: a failure is recorded for a message exactly when its stored
reply is one, once, and for a task whose request failed. -/
theorem faults_real_iff (run : Machine.Run (inventoryMachine sampled stock) moments s) :
    (s.FaultsReal ↔ ∀ moment ∈ moments, moment.1.StoresFailure moment.2) ∧
    (s.pendingFailures = [] → (s.RecordsReal ↔ ∀ moment ∈ moments, moment.1.StoresFailure moment.2)) := by
  rcases faultsReal_or_recordsTooMany run with ⟨stores, real⟩ | ⟨loses, surplus⟩
  · exact ⟨iff_of_true real stores, fun quiet => iff_of_true (real.recordsReal quiet) stores⟩
  · exact ⟨iff_of_false surplus.not_faultsReal loses,
      fun _ => iff_of_false (fun real => real.not_recordsTooMany surplus) loses⟩

end Runs

/-! ## A fault after the answer -/

/-- A request is answered, the fault opens, and the request comes again. -/
def redeliveryUnderFault : List InventoryLabel :=
  [.take .inventoryPrimary (requestFor 10 .inventoryPrimary).modelDump, .process .inventoryPrimary ⟨20, 3⟩,
    .publish .inventoryPrimary, .writeControl .always,
    .take .inventoryPrimary (requestFor 10 .inventoryPrimary).modelDump, .process .inventoryPrimary ⟨21, 4⟩,
    .publish .inventoryPrimary]

/-- The second delivery leaves the record of a failure although its reply is the stored success. -/
theorem not_faults_real : ¬∀ (sampled : Sampling) (stock : List String) (s : InventoryService),
    (inventoryMachine sampled stock).Reachable s → s.pendingFailures = [] → s.RecordsReal := by
  intro claim
  obtain ⟨s, reachable, passes⟩ := Machine.exists_reachable_of_replay?
    (m := inventoryMachine (fun _ _ _ _ => true) ["SKU-001"]) redeliveryUnderFault
    (p := fun s => decide (s.pendingFailures = []) &&
      s.faultEvents.any (fun record => InventoryService.RecordsFailure 10 record) &&
        (s.db.findProcessedMessage 10).any fun row => !row.transient) (by decide +kernel)
  simp only [Bool.and_eq_true, decide_eq_true_eq, List.any_eq_true, Option.any_eq_true, Bool.not_eq_true'] at passes
  obtain ⟨⟨quiet, recorded⟩, row, found, success⟩ := passes
  obtain ⟨row', found', transient⟩ := ((claim _ _ s reachable quiet).stored 10).mp recorded
  cases found.symm.trans found'
  rw [success] at transient
  cases transient

/-- The equivalence along the run whose failure is stored before its worker dies. -/
theorem faults_real_iff_of_failure : ∃ moments s,
    Machine.Run (inventoryMachine (fun _ _ _ _ => true) ["SKU-001"]) moments s ∧ s.recordedFailures = [(10, 1)] ∧
      (s.RecordsReal ↔ ∀ moment ∈ moments, moment.1.StoresFailure moment.2) := by
  obtain ⟨s, run, passes⟩ := Machine.exists_run_of_replay?
    (m := inventoryMachine (fun _ _ _ _ => true) ["SKU-001"]) failureThenFallback
    (p := fun s => decide (s.pendingFailures = []) && decide (s.recordedFailures = [(10, 1)])) (by decide +kernel)
  simp only [Bool.and_eq_true, decide_eq_true_eq] at passes
  exact ⟨_, s, run, passes.2, (faults_real_iff run).2 passes.1⟩

end OrchLab
