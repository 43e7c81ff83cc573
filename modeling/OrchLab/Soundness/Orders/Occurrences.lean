import OrchLab.Soundness.Orders.Results
import OrchLab.ToMathlib.FirstOccurrences

/-! # Distinct occurrences

The recent events of a state are the rows of a task that repeat no message recorded before, for any task.
No two tasks share a message, so a task's own rows decide, and each move adds its rows to the occurrences
unless it records a repeated event.
-/

namespace OrchLab

/-- The rows that repeat no message of an earlier row. -/
def occurrences (events : List TaskEvent) : List TaskEvent :=
  events.filter fun event => !events.any fun earlier =>
    event.messageId.isSome && earlier.messageId = event.messageId && earlier.eventId < event.eventId

/-- Two rows that name one message are of one task. -/
theorem Ledger.taskId_eq {s : OrdersService} (ledger : Ledger s) {row other : TaskEvent}
    (here : row ∈ s.db.taskEvents.rows) (there : other ∈ s.db.taskEvents.rows) {message : MessageId}
    (names : row.messageId = some message) (also : other.messageId = some message) :
    row.taskId = other.taskId := by
  rcases ledger.logged row here message names with ⟨request, asked, rfl, task⟩ | ⟨event, heard, rfl, task⟩ <;>
    rcases ledger.logged other there _ also with ⟨request', asked', same, task'⟩ | ⟨event', heard', same, task'⟩
  · obtain rfl := List.inj_on_of_nodup_map ledger.requests asked' asked same
    exact task.symm.trans task'
  · exact absurd same.symm (ledger.apart event' heard' request asked)
  · exact absurd same (ledger.apart event heard request' asked')
  · obtain rfl := ledger.unique event heard event' heard' same
    exact task.symm.trans task'

theorem distinctOccurrences_eq {s : OrdersService} (ledger : Ledger s) {task : TaskId} {file : TaskFile}
    (found : s.file? task = some file) : s.db.distinctOccurrences task = occurrences file.events := by
  rw [(file?_eq_some_iff.mp found).2.2.1, OrdersDb.distinctOccurrences, occurrences]
  refine List.filter_congr fun event member => congrArg Bool.not ?_
  obtain ⟨here, own⟩ := OrdersDb.mem_trajectory.mp member
  rw [Bool.eq_iff_iff, List.any_eq_true, List.any_eq_true]
  constructor
  · rintro ⟨earlier, there, repeats⟩
    simp only [Bool.and_eq_true, decide_eq_true_eq] at repeats
    obtain ⟨message, names⟩ := Option.isSome_iff_exists.mp repeats.1.1
    have task := ledger.taskId_eq there here (repeats.1.2.trans names) names
    exact ⟨earlier, OrdersDb.mem_trajectory.mpr ⟨there, task.trans own⟩, by simpa using repeats⟩
  · rintro ⟨earlier, there, repeats⟩
    exact ⟨earlier, (OrdersDb.mem_trajectory.mp there).1, repeats⟩

/-- In the order of their numbers, the rows that repeat no message are those that occur. -/
theorem occurrences_eq {events : List TaskEvent} (ordered : events.Pairwise (·.eventId < ·.eventId)) :
    occurrences events = firstOccurrences (·.messageId) events := by
  induction events using List.reverseRecOn with
  | nil => rfl
  | append_singleton events row ih =>
    obtain ⟨before, -, behind⟩ := List.pairwise_append.mp ordered
    have later : ∀ event ∈ events, event.eventId < row.eventId := fun event member =>
      behind event member row (List.mem_singleton_self _)
    have old : (events.filter fun event => !(events ++ [row]).any fun earlier =>
        event.messageId.isSome && earlier.messageId = event.messageId && earlier.eventId < event.eventId) =
          occurrences events := by
      refine List.filter_congr fun event member => ?_
      have apart : ¬row.eventId < event.eventId := (later event member).not_gt
      simp [apart]
    have new : ((events ++ [row]).any fun earlier => row.messageId.isSome && earlier.messageId = row.messageId &&
        earlier.eventId < row.eventId) = repeatsKey (·.messageId) events row := by
      rw [List.any_append, List.any_cons, List.any_nil, repeatsKey, List.and_any_distrib_left]
      simp only [lt_irrefl, decide_false, Bool.and_false, Bool.or_false]
      rw [Bool.eq_iff_iff, List.any_eq_true, List.any_eq_true]
      refine exists_congr fun earlier => and_congr_right fun member => ?_
      simp [later earlier member]
    rw [firstOccurrences_concat, ← ih before, occurrences, List.filter_append, old, List.filter_singleton, new]
    cases repeatsKey (·.messageId) events row with
    | false => rfl
    | true => exact List.append_nil _

/-! ## Appending rows -/

theorem pairwise_numbered {R : EventColumns → EventColumns → Prop} {columns : List EventColumns} (n : ℕ)
    (pairs : columns.Pairwise R) : (numbered n columns).Pairwise fun a b =>
      R a.toEventColumns b.toEventColumns ∧ a.eventId < b.eventId := by
  induction columns generalizing n with
  | nil => exact .nil
  | cons first rest ih =>
    rw [List.pairwise_cons] at pairs
    refine List.pairwise_cons.mpr ⟨fun later member => ?_, ih (n + 1) pairs.2⟩
    exact ⟨pairs.1 later.toEventColumns (mem_of_mem_numbered member), lt_of_mem_numbered member⟩

theorem map_numbered (n : ℕ) (columns : List EventColumns) :
    (numbered n columns).map (·.toEventColumns) = columns := by
  induction columns generalizing n with
  | nil => rfl
  | cons _ _ ih => rw [numbered, List.map_cons, ih]

/-- Rows of which at most one names a message name each message once. -/
theorem eq_of_once {columns : List EventColumns} {n : ℕ}
    (once : columns.Pairwise fun a b => a.messageId = none ∨ b.messageId = none) {row other : TaskEvent}
    (here : row ∈ numbered n columns) (there : other ∈ numbered n columns) {message : MessageId}
    (names : row.messageId = some message) (also : other.messageId = some message) : row = other := by
  by_contra apart
  have pairs := (pairwise_numbered n once).imp And.left
  have : Std.Symm fun a b : TaskEvent => a.messageId = none ∨ b.messageId = none := ⟨fun _ _ => Or.symm⟩
  rcases pairs.forall here there apart with none | none
  · simp [names] at none
  · simp [also] at none

section Append

variable {events : List TaskEvent} {n : ℕ} (old : ∀ event ∈ events, event.eventId ≤ n)
  {columns : List EventColumns}
include old

/-- Later rows do not make an earlier one a repetition. -/
private theorem occurrences_append (columns : List EventColumns) :
    occurrences (events ++ numbered n columns) = occurrences events ++
      (numbered n columns).filter fun event => !(events ++ numbered n columns).any fun earlier =>
        event.messageId.isSome && earlier.messageId = event.messageId && earlier.eventId < event.eventId := by
  rw [occurrences, List.filter_append]
  congr 1
  refine List.filter_congr fun event member => congrArg Bool.not ?_
  rw [List.any_append, Bool.or_eq_left_iff_imp, List.any_eq_true]
  rintro ⟨later, added, repeats⟩
  simp only [Bool.and_eq_true, decide_eq_true_eq] at repeats
  exact absurd (repeats.2.trans_le (old event member)) (lt_of_mem_numbered added).not_gt

/-- Rows that name no message known before all occur. -/
theorem occurrences_append_of_fresh (fresh : ∀ event ∈ columns, ∀ message, event.messageId = some message →
      ∀ earlier ∈ events, earlier.messageId ≠ some message)
    (once : columns.Pairwise fun a b => a.messageId = none ∨ b.messageId = none) :
    occurrences (events ++ numbered n columns) = occurrences events ++ numbered n columns := by
  rw [occurrences_append old]
  congr 1
  refine List.filter_eq_self.mpr fun event added => ?_
  rw [Bool.not_eq_true', List.any_eq_false]
  rintro earlier member repeats
  simp only [Bool.and_eq_true, decide_eq_true_eq] at repeats
  obtain ⟨message, names⟩ := Option.isSome_iff_exists.mp repeats.1.1
  rcases List.mem_append.mp member with before | also
  · exact fresh event.toEventColumns (mem_of_mem_numbered added) message names earlier before
      (repeats.1.2.trans names)
  · obtain rfl := eq_of_once once also added (repeats.1.2.trans names) names
    exact lt_irrefl _ repeats.2

/-- A row that names a message known before does not occur. -/
theorem occurrences_append_of_known {event : EventColumns} {message : MessageId}
    (names : event.messageId = some message) (known : ∃ earlier ∈ events, earlier.messageId = some message) :
    occurrences (events ++ numbered n [event]) = occurrences events := by
  rw [occurrences_append old, List.filter_eq_nil_iff.mpr, List.append_nil]
  intro row added
  obtain rfl := List.mem_singleton.mp added
  obtain ⟨earlier, member, same⟩ := known
  rw [Bool.not_eq_true', Bool.not_eq_false, List.any_eq_true]
  refine ⟨earlier, List.mem_append_left _ member, ?_⟩
  simp [names, same, Nat.lt_succ_of_le (old earlier member)]

end Append

/-- What a move publishes is published under a fresh identifier. -/
theorem Happens.fresh {deployment : Deployment} {s : OrdersService} {row row' : TaskRow} {opens : Bool}
    {label : OrdersLabel} {draw : Draw} {cause : Cause} {columns : List EventColumns} {effects : List Effect}
    {point point' : DecisionPoint} {executed : List Execution}
    (happens : Happens deployment s row opens label draw cause point point' executed)
    (move : Move deployment.config s.db draw row cause row' columns effects opens)
    {request : MessageEnvelope} (asked : request ∈ effects.filterMap Effect.request?) :
    request.messageId = draw.messageId ∧ s.freshMessage draw.messageId := by
  constructor
  · rcases move.requests with none | ⟨only, one, same, -⟩
    · rw [none] at asked
      cases asked
    · rw [one] at asked
      obtain rfl := List.mem_singleton.mp asked
      exact same
  · cases happens with
    | message _ _ _ _ fresh => exact fresh
    | decision _ _ _ _ _ _ _ _ _ _ _ _ fresh => exact fresh
    | deadLetter => cases move <;> cases asked

/-- The row repeats a message of an earlier row of the task, at its position. -/
def TaskFile.Repeats (file : TaskFile) (columns : List EventColumns) : Prop :=
  ∃ column message, columns = [column] ∧ column.messageId = some message ∧
    ∃ earlier ∈ file.events, earlier.messageId = some message ∧ earlier.eventSeq = column.eventSeq

/-- The rows take the next positions of the task, for messages it does not know. -/
structure TaskFile.Continues (file : TaskFile) (row' : TaskRow) (columns : List EventColumns) : Prop where
  positions : columns.map (·.eventSeq) = List.range' (file.row.currentEventSeq + 1) columns.length
  eventSeq : row'.currentEventSeq = file.row.currentEventSeq + columns.length
  fresh : ∀ event ∈ columns, ∀ message, event.messageId = some message →
    ∀ earlier ∈ file.events, earlier.messageId ≠ some message
  once : columns.Pairwise fun a b => a.messageId = none ∨ b.messageId = none

/-- The cause is an event that was processed before. -/
def Cause.Repeats (db : OrdersDb) : Cause → Prop
  | .message (.inventoryEvent event) => db.isEventProcessed event.messageId = true
  | _ => False

section Move

variable {deployment : Deployment} {s : OrdersService} {task : TaskId} {file : TaskFile} {opens : Bool}
  {label : OrdersLabel} {draw : Draw} {cause : Cause} {row' : TaskRow} {columns : List EventColumns}
  {effects : List Effect} {point : DecisionPoint} {executed : List Execution}

/-- A move for a processed event records a repetition of an unmarked row. -/
theorem repeats_of_processed (ledger : Ledger s) (found : s.file? task = some file)
    (move : Move deployment.config s.db draw file.row cause row' columns effects opens)
    (happens : Happens deployment s file.row opens label draw cause file.point point executed)
    (repeats : cause.Repeats s.db) : row' = file.row ∧ effects = [] ∧
      ∃ column message, columns = [column] ∧ column.messageId = some message ∧
        ∃ earlier ∈ file.events, earlier.messageId = some message ∧ earlier.eventSeq = column.eventSeq ∧
          earlier.redelivered = false := by
  have trajectory := (file?_eq_some_iff.mp found).2.2.1
  have own := OrdersService.taskId_of_file found
  cases move with
  | repeated event eventSeq about processed known =>
    obtain ⟨row, here, position⟩ := Option.map_eq_some_iff.mp known
    obtain ⟨names, unmarked⟩ : row.messageId = some event.messageId ∧ row.redelivered = false := by
      have holds := List.find?_some here
      simpa only [Bool.and_eq_true, decide_eq_true_eq, Bool.not_eq_true'] using holds
    refine ⟨rfl, rfl, _, event.messageId, rfl, rfl, row, ?_, names, position, unmarked⟩
    have stored := List.mem_of_find?_eq_some here
    rw [trajectory, OrdersDb.mem_trajectory]
    refine ⟨stored, ?_⟩
    generalize file.point = openPoint at happens
    cases happens with
    | message _ _ _ promised =>
      rcases ledger.logged row stored _ names with ⟨request, asked, same, -⟩ | ⟨other, heard, same, task⟩
      · exact absurd same (promised.2.1 request asked)
      · rw [← task, promised.2.2 other heard same, about, own]
  | inert _ _ _ unprocessed | failed _ _ _ _ unprocessed | completed _ _ _ _ unprocessed =>
    simp [Cause.Repeats, unprocessed] at repeats
  | timedOut | waitOver | retryDispatched | continued | retried | waited | fellBack | aborted | deadLettered
  | deadLetterLogged => cases repeats

/-- Every other move continues the trajectory. -/
theorem continues_of_fresh (ledger : Ledger s) (found : s.file? task = some file)
    (move : Move deployment.config s.db draw file.row cause row' columns effects opens)
    (happens : Happens deployment s file.row opens label draw cause file.point point executed)
    (new : ¬cause.Repeats s.db) : file.Continues row' columns := by
  have trajectory := (file?_eq_some_iff.mp found).2.2.1
  have logged : ∀ row ∈ file.events, ∀ message, row.messageId = some message →
      (∃ request ∈ s.requests, request.messageId = message) ∨ ∃ event ∈ s.received, event.messageId = message := by
    intro row member message names
    rw [trajectory] at member
    rcases ledger.logged row (OrdersDb.mem_trajectory.mp member).1 message names with
      ⟨request, asked, same, -⟩ | ⟨event, heard, same, -⟩
    · exact .inl ⟨request, asked, same⟩
    · exact .inr ⟨event, heard, same⟩
  have fresh : ∀ event ∈ columns, ∀ message, event.messageId = some message →
      ∀ earlier ∈ file.events, earlier.messageId ≠ some message := by
    intro event member message names earlier before also
    rcases move.columns_messageId event member message names with ⟨reply, rfl, rfl⟩ | ⟨request, asked, rfl⟩
    · have promised : s.deliverable (.inventoryEvent reply) := by
        generalize file.point = openPoint at happens
        cases happens with
        | message _ _ _ promised => exact promised
      rcases logged earlier before _ also with ⟨request, asked, same⟩ | ⟨event, heard, same⟩
      · exact promised.2.1 request asked same
      · exact new ((ledger.processed reply.messageId).mpr ⟨event, heard, same⟩)
    · obtain ⟨drawn, free⟩ := happens.fresh move asked
      rw [drawn] at also
      rcases logged earlier before _ also with ⟨request, asked, same⟩ | ⟨event, heard, same⟩
      · exact free.1 request asked same
      · exact free.2 event heard same
  cases move with
  | repeated event eventSeq about processed known => exact absurd processed new
  | inert | failed | timedOut | waitOver | retryDispatched | continued | retried | waited | aborted
  | deadLettered | deadLetterLogged => exact ⟨rfl, rfl, fresh, List.pairwise_singleton ..⟩
  | completed | fellBack => exact ⟨rfl, rfl, fresh, by simp [internalColumns]⟩

/-- A move records a repetition and leaves the row of the task alone, or its rows continue the trajectory. -/
theorem repeats_or_continues (ledger : Ledger s) (found : s.file? task = some file)
    (move : Move deployment.config s.db draw file.row cause row' columns effects opens)
    (happens : Happens deployment s file.row opens label draw cause file.point point executed) :
    (row' = file.row ∧ effects = [] ∧ file.Repeats columns) ∨ file.Continues row' columns := by
  by_cases repeats : cause.Repeats s.db
  · obtain ⟨same, quiet, column, message, one, names, earlier, member, also, position, -⟩ :=
      repeats_of_processed ledger found move happens repeats
    exact .inl ⟨same, quiet, column, message, one, names, earlier, member, also, position⟩
  · exact .inr (continues_of_fresh ledger found move happens repeats)

/-- The rows of a move occur, or it records a repetition and leaves the row of the task alone. -/
theorem occurrences_of_move (ledger : Ledger s) (found : s.file? task = some file)
    (move : Move deployment.config s.db draw file.row cause row' columns effects opens)
    (happens : Happens deployment s file.row opens label draw cause file.point point executed) :
    (row' = file.row ∧ effects = [] ∧
        occurrences (file.events ++ numbered s.db.taskEvents.rows.length columns) =
          occurrences file.events) ∨
      row'.currentEventSeq = file.row.currentEventSeq + columns.length ∧
        occurrences (file.events ++ numbered s.db.taskEvents.rows.length columns) =
          occurrences file.events ++ numbered s.db.taskEvents.rows.length columns := by
  have old := OrdersService.eventId_le_of_file found
  rcases repeats_or_continues ledger found move happens with
    ⟨same, quiet, column, message, rfl, names, earlier, member, also, -⟩ | continues
  · exact .inl ⟨same, quiet, occurrences_append_of_known old names ⟨earlier, member, also⟩⟩
  · exact .inr ⟨continues.eventSeq, occurrences_append_of_fresh old continues.fresh continues.once⟩

end Move

end OrchLab
