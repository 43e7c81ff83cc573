import OrchLab.Model.Scripts.Traceability
import OrchLab.ToMathlib.FirstOccurrences

/-! # The trajectories the gate accepts

After a mismatch the scan goes on from the position it has read, and it passes over a repetition without looking at
the position it expects. An error it has found stays, and while there is none the position it expects is the next
one, so no two mismatches make up for each other: the scan finds no error in the well-formed trajectories alone.
-/

namespace OrchLab

/-- The events that are no later occurrences of a message. -/
abbrev distinctEvents (rows : List TaskEventRecord) : List TaskEventRecord := firstOccurrences (·.messageId) rows

/-- The first event of a message. -/
def firstOf? (message : MessageId) (rows : List TaskEventRecord) : Option TaskEventRecord :=
  rows.find? fun row => row.messageId = some message

/-- The events that repeat no message have the positions `1, 2, …, n`, and those of one message have one position. -/
structure Positioned (rows : List TaskEventRecord) : Prop where
  consecutive : (distinctEvents rows).map (·.eventSeq) =
    (List.range (distinctEvents rows).length).map fun index : ℕ => (index + 1 : ℤ)
  repeated : ∀ row ∈ rows, ∀ message first, row.messageId = some message → firstOf? message rows = some first →
    row.eventSeq = first.eventSeq

/-- A trajectory begins with the creation of its task, and its positions are in order. -/
structure WellFormedTrajectory (rows : List TaskEventRecord) : Prop extends Positioned rows where
  created : rows.head?.map (·.eventType) = some .taskCreated

/-! ## One event more -/

section Concat

variable {rows : List TaskEventRecord} {row : TaskEventRecord}

theorem firstOf?_concat (message : MessageId) : firstOf? message (rows ++ [row]) =
    (firstOf? message rows).or (if row.messageId = some message then some row else none) := by
  rw [firstOf?, List.find?_append, List.find?_singleton, firstOf?]
  simp only [decide_eq_true_eq]

theorem firstOf?_eq_none_iff {message : MessageId} :
    firstOf? message rows = none ↔ ∀ row ∈ rows, row.messageId ≠ some message := by
  simp [firstOf?]

theorem mem_of_firstOf? {message : MessageId} {first : TaskEventRecord} (known : firstOf? message rows = some first) :
    first ∈ rows ∧ first.messageId = some message := by
  refine ⟨List.mem_of_find?_eq_some known, ?_⟩
  simpa using List.find?_some known

/-- Events of one message have one position with one event more if they have without it, and the new event has it. -/
private theorem repeated_concat_iff :
    (∀ event ∈ rows ++ [row], ∀ message first, event.messageId = some message →
        firstOf? message (rows ++ [row]) = some first → event.eventSeq = first.eventSeq) ↔
      (∀ event ∈ rows, ∀ message first, event.messageId = some message → firstOf? message rows = some first →
        event.eventSeq = first.eventSeq) ∧
      ∀ message first, row.messageId = some message → firstOf? message rows = some first →
        row.eventSeq = first.eventSeq := by
  have kept : ∀ {message first}, firstOf? message rows = some first →
      firstOf? message (rows ++ [row]) = some first := by
    intro message first known
    rw [firstOf?_concat, known, Option.some_or]
  constructor
  · intro holds
    refine ⟨fun event member message first names known => ?_, fun message first names known => ?_⟩
    · exact holds event (List.mem_append_left _ member) message first names (kept known)
    · exact holds row (List.mem_append_right _ (List.mem_singleton_self _)) message first names (kept known)
  · rintro ⟨before, new⟩ event member message first names known
    cases earlier : firstOf? message rows with
    | some other =>
      obtain rfl : other = first := Option.some_inj.mp ((kept earlier).symm.trans known)
      rcases List.mem_append.mp member with old | last
      · exact before event old message other names earlier
      · obtain rfl := List.mem_singleton.mp last
        exact new message other names earlier
    | none =>
      rcases List.mem_append.mp member with old | last
      · exact absurd names (firstOf?_eq_none_iff.mp earlier event old)
      · obtain rfl := List.mem_singleton.mp last
        rw [firstOf?_concat, earlier, Option.none_or, if_pos names, Option.some_inj] at known
        rw [known]

theorem distinctEvents_of_repeats {message : MessageId} {first : TaskEventRecord}
    (names : row.messageId = some message) (known : firstOf? message rows = some first) :
    distinctEvents (rows ++ [row]) = distinctEvents rows := by
  have repeats : repeatsKey (·.messageId) rows row = true := by
    rw [repeatsKey_of_some names]
    exact Option.isSome_of_eq_some known
  rw [distinctEvents, firstOccurrences_concat, if_pos repeats]

theorem distinctEvents_of_fresh (fresh : row.messageId.bind (firstOf? · rows) = none) :
    distinctEvents (rows ++ [row]) = distinctEvents rows ++ [row] := by
  have new : repeatsKey (·.messageId) rows row = false := by
    cases names : row.messageId with
    | none => exact repeatsKey_of_none names
    | some message =>
      rw [names, Option.bind_some] at fresh
      rw [repeatsKey_of_some names]
      exact congrArg Option.isSome fresh
  rw [distinctEvents, firstOccurrences_concat, new, if_neg Bool.false_ne_true]

/-- A repetition has to carry the position of the first occurrence. -/
theorem positioned_concat_of_repeats {message : MessageId} {first : TaskEventRecord}
    (names : row.messageId = some message) (known : firstOf? message rows = some first) :
    Positioned (rows ++ [row]) ↔ Positioned rows ∧ row.eventSeq = first.eventSeq := by
  have same := distinctEvents_of_repeats names known
  constructor
  · rintro ⟨consecutive, repeated⟩
    obtain ⟨before, new⟩ := repeated_concat_iff.mp repeated
    exact ⟨⟨same ▸ consecutive, before⟩, new message first names known⟩
  · rintro ⟨⟨consecutive, repeated⟩, position⟩
    refine ⟨same.symm ▸ consecutive, repeated_concat_iff.mpr ⟨repeated, fun message' first' names' known' => ?_⟩⟩
    obtain rfl : message = message' := Option.some_inj.mp (names.symm.trans names')
    obtain rfl : first = first' := Option.some_inj.mp (known.symm.trans known')
    exact position

/-- Any other event has to carry the next position. -/
theorem positioned_concat_of_fresh (fresh : row.messageId.bind (firstOf? · rows) = none) :
    Positioned (rows ++ [row]) ↔ Positioned rows ∧ row.eventSeq = (distinctEvents rows).length + 1 := by
  have unknown : ∀ message first, row.messageId = some message → firstOf? message rows = some first →
      row.eventSeq = first.eventSeq := by
    intro message first names known
    rw [names, Option.bind_some, known] at fresh
    cases fresh
  have positions : ((distinctEvents (rows ++ [row])).map (·.eventSeq) =
      (List.range (distinctEvents (rows ++ [row])).length).map fun index : ℕ => (index + 1 : ℤ)) ↔
        (distinctEvents rows).map (·.eventSeq) =
            (List.range (distinctEvents rows).length).map (fun index : ℕ => (index + 1 : ℤ)) ∧
          row.eventSeq = (distinctEvents rows).length + 1 := by
    rw [distinctEvents_of_fresh fresh, List.map_append, List.length_append, List.length_singleton,
      List.range_succ, List.map_append, List.append_eq_append_iff_of_size_eq_right (by simp)]
    simp
  constructor
  · rintro ⟨consecutive, repeated⟩
    obtain ⟨before, position⟩ := positions.mp consecutive
    exact ⟨⟨before, (repeated_concat_iff.mp repeated).1⟩, position⟩
  · rintro ⟨⟨consecutive, repeated⟩, position⟩
    exact ⟨positions.mpr ⟨consecutive, position⟩, repeated_concat_iff.mpr ⟨repeated, unknown⟩⟩

end Concat

/-! ## The scan -/

namespace SeqScan

variable {task : TaskId} {scan : SeqScan} {row : TaskEventRecord}

theorem event_of_repeats {message : MessageId} {first : ℤ} (names : row.messageId = some message)
    (known : scan.firstSeq.get? message = some first) : scan.event task row =
      if row.eventSeq ≠ first then { scan with errors := scan.errors ++ [.repeatedWithNewSeq task message] }
      else scan := by
  simp only [SeqScan.event, names, Option.bind_some, known]

theorem event_of_fresh (fresh : row.messageId.bind scan.firstSeq.get? = none) : scan.event task row =
    { firstSeq := row.messageId.elim scan.firstSeq fun message => scan.firstSeq.set message row.eventSeq
      expected := row.eventSeq + 1
      errors := if row.eventSeq ≠ scan.expected then
          scan.errors ++ [.unexpectedSeq task row.eventSeq scan.expected]
        else scan.errors } := by
  simp only [SeqScan.event, fresh]

/-- What the scan knows of the events it has passed: where the first of each message is, whether their positions are
in order, and as long as they are the next position. -/
structure Knows (scan : SeqScan) (rows : List TaskEventRecord) : Prop where
  firstSeq : ∀ message, scan.firstSeq.get? message = (firstOf? message rows).map (·.eventSeq)
  accepts : scan.errors = [] ↔ Positioned rows
  expected : Positioned rows → scan.expected = (distinctEvents rows).length + 1

/-- The scan of one event more. -/
theorem Knows.event {rows : List TaskEventRecord} (knows : scan.Knows rows) (task : TaskId) (row : TaskEventRecord) :
    (scan.event task row).Knows (rows ++ [row]) := by
  cases repeats : row.messageId.bind (firstOf? · rows) with
  | some first =>
    obtain ⟨message, names, known⟩ := Option.bind_eq_some_iff.mp repeats
    have position : scan.firstSeq.get? message = some first.eventSeq := by
      rw [knows.firstSeq, known, Option.map_some]
    have positioned := positioned_concat_of_repeats names known
    rw [event_of_repeats names position]
    have firstSeq : ∀ message, scan.firstSeq.get? message = (firstOf? message (rows ++ [row])).map (·.eventSeq) := by
      intro other
      rw [knows.firstSeq, firstOf?_concat]
      split_ifs with same
      · obtain rfl : message = other := Option.some_inj.mp (names.symm.trans same)
        rw [known, Option.some_or]
      · rw [Option.or_none]
    have count : (distinctEvents (rows ++ [row])).length = (distinctEvents rows).length := by
      rw [distinctEvents_of_repeats names known]
    split_ifs with mismatch
    · refine ⟨firstSeq, iff_of_false (by simp) fun later => mismatch (positioned.mp later).2, fun later => ?_⟩
      exact absurd (positioned.mp later).2 mismatch
    · rw [not_not] at mismatch
      refine ⟨firstSeq, ?_, fun later => ?_⟩
      · rw [positioned, knows.accepts]
        exact (and_iff_left mismatch).symm
      · rw [count]
        exact knows.expected (positioned.mp later).1
  | none =>
    have fresh : row.messageId.bind scan.firstSeq.get? = none := by
      cases names : row.messageId with
      | none => rfl
      | some message =>
        rw [names, Option.bind_some] at repeats
        rw [Option.bind_some, knows.firstSeq, repeats, Option.map_none]
    have positioned := positioned_concat_of_fresh repeats
    rw [event_of_fresh fresh]
    refine ⟨fun message => ?_, ?_, fun later => ?_⟩
    · rw [firstOf?_concat]
      cases names : row.messageId with
      | none => simp [knows.firstSeq]
      | some named =>
        rw [names, Option.bind_some] at repeats
        rw [Option.elim_some, Dict.get?_set]
        by_cases same : message = named
        · subst same
          rw [if_pos rfl, if_pos rfl, repeats, Option.none_or, Option.map_some]
        · rw [if_neg same, if_neg fun other => same (Option.some_inj.mp other).symm, Option.or_none, knows.firstSeq]
    · dsimp only
      split_ifs with mismatch
      · refine iff_of_false (by simp) fun later => ?_
        obtain ⟨before, position⟩ := positioned.mp later
        exact mismatch (position.trans (knows.expected before).symm)
      · rw [not_not] at mismatch
        rw [positioned, knows.accepts]
        exact ⟨fun before => ⟨before, mismatch.trans (knows.expected before)⟩, And.left⟩
    · rw [distinctEvents_of_fresh repeats, List.length_append, List.length_singleton, (positioned.mp later).2]
      push_cast
      rfl

/-- The scan of the events of a task. -/
theorem knows_of (task : TaskId) (rows : List TaskEventRecord) : (SeqScan.of task rows).Knows rows := by
  induction rows using List.reverseRecOn with
  | nil =>
    refine ⟨fun message => rfl, iff_of_true rfl ⟨rfl, ?_⟩, fun _ => rfl⟩
    rintro row ⟨⟩
  | append_singleton rows row ih =>
    rw [SeqScan.of, List.foldl_concat]
    exact ih.event task row

end SeqScan

/-! ## The check -/

/-- The errors of a task are those of its beginning and of its positions. -/
theorem trajectoryErrors_eq_nil_iff (task : TaskId) (rows : List TaskEventRecord) :
    trajectoryErrors task rows = [] ↔ WellFormedTrajectory rows := by
  rw [trajectoryErrors, List.append_eq_nil_iff, (SeqScan.knows_of task rows).accepts]
  constructor
  · rintro ⟨begins, positioned⟩
    refine ⟨positioned, ?_⟩
    by_contra other
    rw [if_neg other] at begins
    cases begins
  · rintro ⟨positioned, created⟩
    exact ⟨if_pos created, positioned⟩

theorem eventsByTask_get? (events : List TaskEventRecord) (task : TaskId) : (eventsByTask events).get? task =
    if events.filter (·.taskId = task) = [] then none else some (events.filter (·.taskId = task)) := by
  rw [eventsByTask, Dict.get?_foldl_append]
  rfl

/-- The tasks of the events are grouped, each with its events in their order. -/
theorem mem_eventsByTask_iff {events : List TaskEventRecord} {task : TaskId} {rows : List TaskEventRecord} :
    (task, rows) ∈ (eventsByTask events).rows ↔
      task ∈ events.map (·.taskId) ∧ rows = events.filter (·.taskId = task) := by
  have present : events.filter (·.taskId = task) ≠ [] ↔ task ∈ events.map (·.taskId) := by
    simp [List.filter_eq_nil_iff]
  rw [← Dict.get?_eq_some_iff, eventsByTask_get?, ← present]
  split_ifs with none
  · simp [none]
  · rw [Option.some_inj, and_iff_right none]
    exact eq_comm

/-- `check_trajectories` adds no error exactly when every event is of the execution and, whatever the order of the
events of different tasks, the events of each task are a well-formed trajectory. -/
theorem checkTrajectories_eq_nil_iff (events : List TaskEventRecord) (executionId : String) :
    checkTrajectories events executionId = [] ↔
      (∀ event ∈ events, event.executionId = executionId) ∧
        ∀ task ∈ events.map (·.taskId), WellFormedTrajectory (events.filter (·.taskId = task)) := by
  have foreign : (events.filter (·.executionId ≠ executionId)).map (TraceError.foreignEvent ·.executionId) = [] ↔
      ∀ event ∈ events, event.executionId = executionId := by
    simp [List.filter_eq_nil_iff]
  rw [checkTrajectories, List.append_eq_nil_iff, foreign, List.flatMap_eq_nil_iff]
  refine and_congr_right fun _ => ⟨fun accepted task present => ?_, fun formed entry grouped => ?_⟩
  · exact (trajectoryErrors_eq_nil_iff task _).mp (accepted (task, _) (mem_eventsByTask_iff.mpr ⟨present, rfl⟩))
  · obtain ⟨present, rows⟩ := mem_eventsByTask_iff.mp (show (entry.1, entry.2) ∈ _ from grouped)
    rw [trajectoryErrors_eq_nil_iff, rows]
    exact formed entry.1 present

end OrchLab
