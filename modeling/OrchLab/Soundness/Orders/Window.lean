import OrchLab.Soundness.Orders.Occurrences

/-! # The window of recent events

The occurrences of a task stand in the log in the order of their positions 1, 2, …, without gaps. So the last
rows that repeat nothing, which is what the query of the window selects, are those at the last positions.
-/

namespace OrchLab

/-- Elements at consecutive positions are selected from a position on by dropping those before it. -/
theorem filter_le_eq_drop {α : Type*} {f : α → ℕ} {l : List α} {start n : ℕ}
    (positions : l.map f = List.range' start n) (low : ℕ) :
    l.filter (fun a => low ≤ f a) = l.drop (low - start) := by
  induction l generalizing start n with
  | nil => simp
  | cons first rest ih =>
    cases n with
    | zero => cases positions
    | succ n =>
      rw [List.map_cons, List.range'_succ, List.cons.injEq] at positions
      obtain ⟨here, later⟩ := positions
      rw [List.filter_cons, here]
      by_cases reached : low ≤ start
      · rw [if_pos (decide_eq_true reached), ih later, Nat.sub_eq_zero_of_le reached,
          Nat.sub_eq_zero_of_le (Nat.le_succ_of_le reached), List.drop_zero, List.drop_zero]
      · have before : low - start = low - (start + 1) + 1 := by omega
        rw [if_neg (by simpa using reached), ih later, before, List.drop_succ_cons]

/-- The occurrences of a task take its positions one after the other. -/
theorem reachable_positions {deployment : Deployment} {s : OrdersService}
    (reachable : (ordersMachine deployment).Reachable s) {task : TaskId} {file : TaskFile}
    (found : s.file? task = some file) :
    (occurrences file.events).map (·.eventSeq) = List.range' 1 file.row.currentEventSeq := by
  refine reachable_file (P := fun file => (occurrences file.events).map (·.eventSeq) =
    List.range' 1 file.row.currentEventSeq) ?_ ?_ reachable task file found
  · intro task _ now n _
    rfl
  · intro s label task file file' reachable found holds step
    cases step with
    | same | closed | built | noted | declined => exact holds
    | moved draw cause row' columns effects opens point executed move happens =>
      have ledger := reachable_ledger reachable
      have old := OrdersService.eventId_le_of_file found
      rcases repeats_or_continues ledger found move happens with
        ⟨rfl, -, column, message, rfl, names, earlier, member, also, -⟩ | continues
      · apply Eq.trans _ holds
        exact congrArg _ (occurrences_append_of_known old names ⟨earlier, member, also⟩)
      · have added : (occurrences (file.events ++ numbered s.db.taskEvents.rows.length columns)).map
            (·.eventSeq) = List.range' 1 row'.currentEventSeq := by
          rw [occurrences_append_of_fresh old continues.fresh continues.once, List.map_append, holds,
            continues.eventSeq]
          have columns' : (numbered s.db.taskEvents.rows.length columns).map (·.eventSeq) =
              columns.map (·.eventSeq) := by
            conv_rhs => rw [← map_numbered s.db.taskEvents.rows.length columns]
            rw [List.map_map]
            rfl
          rw [columns', continues.positions, Nat.add_comm file.row.currentEventSeq 1, List.range'_append_1]
        exact added

/-- The rows of a task that name one message have one position. -/
theorem reachable_eventSeq_eq {deployment : Deployment} {s : OrdersService}
    (reachable : (ordersMachine deployment).Reachable s) {task : TaskId} {file : TaskFile}
    (found : s.file? task = some file) : ∀ row ∈ file.events, ∀ other ∈ file.events, ∀ message,
      row.messageId = some message → other.messageId = some message → row.eventSeq = other.eventSeq := by
  refine reachable_file (P := fun file => ∀ row ∈ file.events, ∀ other ∈ file.events, ∀ message,
    row.messageId = some message → other.messageId = some message → row.eventSeq = other.eventSeq)
    ?_ ?_ reachable task file found
  · intro task _ now n _ row member other _ message names
    obtain rfl := List.mem_singleton.mp member
    cases names
  · intro s label task file file' reachable found holds step
    cases step with
    | same | closed | built | noted | declined => exact holds
    | moved draw cause row' columns effects opens point executed move happens =>
      intro row here other there message names also
      rcases repeats_or_continues (reachable_ledger reachable) found move happens with
        ⟨-, -, column, named, rfl, own, earlier, member, first, position⟩ | continues
      · -- The repetition has the position of an earlier row of its message.
        have known : ∀ row ∈ file.events ++ numbered s.db.taskEvents.rows.length [column],
            row.messageId = some message → ∃ old ∈ file.events, old.messageId = some message ∧
              old.eventSeq = row.eventSeq := by
          intro row here names
          rcases List.mem_append.mp here with old | new
          · exact ⟨row, old, names, rfl⟩
          · obtain rfl := List.mem_singleton.mp new
            obtain rfl : named = message := Option.some_inj.mp (own.symm.trans names)
            exact ⟨earlier, member, first, position⟩
        obtain ⟨old, before, named', same⟩ := known row here names
        obtain ⟨old', before', named'', same'⟩ := known other there also
        rw [← same, ← same', holds old before old' before' message named' named'']
      · have fresh : ∀ row ∈ numbered s.db.taskEvents.rows.length columns, row.messageId = some message →
            ∀ old ∈ file.events, old.messageId ≠ some message := fun row new names =>
          continues.fresh row.toEventColumns (mem_of_mem_numbered new) message names
        rcases List.mem_append.mp here with old | new <;> rcases List.mem_append.mp there with old' | new'
        · exact holds row old other old' message names also
        · exact absurd names (fresh other new' also row old)
        · exact absurd also (fresh row new names other old')
        · rw [eq_of_once continues.once new new' names also]

/-- The rows a window shows, as a state shows them. -/
def TaskEvent.shown (event : TaskEvent) : RecentEvent := ⟨event.eventType, event.attemptNumber, event.eventSeq⟩

/-- A window is the occurrences of a task at its last positions, up to the current one. -/
structure IsTail (events : List TaskEvent) (current limit : ℕ) (window : List RecentEvent) : Prop where
  shown : window = ((occurrences events).filter fun row =>
    max 1 (current + 1 - limit) ≤ row.eventSeq && row.eventSeq ≤ current).map TaskEvent.shown
  positions : window.map (·.eventSeq) = List.range' (max 1 (current + 1 - limit)) (min limit current)
  last : window.getLast?.map (·.eventSeq) = some current

/-- The last occurrences are those at the last positions. -/
theorem isTail_of_positions {events : List TaskEvent} {current limit : ℕ}
    (positions : (occurrences events).map (·.eventSeq) = List.range' 1 current) (started : 1 ≤ current)
    (positive : 1 ≤ limit) :
    IsTail events current limit (((occurrences events).drop (current - limit)).map TaskEvent.shown) := by
  have shown : (((occurrences events).drop (current - limit)).map TaskEvent.shown).map (·.eventSeq) =
      List.range' (max 1 (current + 1 - limit)) (min limit current) := by
    have low : 1 + (current - limit) * 1 = max 1 (current + 1 - limit) := by omega
    have count : current - (current - limit) = min limit current := by omega
    rw [List.map_map, ← low, ← count, ← List.drop_range', ← positions, List.map_drop]
    rfl
  refine ⟨congrArg _ ?_, shown, ?_⟩
  · have bounded : ∀ row ∈ occurrences events, row.eventSeq ≤ current := by
      intro row member
      have position := List.mem_map_of_mem (f := fun row : TaskEvent => row.eventSeq) member
      rw [positions, List.mem_range'_1] at position
      omega
    have before : max 1 (current + 1 - limit) - 1 = current - limit := by omega
    rw [← before, ← filter_le_eq_drop positions]
    refine List.filter_congr fun row member => ?_
    rw [decide_eq_true (bounded row member), Bool.and_true]
  · have nonempty : min limit current ≠ 0 := by omega
    rw [← List.getLast?_map, shown, List.getLast?_range', if_neg nonempty]
    apply congrArg some
    omega

/-- The window the query selects. -/
theorem OrdersDb.recentEvents_eq (db : OrdersDb) (task : TaskId) (limit : ℕ) :
    (db.recentEvents task limit).map (fun event => ⟨event.eventType, event.attemptNumber, event.eventSeq⟩) =
      ((db.distinctOccurrences task).drop ((db.distinctOccurrences task).length - limit)).map
        TaskEvent.shown := by
  rw [recentEvents, List.take_reverse, List.map_reverse, List.map_reverse, List.map_reverse, List.reverse_reverse,
    List.map_map]
  rfl

/-- In every reachable state, the window of a snapshot is the tail of the trajectory. -/
theorem window_is_tail {deployment : Deployment} {s : OrdersService}
    (reachable : (ordersMachine deployment).Reachable s) {config : ExperimentConfig} {task : TaskId}
    {seen : Observation} {state : SystemState} (built : s.db.build config task seen = .ok state) :
    IsTail (s.db.trajectory task) state.currentEventSeq config.context.recentEventsLimit
      state.recentEvents := by
  obtain ⟨row, latency, found, -, valid, rfl⟩ := OrdersDb.exists_snapshot_of_build built
  obtain ⟨file, here, rfl, -, -⟩ := file?_of_task? found
  have positions := reachable_positions reachable here
  have started : 1 ≤ file.row.currentEventSeq := by
    simp only [SystemState.valid, Bool.and_eq_true, decide_eq_true_eq] at valid
    exact valid.1.1.1.2
  have count : (occurrences file.events).length = file.row.currentEventSeq := by
    rw [← List.length_map, positions, List.length_range']
  have window := OrdersDb.recentEvents_eq s.db task config.context.recentEventsLimit
  rw [distinctOccurrences_eq (reachable_ledger reachable) here, count] at window
  rw [snapshot, window, ← (file?_eq_some_iff.mp here).2.2.1]
  exact isTail_of_positions positions started config.context.recentEventsLimit_pos

/-- The window after a failure the broker redelivers twice, the first time as its first delivery. -/
theorem window_is_tail_pilot : ∃ s seen state, (ordersMachine .pilot).Reachable s ∧
    s.db.build .pilot 1 seen = .ok state ∧
    IsTail (s.db.trajectory 1) state.currentEventSeq ExperimentConfig.pilot.context.recentEventsLimit
      state.recentEvents := by
  let failure := firstReply 20 (.failed ⟨1, .primary, .transientError⟩)
  obtain ⟨s, reachable, passes⟩ := Machine.exists_reachable_of_replay? (m := ordersMachine .pilot)
    (firstDispatch ++ [.consume (.inventoryEvent failure) false ⟨11, 100⟩, .raise .worker,
      .consume (.inventoryEvent failure) true ⟨12, 101⟩, .consume (.inventoryEvent failure) false ⟨13, 102⟩])
    (p := fun s => (s.db.build .pilot 1 (.calm 103 2)).toOption.isSome) (by decide +kernel)
  cases built : s.db.build .pilot 1 (.calm 103 2) with
  | error error => simp [built, Except.toOption] at passes
  | ok state => exact ⟨s, _, state, reachable, built, window_is_tail reachable built⟩

end OrchLab
