import OrchLab.Model.Orders.StateBuilder

/-! # Trajectories with other numbers

The readers of a trajectory use the numbers of its rows only to compare them. Two trajectories with the same
columns, each numbered in increasing order, are read alike.
-/

namespace OrchLab

/-- The same rows with other numbers, increasing in both lists. -/
inductive Renumbered : List TaskEvent → List TaskEvent → Prop
  | nil : Renumbered [] []
  | concat {events events' : List TaskEvent} {event event' : TaskEvent} (before : Renumbered events events')
      (later : ∀ earlier ∈ events, earlier.eventId < event.eventId)
      (later' : ∀ earlier ∈ events', earlier.eventId < event'.eventId)
      (same : event'.toEventColumns = event.toEventColumns) : Renumbered (events ++ [event]) (events' ++ [event'])

theorem Renumbered.of_columns {events events' : List TaskEvent}
    (increasing : events.Pairwise (·.eventId < ·.eventId)) (increasing' : events'.Pairwise (·.eventId < ·.eventId))
    (same : events'.map TaskEvent.toEventColumns = events.map TaskEvent.toEventColumns) :
    Renumbered events events' := by
  induction events using List.reverseRecOn generalizing events' with
  | nil =>
    rw [List.map_nil, List.map_eq_nil_iff] at same
    exact same ▸ .nil
  | append_singleton events event ih =>
    rw [List.map_append, List.map_eq_append_iff] at same
    obtain ⟨events', last, rfl, before, ends⟩ := same
    obtain ⟨event', rest, rfl, columns, none⟩ := List.map_eq_cons_iff.mp ends
    obtain rfl := List.map_eq_nil_iff.mp none
    rw [List.pairwise_append] at increasing increasing'
    refine .concat (ih increasing.1 increasing'.1 before) ?_ ?_ columns
    · exact fun earlier member => increasing.2.2 earlier member event (List.mem_singleton_self _)
    · exact fun earlier member => increasing'.2.2 earlier member event' (List.mem_singleton_self _)

/-! ## The reply a latency ends with -/

/-- The first row from the inventory behind the latest request. -/
def firstReplyRow (events : List TaskEvent) : Option TaskEvent :=
  (latestRequest events).bind fun request => events.find? fun event =>
    event.service = .inventory && !event.redelivered && request.eventId < event.eventId

theorem latencyMs_eq (events : List TaskEvent) (now : Timestamp) : latencyMs events now =
    match (latestRequest events).map TaskEvent.toEventColumns with
    | none => .ok none
    | some request =>
      match request.publishedAt with
      | none => .error .invalidState
      | some publishedAt => .ok (some ((((firstReplyRow events).map TaskEvent.toEventColumns).elim now
          EventColumns.recordedAt - publishedAt).toNat)) := by
  rw [latencyMs, firstReplyRow]
  cases latestRequest events with
  | none => rfl
  | some request =>
    simp only [Option.map_some, Option.bind_some]
    cases request.publishedAt with
    | none => rfl
    | some publishedAt =>
      simp only
      cases events.find? _ <;> rfl

theorem firstReplyRow_concat {events : List TaskEvent} {event : TaskEvent}
    (later : ∀ earlier ∈ events, earlier.eventId < event.eventId) : firstReplyRow (events ++ [event]) =
      if event.isRequest then none
      else (firstReplyRow events).or (if (latestRequest events).isSome && event.service = .inventory &&
        !event.redelivered then some event else none) := by
  rw [firstReplyRow, latestRequest_concat]
  by_cases request : event.isRequest
  · rw [if_pos request, if_pos request, Option.bind_some, List.find?_eq_none]
    intro other member
    have order : other.eventId ≤ event.eventId := by
      rcases List.mem_append.mp member with before | last
      · exact (later other before).le
      · rw [List.mem_singleton.mp last]
    simp [order.not_gt]
  · rw [if_neg request, if_neg request, firstReplyRow]
    cases found : latestRequest events with
    | none => simp
    | some latest =>
      have after := later latest (mem_of_lastWhere found)
      simp [List.find?_append, List.find?_singleton, after]

/-! ## Reading renumbered trajectories -/

namespace Renumbered

variable {events events' : List TaskEvent}

theorem isRequest_eq {event event' : TaskEvent} (same : event'.toEventColumns = event.toEventColumns) :
    event'.isRequest = event.isRequest := by
  rw [TaskEvent.isRequest, TaskEvent.isRequest, same]

theorem latestRequest (renumbered : Renumbered events events') :
    (OrchLab.latestRequest events').map TaskEvent.toEventColumns =
      (OrchLab.latestRequest events).map TaskEvent.toEventColumns := by
  induction renumbered with
  | nil => rfl
  | concat _ _ _ same ih =>
    rw [latestRequest_concat, latestRequest_concat, isRequest_eq same]
    split_ifs
    · exact congrArg some same
    · exact ih

theorem isAwaitingReply (renumbered : Renumbered events events') (request : MessageId) :
    OrchLab.isAwaitingReply events' request = OrchLab.isAwaitingReply events request := by
  induction renumbered with
  | nil => rfl
  | concat _ later later' same ih =>
    rw [isAwaitingReply_concat _ _ _ later, isAwaitingReply_concat _ _ _ later', isRequest_eq same, ih, same]

theorem timeoutRegistered (renumbered : Renumbered events events') (request : MessageId) :
    OrchLab.timeoutRegistered events' request = OrchLab.timeoutRegistered events request := by
  induction renumbered with
  | nil => rfl
  | concat _ _ _ same ih => rw [timeoutRegistered_concat, timeoutRegistered_concat, ih, same]

theorem waitFinished (renumbered : Renumbered events events') (waitCount : ℕ) :
    OrchLab.waitFinished events' waitCount = OrchLab.waitFinished events waitCount := by
  induction renumbered with
  | nil => rfl
  | concat _ _ _ same ih => rw [waitFinished_concat, waitFinished_concat, ih, same]

theorem firstReplyRow (renumbered : Renumbered events events') :
    (OrchLab.firstReplyRow events').map TaskEvent.toEventColumns =
      (OrchLab.firstReplyRow events).map TaskEvent.toEventColumns := by
  induction renumbered with
  | nil => rfl
  | @concat events events' event event' before later later' same ih =>
    have asked : (OrchLab.latestRequest events').isSome = (OrchLab.latestRequest events).isSome := by
      simpa using congrArg Option.isSome before.latestRequest
    rw [firstReplyRow_concat later, firstReplyRow_concat later', isRequest_eq same, asked, same]
    split_ifs
    · rfl
    · rw [Option.map_or, Option.map_or, ih, Option.map_some, Option.map_some, same]
    · rw [Option.map_or, Option.map_or, ih]

theorem latencyMs (renumbered : Renumbered events events') (now : Timestamp) :
    OrchLab.latencyMs events' now = OrchLab.latencyMs events now := by
  rw [latencyMs_eq, latencyMs_eq, renumbered.latestRequest, renumbered.firstReplyRow]

theorem lastEventRedelivered (renumbered : Renumbered events events') :
    OrchLab.lastEventRedelivered events' = OrchLab.lastEventRedelivered events := by
  cases renumbered with
  | nil => rfl
  | concat _ _ _ same =>
    rw [OrchLab.lastEventRedelivered, OrchLab.lastEventRedelivered, List.getLast?_concat, List.getLast?_concat,
      Option.map_some, Option.map_some, same]

end Renumbered

end OrchLab
