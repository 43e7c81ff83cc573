import OrchLab.Model.Orders.Recorders
import OrchLab.Soundness.Scripts.Export

/-! # What the recorders leave

The recorders follow the service: every state of the recording service is a state of the service. A snapshot
is recorded when it is built and a decision while its snapshot is at hand, so every recorded decision points
to a recorded state of its task, and the window of a state stays in the trajectory, which only grows.
-/

namespace OrchLab

/-- Only building a snapshot puts one at a decision point. -/
theorem built_of_step {deployment : Deployment} {s t : OrdersService} {label : OrdersLabel}
    (step : (ordersMachine deployment).step s label = some t) {owner : DecisionOwner} {state : SystemState}
    (built : t.points owner = .built state) :
    s.points owner = .built state ∨ ∃ seen task, label = .build owner seen ∧
      s.points owner = .opened task ∧ s.db.build deployment.config task seen = .ok state := by
  cases step_cases step with
  | uncreated | unconsumed | unlettered | lettered => exact .inl built
  | created | ignored | unbuilt | declined | unresolved | raised | decided =>
    rw [OrdersService.setPoint_points] at built
    split_ifs at built
    exact .inl built
  | consumed =>
    rw [OrdersService.setPoint_points] at built
    split_ifs at built
    exact .inl built
  | built owner' seen task state' row opened found builds =>
    rw [OrdersService.setPoint_points] at built
    split_ifs at built with same
    · subst same
      obtain rfl := DecisionPoint.built.inj built
      exact .inr ⟨seen, task, rfl, opened, builds⟩
    · exact .inl built

/-- What a step of the recording service records. -/
inductive Records (deployment : Deployment) (s : RecordingService) (l : RecordingLabel) (t : RecordingService) :
    Prop
  | built (owner : DecisionOwner) (seen : Observation) (task : TaskId) (state : SystemState)
      (label : l.label = .build owner seen) (opened : s.service.points owner = .opened task)
      (builds : s.service.db.build deployment.config task seen = .ok state)
      (here : t.service.points owner = .built state)
      (step : s.service.step deployment l.label = some t.service)
      (states : t.states = s.states.write owner (.of state)) (decisions : t.decisions = s.decisions)
  | decided (owner : DecisionOwner) (output : EngineOutput) (decisionId : DecisionId) (draw : Draw)
      (state : SystemState) (decision : Decision) (label : l.label = .decide owner output decisionId draw)
      (built : s.service.points owner = .built state)
      (valid : (DecisionRecord.of deployment.validator state output decision decisionId l.measured).valid = true)
      (step : s.service.step deployment l.label = some t.service) (states : t.states = s.states)
      (decisions : t.decisions = s.decisions.write owner
        (.of deployment.validator state output decision decisionId l.measured))
  | silent (label : OrdersLabel) (same : label = l.label ∨ ∃ owner, label = .raise owner)
      (building : ∀ owner seen task state, label = .build owner seen → s.service.points owner = .opened task →
        s.service.db.build deployment.config task seen ≠ .ok state)
      (step : s.service.step deployment label = some t.service) (states : t.states = s.states)
      (decisions : t.decisions = s.decisions)

/-- Every step is one of the cases. -/
theorem records_of_step {deployment : Deployment} {s t : RecordingService} {l : RecordingLabel}
    (step : (recordingMachine deployment).step s l = some t) : Records deployment s l t := by
  obtain ⟨label, measured⟩ := l
  change s.step deployment ⟨label, measured⟩ = some t at step
  have raises : ∀ {owner state}, s.service.points owner = .built state →
      s.service.step deployment (.raise owner) = some (s.service.setPoint owner .closed) := by
    intro owner state built
    rw [OrdersService.step, if_neg (by rw [built]; exact DecisionPoint.noConfusion)]
  have ended : ∀ {owner state}, s.service.points owner = .built state →
      Records deployment s ⟨label, measured⟩ { s with service := s.service.setPoint owner .closed } :=
    fun built => .silent _ (.inr ⟨_, rfl⟩) (by rintro _ _ _ _ ⟨⟩) (raises built) rfl rfl
  cases label with
  | build owner seen =>
    simp only [RecordingService.step, OrdersService.step] at step
    cases point : s.service.points owner with
    | closed | built => simp [point] at step
    | opened task =>
      simp only [point, Option.map_some, Option.some_inj] at step
      have steps : s.service.step deployment (.build owner seen) =
          some (s.service.build deployment owner task seen) := by rw [OrdersService.step, point]
      cases builds : s.service.db.build deployment.config task seen with
      | error error =>
        simp only [OrdersService.build, builds, RecordingService.build, OrdersService.setPoint_points,
          ↓reduceIte] at step steps
        subst step
        refine .silent _ (.inl rfl) ?_ steps rfl rfl
        rintro owner' seen' task' state ⟨⟩ opened built
        obtain rfl := DecisionPoint.opened.inj (point.symm.trans opened)
        rw [builds] at built
        cases built
      | ok state =>
        simp only [OrdersService.build, builds, RecordingService.build, OrdersService.setPoint_points,
          ↓reduceIte] at step steps
        subst step
        exact .built owner seen task state rfl point builds (by simp) steps rfl rfl
  | decide owner output decisionId draw =>
    simp only [RecordingService.step] at step
    cases point : s.service.points owner with
    | closed | opened => simp [point] at step
    | built state =>
      simp only [point, Option.some_inj, RecordingService.decide] at step
      cases resolved : deployment.validator.decision? state output with
      | none =>
        simp only [resolved] at step
        exact step ▸ ended point
      | some decision =>
        simp only [resolved] at step
        split_ifs at step with valid
        · subst step
          exact .decided owner output decisionId draw state decision rfl point valid
            (by simp only [OrdersService.step, point]) rfl rfl
        · exact step ▸ ended point
  | createOrder | consume | raise | deadLetter =>
    simp only [RecordingService.step] at step
    obtain ⟨service, steps, rfl⟩ := Option.map_eq_some_iff.mp step
    exact .silent _ (.inl rfl) (by rintro _ _ _ _ ⟨⟩) steps rfl rfl

/-- The service under the recorders is in a reachable state. -/
theorem reachable_service {deployment : Deployment} {s : RecordingService}
    (reachable : (recordingMachine deployment).Reachable s) : (ordersMachine deployment).Reachable s.service := by
  refine Machine.Reachable.project RecordingService.service rfl ?_ reachable
  rintro s l t - - offered step
  refine .inr ?_
  cases records_of_step step with
  | built _ _ _ _ _ _ _ _ steps | decided _ _ _ _ _ _ _ _ _ steps => exact ⟨l.label, offered.1, steps⟩
  | silent label same _ steps =>
    rcases same with rfl | ⟨owner, rfl⟩
    · exact ⟨_, offered.1, steps⟩
    · exact ⟨.raise owner, trivial, steps⟩

/-! ## The recorded states and decisions -/

/-- A recorded state is valid, of the execution and of a task, and shows rows of its trajectory. -/
structure StateRecord.Sound (deployment : Deployment) (db : OrdersDb) (record : StateRecord) : Prop where
  copies : record = .of record.systemState
  valid : record.systemState.valid = true
  executionId : record.systemState.executionId = deployment.executionId
  task : db.task? record.systemState.taskId ≠ none
  window : ∀ event ∈ record.systemState.recentEvents, ∃ row ∈ db.trajectory record.systemState.taskId,
    row.eventSeq = event.eventSeq ∧ row.eventType = event.eventType

/-- A recorded decision is valid, of the execution, and points to a recorded state of its task. -/
structure DecisionRecord.Sound (deployment : Deployment) (states : Shards StateRecord) (record : DecisionRecord) :
    Prop where
  valid : record.valid = true
  executionId : record.executionId = deployment.executionId
  state : ∃ state ∈ states, state.stateId = record.stateId ∧ state.taskId = record.taskId

/-- What has been recorded is sound and has identifiers of its own. -/
structure Recording (deployment : Deployment) (s : RecordingService) : Prop where
  built : ∀ owner state, s.service.points owner = .built state → .of state ∈ s.states
  states : ∀ record ∈ s.states, record.Sound deployment s.service.db
  stateIds : (s.states.files.flatten.map (·.stateId)).Nodup
  decisions : ∀ record ∈ s.decisions, record.Sound deployment s.states
  decisionIds : (s.decisions.files.flatten.map (·.decisionId)).Nodup

/-- Rows and tasks stay. -/
theorem StateRecord.Sound.step {deployment : Deployment} {s t : OrdersService} {label : OrdersLabel}
    {record : StateRecord} (sound : record.Sound deployment s.db)
    (step : (ordersMachine deployment).step s label = some t) : record.Sound deployment t.db where
  copies := sound.copies
  valid := sound.valid
  executionId := sound.executionId
  task := task?_ne_none_of_step sound.task step
  window event shown := by
    obtain ⟨row, member, same⟩ := sound.window event shown
    obtain ⟨added, rows⟩ := exists_rows_of_step step
    refine ⟨row, ?_, same⟩
    rw [OrdersDb.trajectory, rows, List.filter_append]
    exact List.mem_append_left _ member

/-- The record of a snapshot is sound when it is built. -/
theorem StateRecord.sound_of_build {deployment : Deployment} {s : OrdersService}
    (reachable : (ordersMachine deployment).Reachable s) {task : TaskId} {seen : Observation} {state : SystemState}
    (built : s.db.build deployment.config task seen = .ok state) :
    (StateRecord.of state).Sound deployment s.db ∧ state.stateId = seen.stateId := by
  obtain ⟨row, latency, known, -, valid, same⟩ := OrdersDb.exists_snapshot_of_build built
  have own : state.taskId = task := by
    rw [same]
    exact OrdersDb.taskId_of_task? known
  obtain ⟨file, found, rfl, -, -⟩ := file?_of_task? known
  constructor
  · constructor
    · rfl
    · exact valid
    · change state.executionId = _
      rw [same]
      exact (reachable_recorded reachable found).row
    · change s.db.task? state.taskId ≠ none
      rw [own, known]
      exact Option.some_ne_none _
    · intro event shown
      change ∃ row ∈ s.db.trajectory state.taskId, _
      rw [own]
      exact OrdersDb.exists_row_of_recentEvents built shown
  · rw [same]
    rfl

/-- Everything recorded is sound, in every reachable state. -/
theorem reachable_recording {deployment : Deployment} {s : RecordingService}
    (reachable : (recordingMachine deployment).Reachable s) : Recording deployment s := by
  refine Machine.Reachable.invariant ?_ ?_ reachable
  · constructor
    · rintro owner state ⟨⟩
    · intro record member
      exact absurd member (Shards.not_mem_empty record)
    · exact List.nodup_nil
    · intro record member
      exact absurd member (Shards.not_mem_empty record)
    · exact List.nodup_nil
  · intro s l t earlier holds offered step
    have reached := reachable_service earlier
    cases records_of_step step with
    | built owner seen task state label opened builds here steps states decisions =>
      obtain ⟨sound, named⟩ := StateRecord.sound_of_build reached builds
      have fresh : ∀ record ∈ s.states, record.stateId ≠ state.stateId := by
        have promised := offered.2
        rw [label] at promised
        rwa [named]
      constructor
      · intro owner' state' point
        rw [states, Shards.mem_write]
        rcases built_of_step steps point with before | ⟨seen', task', same, opened', builds'⟩
        · exact .inl (holds.built owner' state' before)
        · obtain ⟨rfl, rfl⟩ := OrdersLabel.build.inj (label.symm.trans same)
          obtain rfl := DecisionPoint.opened.inj (opened.symm.trans opened')
          rw [builds] at builds'
          exact .inr (congrArg _ (Except.ok.inj builds').symm)
      · rw [states]
        intro record member
        rcases Shards.mem_write.mp member with old | rfl
        · exact (holds.states record old).step steps
        · exact sound.step steps
      · rw [states]
        exact Shards.nodup_write owner holds.stateIds fresh
      · rw [decisions, states]
        intro record member
        obtain ⟨valid, execution, shown, recorded, same⟩ := holds.decisions record member
        exact ⟨valid, execution, shown, Shards.mem_write.mpr (.inl recorded), same⟩
      · rw [decisions]
        exact holds.decisionIds
    | decided owner output decisionId draw state decision label built valid steps states decisions =>
      have shown := holds.built owner state built
      have fresh : ∀ record ∈ s.decisions, record.decisionId ≠ decisionId := by
        have promised := offered.2
        rwa [label] at promised
      constructor
      · intro owner' state' point
        rw [states]
        rcases built_of_step steps point with before | ⟨seen, task, same, -⟩
        · exact holds.built owner' state' before
        · rw [label] at same
          cases same
      · rw [states]
        exact fun record member => (holds.states record member).step steps
      · rw [states]
        exact holds.stateIds
      · rw [decisions, states]
        intro record member
        rcases Shards.mem_write.mp member with old | rfl
        · exact holds.decisions record old
        · exact ⟨valid, (holds.states _ shown).executionId, _, shown, rfl, rfl⟩
      · rw [decisions]
        exact Shards.nodup_write owner holds.decisionIds fresh
    | silent label same building steps states decisions =>
      constructor
      · intro owner state point
        rw [states]
        rcases built_of_step steps point with before | ⟨seen, task, is, opened, builds⟩
        · exact holds.built owner state before
        · exact absurd builds (building owner seen task state is opened)
      · rw [states]
        exact fun record member => (holds.states record member).step steps
      · rw [states]
        exact holds.stateIds
      · rw [decisions, states]
        exact holds.decisions
      · rw [decisions]
        exact holds.decisionIds

end OrchLab
