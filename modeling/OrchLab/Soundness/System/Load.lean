import OrchLab.Soundness.Scripts.Workload
import OrchLab.Soundness.System.Accounts
import OrchLab.Soundness.System.Stock

/-! # The two services under load

The generator is the only client, so every task of the orders-service comes from one request of the plan, whatever
becomes of the answer. An altered order asks for an item the inventory does not have: it is never reserved and never
completed, and under transient faults it is the only kind of order whose data is refused. The files of the generator
name the tasks the orders-service has made, altered orders and no others.
-/

namespace OrchLab

/-! ## Steps of the load -/

/-- A list around one of its positions. -/
private theorem exists_split {α : Type*} {l : List α} {i : ℕ} {a : α} (here : l[i]? = some a) :
    ∃ before after, l = before ++ a :: after ∧ ∀ b, l.set i b = before ++ b :: after := by
  obtain ⟨bound, rfl⟩ := List.getElem?_eq_some_iff.mp here
  refine ⟨l.take i, l.drop (i + 1), ?_, fun b => ?_⟩
  · rw [List.cons_getElem_drop_succ, List.take_append_drop]
  · rw [List.set_eq_take_append_cons_drop, if_pos bound]

/-- What a step of the load can do. -/
inductive LoadStep (deployment : Deployment) (fault : RawFaultSection) (s : LoadBench) : LoadLabel → LoadBench → Prop
  | system (label : SystemLabel) (system : System) (quiet : label.underLoad = true)
      (step : s.system.step deployment label = some system) :
      LoadStep deployment fault s (.system label) { s with system }
  | sent (planned : PlannedOrder) (unsent : List PlannedOrder) (next : s.unsent = planned :: unsent)
      (free : s.posts.countP (fun post => !post.ended) < maxInFlight) :
      LoadStep deployment fault s .send { s with unsent, posts := s.posts ++ [⟨planned, .onItsWay, .waiting⟩] }
  | created (position : ℕ) (now : Timestamp) (planned : PlannedOrder) (stage : PostStage) (before after : List Post)
      (request : CreateOrderRequest) (here : s.posts = before ++ ⟨planned, .onItsWay, stage⟩ :: after)
      (accepted : planned.request? = some request) :
      LoadStep deployment fault s (.arrive position now)
        { s with
          system := { s.system with service := s.system.service.createOrder deployment request now }
          posts := before ++ ⟨planned, .created s.system.service.db.nextOrderNumber, stage⟩ :: after }
  | strayed (label : LoadLabel) (planned : PlannedOrder) (arrival : Arrival) (stage : PostStage)
      (before after : List Post) (here : s.posts = before ++ ⟨planned, .onItsWay, stage⟩ :: after)
      (arrives : arrival = .rejected ∨ arrival = .lost) :
      LoadStep deployment fault s label { s with posts := before ++ ⟨planned, arrival, stage⟩ :: after }
  | recorded (position : ℕ) (planned : PlannedOrder) (arrival : Arrival) (reply : PostReply) (clock : PostClock)
      (before after : List Post) (here : s.posts = before ++ ⟨planned, arrival, .waiting⟩ :: after)
      (told : s.tells ⟨planned, arrival, .waiting⟩ reply = true) :
      LoadStep deployment fault s (.finish position reply clock false)
        { s with
          posts := before ++ ⟨planned, arrival, planned.stageAfter reply⟩ :: after
          records := s.records ++ [Post.workloadRecord ⟨planned, arrival, .waiting⟩ reply clock] }
  | noted (position : ℕ) (planned : PlannedOrder) (arrival : Arrival) (reply : PostReply) (before after : List Post)
      (here : s.posts = before ++ ⟨planned, arrival, .recorded reply⟩ :: after) :
      LoadStep deployment fault s (.noteFault position false)
        { s with
          posts := before ++ ⟨planned, arrival, .closed false⟩ :: after
          faultEvents := s.faultEvents ++
            [Post.alteredRecord ⟨planned, arrival, .recorded reply⟩ deployment.executionId fault reply] }
  | raised (label : LoadLabel) (planned : PlannedOrder) (arrival : Arrival) (stage : PostStage)
      (before after : List Post) (here : s.posts = before ++ ⟨planned, arrival, stage⟩ :: after)
      (busy : ∀ raised, stage ≠ .closed raised) :
      LoadStep deployment fault s label { s with posts := before ++ ⟨planned, arrival, .closed true⟩ :: after }

section Step

variable {deployment : Deployment} {fault : RawFaultSection} {s t : LoadBench} {label : LoadLabel}

theorem load_step_cases (step : s.step deployment fault label = some t) : LoadStep deployment fault s label t := by
  cases label with
  | system label =>
    rw [LoadBench.step] at step
    split_ifs at step with quiet
    obtain ⟨system, moved, rfl⟩ := Option.map_eq_some_iff.mp step
    exact .system label system quiet moved
  | send =>
    rw [LoadBench.step, LoadBench.send] at step
    split at step
    · cases step
    · next planned unsent next =>
      split_ifs at step with free
      cases step
      exact .sent planned unsent next free
  | arrive position now =>
    rw [LoadBench.step, LoadBench.arrive] at step
    split at step
    · next planned stage found =>
      obtain ⟨before, after, here, set⟩ := exists_split found
      split at step
      · cases step
        rw [set]
        exact .strayed _ planned .rejected stage before after here (.inl rfl)
      · next request accepted =>
        cases step
        rw [set]
        exact .created position now planned stage before after request here accepted
    · cases step
  | lose position =>
    rw [LoadBench.step, LoadBench.lose] at step
    split at step
    · next planned stage found =>
      obtain ⟨before, after, here, set⟩ := exists_split found
      cases step
      rw [set]
      exact .strayed _ planned .lost stage before after here (.inr rfl)
    · cases step
  | finish position reply clock raises =>
    rw [LoadBench.step, LoadBench.finish] at step
    split at step
    · next planned arrival found =>
      obtain ⟨before, after, here, set⟩ := exists_split found
      dsimp only at step
      split_ifs at step with error told
      · cases step
        rw [set]
        exact .raised _ planned arrival .waiting before after here (by simp)
      · cases step
        obtain rfl := Bool.eq_false_of_not_eq_true error
        rw [set]
        exact .recorded position planned arrival reply clock before after here told
    · cases step
  | noteFault position raises =>
    rw [LoadBench.step, LoadBench.noteFault] at step
    split at step
    · next planned arrival reply found =>
      obtain ⟨before, after, here, set⟩ := exists_split found
      dsimp only at step
      split_ifs at step with error
      · cases step
        rw [set, error]
        exact .raised _ planned arrival (.recorded reply) before after here (by simp)
      · cases step
        obtain rfl := Bool.eq_false_of_not_eq_true error
        rw [set]
        exact .noted position planned arrival reply before after here
    · cases step

end Step

/-! ## One task for each request -/

theorem SystemLabel.orders?_ne_createOrder {label : SystemLabel} (quiet : label.underLoad = true)
    (request : CreateOrderRequest) (now : Timestamp) : label.orders? ≠ some (.createOrder request now) := by
  cases label <;> simp_all [SystemLabel.orders?, SystemLabel.underLoad]

theorem SystemLabel.injectsTransient_of_underLoad {label : SystemLabel} (quiet : label.underLoad = true) :
    label.injectsTransient := by
  cases label <;> simp_all [SystemLabel.injectsTransient, SystemLabel.underLoad]

/-- Nothing but the creation of an order adds a task. -/
theorem System.task?_ne_none_iff_of_step {deployment : Deployment} {stock : List String} {s t : System}
    {label : SystemLabel} (reachable : (systemMachine deployment stock).Reachable s)
    (offered : (systemMachine deployment stock).admissible s label) (quiet : label.underLoad = true)
    (step : (systemMachine deployment stock).step s label = some t) (task : TaskId) :
    t.service.db.task? task ≠ none ↔ s.service.db.task? task ≠ none := by
  obtain ⟨network, alone⟩ := reachable_network reachable
  have moved := system_step_cases step
  rcases moved.service with ⟨-, same⟩ | ⟨own, is, stepped⟩
  · rw [same]
  · refine ⟨fun known => ?_, fun known => task?_ne_none_of_step known stepped⟩
    obtain ⟨row, stored⟩ := Option.ne_none_iff_exists'.mp known
    obtain ⟨file', found, -⟩ := file?_of_task? stored
    rcases step_file alone (network.admissible offered moved is) stepped found with
      ⟨request, now, rfl, -⟩ | ⟨file, here, -⟩
    · exact absurd is (SystemLabel.orders?_ne_createOrder quiet request now)
    · rw [(file?_eq_some_iff.mp here).1]
      exact Option.some_ne_none _

@[simp] theorem Arrival.task?_onItsWay : Arrival.onItsWay.task? = none := rfl

@[simp] theorem Arrival.task?_created (task : TaskId) : (Arrival.created task).task? = some task := rfl

theorem Arrival.task?_eq_some_iff {arrival : Arrival} {task : TaskId} :
    arrival.task? = some task ↔ arrival = .created task := by
  cases arrival <;> simp [Arrival.task?]

/-- The tasks the requests were given. -/
def LoadBench.tasks (s : LoadBench) : List TaskId := s.posts.filterMap fun post => post.arrival.task?

/-- The services have run under the requests sent so far. -/
structure LoadBench.Loaded (deployment : Deployment) (stock : List String) (plan : List PlannedOrder) (s : LoadBench)
    (moments : List (System × SystemLabel)) : Prop where
  run : (systemMachine deployment stock).Run moments s.system
  transient : ∀ moment ∈ moments, moment.2.injectsTransient
  planned : s.posts.map Post.planned ++ s.unsent = plan
  created : ∀ post ∈ s.posts, ∀ task, post.arrival = .created task → ∃ before request now,
    (before, .createOrder request now) ∈ moments ∧ before.service.db.nextOrderNumber = task ∧
      post.planned.request? = some request
  distinct : s.tasks.Nodup
  known : ∀ task, s.system.service.db.task? task ≠ none ↔ task ∈ s.tasks

namespace LoadBench.Loaded

variable {deployment : Deployment} {stock : List String} {plan : List PlannedOrder} {s t : LoadBench}
  {moments : List (System × SystemLabel)}

/-- A request keeps its order and its task while its thread goes on. -/
theorem of_split (loaded : s.Loaded deployment stock plan moments) {before after : List Post} {old new : Post}
    (here : s.posts = before ++ old :: after) (posts : t.posts = before ++ new :: after)
    (planned : new.planned = old.planned) (same : new.arrival.task? = old.arrival.task?)
    (system : t.system = s.system) (unsent : t.unsent = s.unsent) : t.Loaded deployment stock plan moments := by
  have tasks : t.tasks = s.tasks := by
    simp only [tasks, posts, here, List.filterMap_append, List.filterMap_cons, same]
  refine ⟨system ▸ loaded.run, loaded.transient, ?_, ?_, tasks ▸ loaded.distinct, ?_⟩
  · rw [posts, unsent, ← loaded.planned, here, List.map_append, List.map_append, List.map_cons, List.map_cons, planned]
  · intro post member task is
    rw [posts, List.mem_append, List.mem_cons] at member
    rcases member with earlier | rfl | later
    · exact loaded.created post (here ▸ List.mem_append_left _ earlier) task is
    · rw [← Arrival.task?_eq_some_iff, same, Arrival.task?_eq_some_iff] at is
      exact planned ▸ loaded.created old (here ▸ List.mem_append_right _ (List.mem_cons_self ..)) task is
    · exact loaded.created post (here ▸ List.mem_append_right _ (List.mem_cons_of_mem _ later)) task is
  · rw [system, tasks]
    exact loaded.known

/-- A body that arrives gets the next task. -/
theorem create (loaded : s.Loaded deployment stock plan moments) (now : Timestamp) {planned : PlannedOrder}
    {stage : PostStage} {before after : List Post} {request : CreateOrderRequest}
    (here : s.posts = before ++ ⟨planned, .onItsWay, stage⟩ :: after) (accepted : planned.request? = some request) :
    LoadBench.Loaded deployment stock plan
      { s with
        system := { s.system with service := s.system.service.createOrder deployment request now }
        posts := before ++ ⟨planned, .created s.system.service.db.nextOrderNumber, stage⟩ :: after }
      (moments ++ [(s.system, .createOrder request now)]) := by
  have alone := (reachable_network loaded.run.reachable).2
  have creates := createOrder_succeeds alone request now
  have fresh : s.system.service.db.nextOrderNumber ∉ s.tasks := by
    rw [← loaded.known, not_not]
    exact creates.absent
  have tasks : ∀ task, task ∈ before.filterMap (·.arrival.task?) ++ after.filterMap (·.arrival.task?) ↔
      task ∈ s.tasks := by
    simp [LoadBench.tasks, here]
  refine ⟨loaded.run.snoc trivial rfl, ?_, ?_, ?_, ?_, ?_⟩
  · rw [List.forall_mem_append, List.forall_mem_singleton]
    exact ⟨loaded.transient, trivial⟩
  · rw [← loaded.planned, here]
    simp
  · intro post member task is
    have old : post ∈ s.posts → ∃ before' request' now', (before', .createOrder request' now') ∈
        moments ++ [(s.system, .createOrder request now)] ∧ before'.service.db.nextOrderNumber = task ∧
          post.planned.request? = some request' := by
      intro present
      obtain ⟨before', request', now', moment, rest⟩ := loaded.created post present task is
      exact ⟨before', request', now', List.mem_append_left _ moment, rest⟩
    rw [List.mem_append, List.mem_cons] at member
    rcases member with earlier | rfl | later
    · exact old (here ▸ List.mem_append_left _ earlier)
    · cases is
      exact ⟨s.system, request, now, List.mem_append_right _ (List.mem_singleton_self _), rfl, accepted⟩
    · exact old (here ▸ List.mem_append_right _ (List.mem_cons_of_mem _ later))
  · have distinct := loaded.distinct
    simp only [LoadBench.tasks, here, List.filterMap_append, List.filterMap_cons, Arrival.task?_onItsWay,
      Arrival.task?_created] at distinct fresh ⊢
    rw [List.nodup_middle]
    exact List.nodup_cons.mpr ⟨fresh, distinct⟩
  · intro task
    rw [creates.task?]
    simp only [LoadBench.tasks, List.filterMap_append, List.filterMap_cons, Arrival.task?_created, List.mem_append,
      List.mem_cons]
    split_ifs with own
    · simp [own]
    · rw [loaded.known, ← tasks, List.mem_append]
      simp [own]

theorem step {fault : RawFaultSection} {label : LoadLabel} (loaded : s.Loaded deployment stock plan moments)
    (offered : s.admissible label) (step : LoadStep deployment fault s label t) :
    ∃ moments, t.Loaded deployment stock plan moments := by
  cases step with
  | system label system quiet step =>
    refine ⟨moments ++ [(s.system, label)], loaded.run.snoc offered step, ?_, loaded.planned, ?_, loaded.distinct, ?_⟩
    · rw [List.forall_mem_append, List.forall_mem_singleton]
      exact ⟨loaded.transient, SystemLabel.injectsTransient_of_underLoad quiet⟩
    · intro post member task is
      obtain ⟨before, request, now, present, rest⟩ := loaded.created post member task is
      exact ⟨before, request, now, List.mem_append_left _ present, rest⟩
    · intro task
      rw [System.task?_ne_none_iff_of_step loaded.run.reachable offered quiet step]
      exact loaded.known task
  | sent planned unsent next =>
    refine ⟨moments, loaded.run, loaded.transient, ?_, fun post member task is => ?_, ?_, ?_⟩
    · simp [← loaded.planned, next]
    · rcases List.mem_append.mp member with old | new
      · exact loaded.created post old task is
      · obtain rfl := List.mem_singleton.mp new
        cases is
    · simpa [tasks, List.filterMap_cons] using loaded.distinct
    · simpa [tasks, List.filterMap_cons] using loaded.known
  | created position now planned stage before after request here accepted =>
    exact ⟨_, loaded.create now here accepted⟩
  | strayed label planned arrival stage before after here arrives =>
    exact ⟨moments, loaded.of_split here rfl rfl (by rcases arrives with rfl | rfl <;> rfl) rfl rfl⟩
  | recorded position planned arrival reply clock before after here told =>
    exact ⟨moments, loaded.of_split here rfl rfl rfl rfl rfl⟩
  | noted position planned arrival reply before after here =>
    exact ⟨moments, loaded.of_split here rfl rfl rfl rfl rfl⟩
  | raised label planned arrival stage before after here busy =>
    exact ⟨moments, loaded.of_split here rfl rfl rfl rfl rfl⟩

end LoadBench.Loaded

theorem reachable_loaded {deployment : Deployment} {fault : RawFaultSection} {stock : List String}
    {plan : List PlannedOrder} {s : LoadBench} (reachable : (loadMachine deployment fault stock plan).Reachable s) :
    ∃ moments, s.Loaded deployment stock plan moments := by
  refine Machine.Reachable.invariant (P := fun s => ∃ moments, s.Loaded deployment stock plan moments) ?_ ?_ reachable
  · refine ⟨[], .nil, List.forall_mem_nil _, rfl, List.forall_mem_nil _, List.nodup_nil, fun task => ?_⟩
    simp [loadMachine, LoadBench.initial, LoadBench.tasks, System.initial, OrdersService.initial, OrdersDb.empty,
      OrdersDb.task?]
  · rintro s label t - ⟨moments, loaded⟩ offered step
    exact loaded.step offered (load_step_cases step)

/-! ## The files of the generator -/

/-- The line is about the request, and names its task if the answer did. -/
structure WorkloadRecord.Reports (record : WorkloadRecord) (post : Post) : Prop where
  index : record.orderIndex = post.planned.index
  offset : record.scheduledOffsetS = post.planned.offsetS
  inconsistent : record.inconsistent = post.planned.inconsistent
  order : record.orderId = record.taskId
  accepted : record.httpStatus = some 202 ↔ record.taskId ≠ none
  task : ∀ task, record.taskId = some task → post.arrival = .created task

/-- The fault is that of the order the line is about. -/
structure AlteredOrderRecord.Follows (event : AlteredOrderRecord) (record : WorkloadRecord) : Prop where
  inconsistent : record.inconsistent = true
  index : event.orderIndex = record.orderIndex
  order : event.orderId = record.orderId
  task : event.taskId = record.taskId

/-- Where the line and the fault of a request are. -/
inductive Post.Stands (records : List WorkloadRecord) (events : List AlteredOrderRecord) (post : Post) : Prop
  | waiting (stage : post.stage = .waiting) (unrecorded : ∀ record ∈ records, record.orderIndex ≠ post.planned.index)
  | recorded (reply : PostReply) (record : WorkloadRecord) (stage : post.stage = .recorded reply)
      (altered : post.planned.inconsistent = true) (present : record ∈ records) (reports : record.Reports post)
      (told : reply = .accepted → post.arrival.task? ≠ none) (same : record.taskId = post.answered? reply)
      (unnoted : ∀ event ∈ events, event.orderIndex ≠ post.planned.index)
  | closed (record : WorkloadRecord) (stage : post.stage = .closed false) (present : record ∈ records)
      (reports : record.Reports post)
      (noted : post.planned.inconsistent = true → ∃ event ∈ events, event.orderIndex = post.planned.index)
  | raised (stage : post.stage = .closed true)

/-- The two files are about the requests. -/
structure Filed (posts : List Post) (records : List WorkloadRecord) (events : List AlteredOrderRecord) : Prop where
  reported : ∀ record ∈ records, ∃ post ∈ posts, record.Reports post
  recordedOnce : (records.map (·.orderIndex)).Nodup
  followed : ∀ event ∈ events, ∃ record ∈ records, event.Follows record
  notedOnce : (events.map (·.orderIndex)).Nodup
  stand : ∀ post ∈ posts, post.Stands records events

section Filed

variable {records added : List WorkloadRecord} {events noted : List AlteredOrderRecord} {post old new : Post}
  {before after : List Post}

/-- A later task is no other one than the line names. -/
theorem WorkloadRecord.Reports.later {record : WorkloadRecord} (reports : record.Reports old)
    (planned : new.planned = old.planned) (keeps : ∀ task, old.arrival = .created task → new.arrival = .created task) :
    record.Reports new where
  index := planned ▸ reports.index
  offset := planned ▸ reports.offset
  inconsistent := planned ▸ reports.inconsistent
  order := reports.order
  accepted := reports.accepted
  task task is := keeps task (reports.task task is)

/-- Lines about other requests change nothing. -/
theorem Post.Stands.mono (stands : post.Stands records events)
    (others : ∀ record ∈ added, record.orderIndex ≠ post.planned.index)
    (otherEvents : ∀ event ∈ noted, event.orderIndex ≠ post.planned.index) :
    post.Stands (records ++ added) (events ++ noted) := by
  cases stands with
  | waiting stage unrecorded => exact .waiting stage (List.forall_mem_append.mpr ⟨unrecorded, others⟩)
  | recorded reply record stage altered present reports told same unnoted =>
    exact .recorded reply record stage altered (List.mem_append_left _ present) reports told same
      (List.forall_mem_append.mpr ⟨unnoted, otherEvents⟩)
  | closed record stage present reports known =>
    refine .closed record stage (List.mem_append_left _ present) reports fun altered => ?_
    obtain ⟨event, here, index⟩ := known altered
    exact ⟨event, List.mem_append_left _ here, index⟩
  | raised stage => exact .raised stage

/-- One request goes on, with lines about it. -/
theorem Filed.replace (new : Post) (added : List WorkloadRecord) (noted : List AlteredOrderRecord)
    (filed : Filed (before ++ old :: after) records events)
    (apart : ((before ++ old :: after).map (·.planned.index)).Nodup) (planned : new.planned = old.planned)
    (keeps : ∀ task, old.arrival = .created task → new.arrival = .created task)
    (reports : ∀ record ∈ added, record.Reports new) (recordedOnce : ((records ++ added).map (·.orderIndex)).Nodup)
    (follows : ∀ event ∈ noted, event.orderIndex = new.planned.index ∧
      ∃ record ∈ records ++ added, event.Follows record)
    (notedOnce : ((events ++ noted).map (·.orderIndex)).Nodup)
    (stands : new.Stands (records ++ added) (events ++ noted)) :
    Filed (before ++ new :: after) (records ++ added) (events ++ noted) := by
  have others : ∀ post ∈ before ++ after, new.planned.index ≠ post.planned.index := by
    intro post member same
    rw [List.map_append, List.map_cons, List.nodup_middle, ← List.map_append] at apart
    exact (List.nodup_cons.mp apart).1 (planned ▸ same ▸ List.mem_map_of_mem member)
  refine ⟨?_, recordedOnce, ?_, notedOnce, ?_⟩
  · rw [List.forall_mem_append]
    refine ⟨fun record present => ?_, fun record present =>
      ⟨new, List.mem_append_right _ (List.mem_cons_self ..), reports record present⟩⟩
    obtain ⟨post, member, about⟩ := filed.reported record present
    rw [List.mem_append, List.mem_cons] at member
    rcases member with earlier | rfl | later
    · exact ⟨post, List.mem_append_left _ earlier, about⟩
    · exact ⟨new, List.mem_append_right _ (List.mem_cons_self ..), about.later planned keeps⟩
    · exact ⟨post, List.mem_append_right _ (List.mem_cons_of_mem _ later), about⟩
  · rw [List.forall_mem_append]
    refine ⟨fun event present => ?_, fun event present => (follows event present).2⟩
    obtain ⟨record, here, about⟩ := filed.followed event present
    exact ⟨record, List.mem_append_left _ here, about⟩
  · have stays : ∀ post ∈ before ++ after, post ∈ before ++ old :: after → post.Stands (records ++ added)
        (events ++ noted) := by
      intro post member present
      refine (filed.stand post present).mono (fun record extra same => ?_) fun event extra same => ?_
      · exact others post member ((reports record extra).index.symm.trans same)
      · exact others post member ((follows event extra).1.symm.trans same)
    intro post member
    rw [List.mem_append, List.mem_cons] at member
    rcases member with earlier | rfl | later
    · exact stays post (List.mem_append_left _ earlier) (List.mem_append_left _ earlier)
    · exact stands
    · exact stays post (List.mem_append_right _ later) (List.mem_append_right _ (List.mem_cons_of_mem _ later))

/-- One request goes on without a line. -/
theorem Filed.resume (filed : Filed (before ++ old :: after) records events)
    (apart : ((before ++ old :: after).map (·.planned.index)).Nodup) (planned : new.planned = old.planned)
    (keeps : ∀ task, old.arrival = .created task → new.arrival = .created task)
    (stands : new.Stands records events) : Filed (before ++ new :: after) records events := by
  have replaced := filed.replace new [] [] apart planned keeps (List.forall_mem_nil _)
    (by simpa using filed.recordedOnce) (List.forall_mem_nil _) (by simpa using filed.notedOnce) (by simpa using stands)
  simpa using replaced

theorem Post.Stands.unrecorded_of_waiting (stands : post.Stands records events) (waiting : post.stage = .waiting) :
    ∀ record ∈ records, record.orderIndex ≠ post.planned.index := by
  cases stands with
  | waiting _ unrecorded => exact unrecorded
  | recorded _ _ stage | closed _ stage | raised stage => simp [waiting] at stage

theorem Post.Stands.exists_record {reply : PostReply} (stands : post.Stands records events)
    (recorded : post.stage = .recorded reply) : ∃ record ∈ records, post.planned.inconsistent = true ∧
      record.Reports post ∧ record.taskId = post.answered? reply ∧
        ∀ event ∈ events, event.orderIndex ≠ post.planned.index := by
  cases stands with
  | recorded _ record stage altered present reports _ same unnoted =>
    cases recorded.symm.trans stage
    exact ⟨record, present, altered, reports, same, unnoted⟩
  | waiting stage | closed _ stage | raised stage => simp [recorded] at stage

theorem Post.Stands.exists_of_closed (stands : post.Stands records events) (closed : post.stage = .closed false) :
    ∃ record ∈ records, record.Reports post ∧
      (post.planned.inconsistent = true → ∃ event ∈ events, event.orderIndex = post.planned.index) := by
  cases stands with
  | closed record _ present reports noted => exact ⟨record, present, reports, noted⟩
  | waiting stage | recorded _ _ stage | raised stage => simp [closed] at stage

/-- A fault follows a line. -/
theorem Filed.unnoted_of_unrecorded {posts : List Post} (filed : Filed posts records events) {index : ℕ}
    (unrecorded : ∀ record ∈ records, record.orderIndex ≠ index) : ∀ event ∈ events, event.orderIndex ≠ index := by
  intro event present same
  obtain ⟨record, here, follows⟩ := filed.followed event present
  exact unrecorded record here (follows.index.symm.trans same)

/-- A request that arrives late has no task in its line. -/
theorem Post.Stands.arrives {planned : PlannedOrder} {stage : PostStage} (arrival : Arrival)
    (stands : Post.Stands records events ⟨planned, .onItsWay, stage⟩) :
    Post.Stands records events ⟨planned, arrival, stage⟩ := by
  have later : ∀ {record : WorkloadRecord}, record.Reports ⟨planned, .onItsWay, stage⟩ →
      record.Reports ⟨planned, arrival, stage⟩ := fun reports => reports.later rfl (by rintro _ ⟨⟩)
  cases stands with
  | waiting stage unrecorded => exact .waiting stage unrecorded
  | recorded reply record stage altered present reports told same unnoted =>
    have unanswered : reply ≠ .accepted := fun accepted => told accepted rfl
    refine .recorded reply record stage altered present (later reports) (fun accepted => absurd accepted unanswered) ?_
      unnoted
    cases reply with
    | accepted => exact absurd rfl unanswered
    | httpError | osError => exact same
  | closed record stage present reports noted => exact .closed record stage present (later reports) noted
  | raised stage => exact .raised stage

/-- The service accepts what it has made a task of. -/
theorem LoadBench.task?_of_tells (s : LoadBench) (told : s.tells post .accepted = true) :
    post.arrival.task? ≠ none := by
  obtain ⟨task, given, -⟩ := (Option.any_eq_true _ _).mp told
  rw [given]
  exact Option.some_ne_none _

/-- The line of a reply the service can have given. -/
theorem LoadBench.reports_of_tells (s : LoadBench) {reply : PostReply} (clock : PostClock)
    (told : s.tells post reply = true) : (post.workloadRecord reply clock).Reports post := by
  refine ⟨rfl, rfl, rfl, rfl, ?_, fun task is => ?_⟩
  · cases reply with
    | accepted => exact iff_of_true rfl (s.task?_of_tells told)
    | httpError code reason =>
      simp only [LoadBench.tells, Bool.or_eq_true, decide_eq_true_eq] at told
      simp only [Post.workloadRecord, Post.answered?, Option.some_inj, ne_eq, not_true_eq_false, iff_false]
      omega
    | osError text => simp [Post.workloadRecord, Post.answered?]
  · cases reply with
    | accepted => exact Arrival.task?_eq_some_iff.mp is
    | httpError | osError => cases is

end Filed

theorem Filed.step {deployment : Deployment} {fault : RawFaultSection} {s t : LoadBench} {label : LoadLabel}
    (filed : Filed s.posts s.records s.faultEvents)
    (distinct : ((s.posts.map Post.planned ++ s.unsent).map PlannedOrder.index).Nodup)
    (step : LoadStep deployment fault s label t) : Filed t.posts t.records t.faultEvents := by
  have apart : (s.posts.map (·.planned.index)).Nodup := by
    rw [List.map_append, List.map_map] at distinct
    exact distinct.of_append_left
  cases step with
  | system => exact filed
  | sent planned unsent next =>
    have fresh : ∀ record ∈ s.records, record.orderIndex ≠ planned.index := by
      intro record present same
      obtain ⟨post, member, reports⟩ := filed.reported record present
      rw [List.map_append, List.map_map, next, List.map_cons] at distinct
      exact List.disjoint_of_nodup_append distinct (List.mem_map_of_mem member)
        (by rw [Function.comp_apply, ← reports.index, same]; exact List.mem_cons_self ..)
    refine ⟨fun record present => ?_, filed.recordedOnce, filed.followed, filed.notedOnce, ?_⟩
    · obtain ⟨post, member, reports⟩ := filed.reported record present
      exact ⟨post, List.mem_append_left _ member, reports⟩
    · rw [List.forall_mem_append, List.forall_mem_singleton]
      exact ⟨filed.stand, .waiting rfl fresh⟩
  | created position now planned stage before after request here accepted =>
    rw [here] at filed apart
    exact filed.resume apart rfl (by rintro _ ⟨⟩)
      ((filed.stand _ (List.mem_append_right _ (List.mem_cons_self ..))).arrives _)
  | strayed label planned arrival stage before after here arrives =>
    rw [here] at filed apart
    exact filed.resume apart rfl (by rintro _ ⟨⟩)
      ((filed.stand _ (List.mem_append_right _ (List.mem_cons_self ..))).arrives _)
  | recorded position planned arrival reply clock before after here told =>
    rw [here] at filed apart
    have reports := s.reports_of_tells clock told
    have unrecorded := (filed.stand _ (List.mem_append_right _ (List.mem_cons_self ..))).unrecorded_of_waiting rfl
    have unnoted := filed.unnoted_of_unrecorded unrecorded
    have later : WorkloadRecord.Reports (Post.workloadRecord ⟨planned, arrival, .waiting⟩ reply clock)
        ⟨planned, arrival, planned.stageAfter reply⟩ := reports.later rfl fun _ is => is
    have replaced := filed.replace ⟨planned, arrival, planned.stageAfter reply⟩ _ [] apart rfl (fun _ is => is)
      (List.forall_mem_singleton.mpr later) ?_ (List.forall_mem_nil _)
      (by simpa using filed.notedOnce) ?_
    · simpa using replaced
    · rw [List.map_append, List.map_singleton, ← List.concat_eq_append]
      exact filed.recordedOnce.concat (by simpa [Post.workloadRecord] using unrecorded)
    · rw [List.append_nil]
      have present : Post.workloadRecord ⟨planned, arrival, .waiting⟩ reply clock ∈
          s.records ++ [Post.workloadRecord ⟨planned, arrival, .waiting⟩ reply clock] :=
        List.mem_append_right _ (List.mem_singleton_self _)
      by_cases altered : planned.inconsistent = true
      · exact .recorded reply _ (if_pos altered) altered present later
          (fun accepted => s.task?_of_tells (accepted ▸ told)) rfl unnoted
      · exact .closed _ (if_neg altered) present later fun wrong => absurd wrong altered
  | noted position planned arrival reply before after here =>
    rw [here] at filed apart
    obtain ⟨record, present, altered, reports, same, unnoted⟩ :=
      (filed.stand _ (List.mem_append_right _ (List.mem_cons_self ..))).exists_record rfl
    have follows : AlteredOrderRecord.Follows
        (Post.alteredRecord ⟨planned, arrival, .recorded reply⟩ deployment.executionId fault reply) record :=
      ⟨reports.inconsistent.trans altered, reports.index.symm, same.symm.trans reports.order.symm, same.symm⟩
    have later : record.Reports ⟨planned, arrival, .closed false⟩ := reports.later rfl fun _ is => is
    have replaced := filed.replace ⟨planned, arrival, .closed false⟩ [] _ apart rfl (fun _ is => is)
      (List.forall_mem_nil _) (by simpa using filed.recordedOnce)
      (List.forall_mem_singleton.mpr ⟨rfl, record, by simpa using present, follows⟩) ?_ ?_
    · simpa using replaced
    · rw [List.map_append, List.map_singleton, ← List.concat_eq_append]
      exact filed.notedOnce.concat (by simpa [Post.alteredRecord] using unnoted)
    · rw [List.append_nil]
      exact .closed record rfl present later fun _ => ⟨_, List.mem_append_right _ (List.mem_singleton_self _), rfl⟩
  | raised label planned arrival stage before after here busy =>
    rw [here] at filed apart
    exact filed.resume apart rfl (fun _ is => is) (.raised rfl)

section Reachable

variable {sampled : OrderSampling} {workload : WorkloadSection} {fault : RawFaultSection} {files : WorkloadFiles}
  {plan : List PlannedOrder} {deployment : Deployment} {s : LoadBench}

theorem reachable_filed (plans : Plans sampled workload fault files plan)
    (reachable : (loadMachine deployment fault files.skus plan).Reachable s) :
    Filed s.posts s.records s.faultEvents := by
  refine Machine.Reachable.invariant (P := fun s => Filed s.posts s.records s.faultEvents) ?_ ?_ reachable
  · exact ⟨List.forall_mem_nil _, List.nodup_nil, List.forall_mem_nil _, List.nodup_nil, List.forall_mem_nil _⟩
  · intro s label t earlier filed _ step
    obtain ⟨moments, loaded⟩ := reachable_loaded earlier
    exact filed.step (loaded.planned ▸ plans.nodup) (load_step_cases step)

/-! ## What becomes of a plan -/

/-- The orders of a plan under load. The tasks of the orders-service are those its requests were given, one for each,
with the items of its body. An altered order is never reserved and never completed, and if the dataset asks for items
of the catalog an answer that complains about data is about an altered order. -/
theorem load_separates (pattern : isExecutionId deployment.executionId = true)
    (built : buildPlan sampled workload fault files = .ok plan)
    (reachable : (loadMachine deployment fault files.skus plan).Reachable s) :
    s.posts.map Post.planned ++ s.unsent = plan ∧ s.tasks.Nodup ∧
    (∀ task, s.system.service.db.task? task ≠ none ↔ task ∈ s.tasks) ∧
    (∀ post ∈ s.posts, ∀ task, post.arrival = .created task → ∃ request placed,
      post.planned.request? = some request ∧ s.system.service.db.order? task = some placed ∧
      placed.itemsJson = canonicalJson request.items ∧ (post.planned.inconsistent = true →
        s.system.reservationsOf task = [] ∧ placed.status ≠ .completed)) ∧
    (files.Listed → ∀ event, s.system.reports event → event.Refuses →
      ∃ post ∈ s.posts, post.arrival = .created event.taskId ∧ post.planned.inconsistent = true) := by
  have plans := plans_of_ok built
  obtain ⟨moments, loaded⟩ := reachable_loaded reachable
  have sent : ∀ post ∈ s.posts, post.planned ∈ plan := by
    intro post member
    rw [← loaded.planned]
    exact List.mem_append_left _ (List.mem_map_of_mem member)
  refine ⟨loaded.planned, loaded.distinct, loaded.known, fun post member task created => ?_, fun listed event reports
    refuses => ?_⟩
  · obtain ⟨before, request, now, moment, rfl, accepted⟩ := loaded.created post member task created
    obtain ⟨file, found, carries⟩ := carries_of_run pattern loaded.run moment
    obtain ⟨placed, stored, text⟩ := Option.map_eq_some_iff.mp carries.order
    rw [(file?_eq_some_iff.mp found).2.1] at stored
    refine ⟨request, placed, accepted, stored, text, fun inconsistent => ?_⟩
    have unlisted := plans.unlisted (sent post member) inconsistent accepted
    exact ⟨unreserved_of_unknown pattern loaded.run moment unlisted,
      uncompleted_of_unknown pattern loaded.run moment unlisted stored⟩
  · obtain ⟨network, alone⟩ := reachable_network loaded.run.reachable
    obtain ⟨row, kept, rfl⟩ := List.mem_map.mp (network.mem_responses_of_reports reports)
    have known := (loaded.known _).mp (network.known_of_stored alone kept)
    obtain ⟨post, member, given⟩ := List.mem_filterMap.mp known
    rw [Arrival.task?_eq_some_iff] at given
    refine ⟨post, member, given, ?_⟩
    by_contra consistent
    obtain ⟨before, request, now, moment, number, accepted⟩ := loaded.created post member _ given
    exact not_refuses_of_known pattern loaded.run moment
      (plans.listed listed (sent post member) (Bool.eq_false_of_not_eq_true consistent) accepted) loaded.transient
      reports number.symm refuses

/-- The altered order is dispatched and refused. -/
theorem load_separates_pilot : ∃ s, pilotLoad.Reachable s ∧
    s.system.responses.map (·.eventType) = [.stockReservationFailed] ∧
    (∃ post ∈ s.posts, post.arrival = .created 1 ∧ post.planned.inconsistent = true ∧
      s.system.reservationsOf 1 = []) ∧
    ∀ event, s.system.reports event → event.Refuses →
      ∃ post ∈ s.posts, post.arrival = .created event.taskId ∧ post.planned.inconsistent = true := by
  obtain ⟨s, reachable, passes⟩ := Machine.exists_reachable_of_replay? (m := pilotLoad) alteredOrderUnderLoad
    (p := fun s => s.system.responses.map (·.eventType) = [.stockReservationFailed] ∧
      s.posts.any fun post => post.arrival = .created 1 ∧ post.planned.inconsistent) (by decide +kernel)
  obtain ⟨refused, altered⟩ := of_decide_eq_true passes
  obtain ⟨post, member, created⟩ := List.any_eq_true.mp altered
  obtain ⟨created, inconsistent⟩ := of_decide_eq_true created
  have listed : WorkloadFiles.pilot.Listed := by
    rintro order among item asked
    obtain ⟨index, -, rfl⟩ := List.mem_map.mp among
    obtain rfl := List.mem_singleton.mp asked
    exact ⟨"SKU-001", List.mem_singleton_self _, by simp [pieceOf, Dict.get?_set]⟩
  obtain ⟨-, -, -, orders, refuses⟩ := load_separates (by decide) buildPlan_pilot reachable
  obtain ⟨_, _, -, -, -, unreserved⟩ := orders post member 1 created
  exact ⟨s, reachable, refused, ⟨post, member, created, inconsistent, (unreserved inconsistent).1⟩, refuses listed⟩

/-- The files of the generator. No order has two lines; a line is about an order that was sent and names the task it
was given, exactly if the status is 202; a fault follows the line of an altered order. When every thread is over and
none has raised, each order of the plan has its line and each altered one its fault. -/
theorem load_recorded (built : buildPlan sampled workload fault files = .ok plan)
    (reachable : (loadMachine deployment fault files.skus plan).Reachable s) :
    (s.records.map (·.orderIndex)).Nodup ∧ (∀ record ∈ s.records, ∃ post ∈ s.posts, record.Reports post) ∧
    (s.faultEvents.map (·.orderIndex)).Nodup ∧ (∀ event ∈ s.faultEvents, ∃ record ∈ s.records, event.Follows record) ∧
    (s.unsent = [] → (∀ post ∈ s.posts, post.stage = .closed false) →
      (s.records.map (·.orderIndex)).Perm (List.range' 1 plan.length) ∧
      (s.faultEvents.map (·.orderIndex)).Perm ((plan.filter PlannedOrder.inconsistent).map PlannedOrder.index)) := by
  have plans := plans_of_ok built
  obtain ⟨moments, loaded⟩ := reachable_loaded reachable
  have filed := reachable_filed plans reachable
  refine ⟨filed.recordedOnce, filed.reported, filed.notedOnce, filed.followed, fun all closed => ?_⟩
  have sent : s.posts.map Post.planned = plan := by
    rw [← loaded.planned, all, List.append_nil]
  have ended := fun post member => (filed.stand post member).exists_of_closed (closed post member)
  constructor
  · rw [← plans.indexes.2, List.perm_ext_iff_of_nodup filed.recordedOnce plans.nodup, ← sent]
    intro index
    simp only [List.mem_map]
    constructor
    · rintro ⟨record, present, rfl⟩
      obtain ⟨post, member, reports⟩ := filed.reported record present
      exact ⟨post.planned, ⟨post, member, rfl⟩, reports.index.symm⟩
    · rintro ⟨_, ⟨post, member, rfl⟩, rfl⟩
      obtain ⟨record, present, reports, -⟩ := ended post member
      exact ⟨record, present, reports.index⟩
  · rw [List.perm_ext_iff_of_nodup filed.notedOnce (plans.nodup.sublist (List.filter_sublist.map _)), ← sent]
    intro index
    simp only [List.mem_map, List.mem_filter]
    constructor
    · rintro ⟨event, noted, rfl⟩
      obtain ⟨record, present, follows⟩ := filed.followed event noted
      obtain ⟨post, member, reports⟩ := filed.reported record present
      exact ⟨post.planned, ⟨⟨post, member, rfl⟩, reports.inconsistent.symm.trans follows.inconsistent⟩,
        (follows.index.trans reports.index).symm⟩
    · rintro ⟨_, ⟨⟨post, member, rfl⟩, altered⟩, rfl⟩
      obtain ⟨-, -, -, noted⟩ := ended post member
      exact noted altered

/-- The thread of the altered order writes both of its lines. -/
theorem load_recorded_pilot : ∃ s, pilotLoad.Reachable s ∧ s.faultEvents.map (·.orderIndex) = [8] ∧
    ∀ event ∈ s.faultEvents, ∃ record ∈ s.records, event.Follows record := by
  obtain ⟨s, reachable, passes⟩ := Machine.exists_reachable_of_replay? (m := pilotLoad) alteredOrderUnderLoad
    (p := fun s => s.faultEvents.map (·.orderIndex) = [8]) (by decide +kernel)
  obtain ⟨-, -, -, follows, -⟩ := load_recorded buildPlan_pilot reachable
  exact ⟨s, reachable, of_decide_eq_true passes, follows⟩

end Reachable

end OrchLab
