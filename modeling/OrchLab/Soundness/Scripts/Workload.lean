import OrchLab.Model.Scripts.Workload
import OrchLab.Soundness.Scripts.Injectors
import OrchLab.ToMathlib.ResultRel
import Mathlib.Algebra.Order.Field.Basic

/-! # The plan of a load

A plan that is built is the beginning of the dataset with offsets that do not go back. An order is altered only by
its first item, which then names the unknown SKU; the orders-service makes of every other order what the dataset has.
-/

namespace OrchLab

private theorem exists_of_forall₂ {α β : Type*} {r : α → β → Prop} {l : List α} {l' : List β}
    (related : List.Forall₂ r l l') {b : β} (member : b ∈ l') : ∃ a ∈ l, r a b := by
  induction related with
  | nil => cases member
  | cons here _ ih =>
    rcases List.mem_cons.mp member with rfl | later
    · exact ⟨_, List.mem_cons_self .., here⟩
    · obtain ⟨a, among, related⟩ := ih later
      exact ⟨a, List.mem_cons_of_mem _ among, related⟩

/-! ## Offsets -/

theorem round6_mono : Monotone round6 := by
  intro x y le
  have scaled : x * 1000000 ≤ y * 1000000 := mul_le_mul_of_nonneg_right le (by norm_num)
  have rounded : (roundHalfEven (x * 1000000) : ℚ) ≤ roundHalfEven (y * 1000000) :=
    Int.cast_le.mpr (roundHalfEven_mono scaled)
  exact div_le_div_of_nonneg_right rounded (by norm_num)

@[simp] theorem round6_round6 (offset : ℚ) : round6 (round6 offset) = round6 offset := by
  rw [round6, round6, div_mul_cancel₀ _ (by norm_num), roundHalfEven_intCast]

/-- Half a microsecond. -/
theorem abs_round6_sub_le (offset : ℚ) : |round6 offset - offset| ≤ 1 / 2000000 := by
  have near := abs_roundHalfEven_sub_le (offset * 1000000)
  have scaled : round6 offset - offset = (roundHalfEven (offset * 1000000) - offset * 1000000) / 1000000 := by
    rw [round6]
    ring
  rw [scaled, abs_div, abs_of_pos (by norm_num : (0 : ℚ) < 1000000), div_le_iff₀ (by norm_num)]
  linarith

@[simp] theorem round6_zero : round6 0 = 0 := by
  rw [round6, zero_mul, ← Int.cast_zero, roundHalfEven_intCast, Int.cast_zero, zero_div]

/-- Rates stay positive. -/
theorem rateAt_pos (fault : FaultSection) {rate : ℚ} (positive : 0 < rate) (offset : ℚ) :
    0 < rateAt fault.toRawFaultSection rate offset := by
  rw [rateAt]
  split_ifs
  · have range := fault.inRange .overloadRatePerSecond
    cases given : fault.overloadRatePerSecond with
    | none => exact positive
    | some overload =>
      simp only [RawFaultSection.inRange, given, Option.all_some] at range
      exact of_decide_eq_true range
  · exact positive

@[simp] theorem length_offsetsFrom (fault : RawFaultSection) (rate : ℚ) (count : ℕ) (offset : ℚ) :
    (offsetsFrom fault rate count offset).length = count := by
  induction count generalizing offset with
  | zero => rfl
  | succ count ih => rw [offsetsFrom, List.length_cons, ih]

/-- The offsets that follow an offset do not go back. -/
theorem offsetsFrom_sorted (fault : FaultSection) {rate : ℚ} (positive : 0 < rate) (count : ℕ) (offset : ℚ) :
    (∀ later ∈ offsetsFrom fault.toRawFaultSection rate count offset, round6 offset ≤ later) ∧
    (offsetsFrom fault.toRawFaultSection rate count offset).Pairwise (· ≤ ·) := by
  induction count generalizing offset with
  | zero => exact ⟨by rintro _ ⟨⟩, .nil⟩
  | succ count ih =>
    obtain ⟨after, sorted⟩ :=
      ih (round6 offset + 1 / rateAt fault.toRawFaultSection rate (round6 offset))
    have onwards := round6_mono (le_add_of_nonneg_right (a := round6 offset)
      (one_div_pos.mpr (rateAt_pos fault positive (round6 offset))).le)
    rw [round6_round6] at onwards
    have later := fun x member => onwards.trans (after x member)
    exact ⟨List.forall_mem_cons.mpr ⟨le_rfl, later⟩, .cons later sorted⟩

/-- Each offset is the one before it and a period, up to half a microsecond. -/
theorem offsetsFrom_spaced (fault : RawFaultSection) (rate : ℚ) (count : ℕ) (offset : ℚ) :
    (offsetsFrom fault rate count offset).IsChain fun a b => |b - (a + 1 / rateAt fault rate a)| ≤ 1 / 2000000 := by
  induction count generalizing offset with
  | zero => exact .nil
  | succ count ih =>
    rw [offsetsFrom]
    cases count with
    | zero => exact .singleton _
    | succ count => exact .cons_cons (abs_round6_sub_le _) (ih _)

/-! ## Orders of the plan -/

/-- What an order of the dataset becomes in the plan. -/
inductive Planned (sampled : OrderSampling) (fault : RawFaultSection) (order : DatasetOrder) (offset : ℚ) :
    PlannedOrder → Prop
  | kept (clean : altered sampled fault order.index offset = false) :
      Planned sampled fault order offset ⟨order.index, offset, order.items, .null⟩
  | altered {first : Dict String Json} {rest : List (Dict String Json)} {replaced : Json}
      (drawn : altered sampled fault order.index offset = true) (items : order.items = first :: rest)
      (sku : first.get? "sku" = some replaced) :
      Planned sampled fault order offset
        ⟨order.index, offset, first.set "sku" (.string unknownSku) :: rest, replaced⟩

section Planned

variable {sampled : OrderSampling} {fault : RawFaultSection} {order : DatasetOrder} {offset : ℚ}
  {planned : PlannedOrder}

theorem planned_of_ok (success : planOrder sampled fault order offset = .ok planned) :
    Planned sampled fault order offset planned := by
  rw [planOrder] at success
  split_ifs at success with drawn
  · split at success
    · cases success
    · next first rest items =>
      split at success
      · cases success
      · next replaced sku =>
        cases success
        exact .altered drawn items sku
  · cases success
    exact .kept (Bool.eq_false_of_not_eq_true drawn)

theorem Planned.index (of : Planned sampled fault order offset planned) : planned.index = order.index := by
  cases of <;> rfl

theorem Planned.offsetS (of : Planned sampled fault order offset planned) : planned.offsetS = offset := by
  cases of <;> rfl

end Planned

/-- What `build_plan` has checked, and the plan it has built. -/
structure Plans (sampled : OrderSampling) (workload : WorkloadSection) (fault : RawFaultSection)
    (files : WorkloadFiles) (plan : List PlannedOrder) : Prop where
  distinct : files.skus.Nodup
  unknown : unknownSku ∉ files.skus
  seed : ∀ seed ∈ workload.seed, seed = files.dataset.seed
  indexed : files.dataset.orders.map DatasetOrder.index = List.range' 1 files.dataset.orders.length
  built : ∃ requests rate, workload.requests = some requests ∧ workload.ratePerSecond = some rate ∧
    requests ≤ files.dataset.orders.length ∧
    List.Forall₂ (fun pair planned => Planned sampled fault pair.1 pair.2 planned)
      (files.dataset.orders.zip (sendOffsets fault requests rate)) plan

theorem require_eq_ok_iff {condition : Prop} [Decidable condition] {error : PlanError} :
    require condition error = .ok () ↔ condition := by
  rw [require]
  split_ifs with holds <;> simp [holds]

theorem plans_of_ok {sampled : OrderSampling} {workload : WorkloadSection} {fault : RawFaultSection}
    {files : WorkloadFiles} {plan : List PlannedOrder}
    (success : buildPlan sampled workload fault files = .ok plan) : Plans sampled workload fault files plan := by
  rw [buildPlan] at success
  split at success
  · next requests rate asked given =>
    obtain ⟨dataset, read, success⟩ := ok_of_bind_eq_ok success
    obtain ⟨⟨⟩, seeded, success⟩ := ok_of_bind_eq_ok success
    obtain ⟨⟨⟩, enough, success⟩ := ok_of_bind_eq_ok success
    obtain ⟨catalog, listed, success⟩ := ok_of_bind_eq_ok success
    obtain ⟨⟨⟩, unknown, built⟩ := ok_of_bind_eq_ok success
    obtain ⟨indexed, rfl⟩ : ∃ indexed, ⟨files.dataset, indexed⟩ = dataset := by
      rw [loadDataset] at read
      split_ifs at read with indexed
      exact ⟨indexed, Except.ok.inj read⟩
    obtain ⟨distinct, rfl⟩ : files.skus.Nodup ∧ files.skus = catalog := by
      rw [loadCatalog] at listed
      split_ifs at listed with wrong
      exact ⟨not_not.mp (not_or.mp wrong).2, Except.ok.inj listed⟩
    refine ⟨distinct, require_eq_ok_iff.mp unknown, fun seed own => ?_, indexed, requests, rate, asked, given,
      require_eq_ok_iff.mp enough, ?_⟩
    · rw [Option.mem_def.mp own, requireSeed] at seeded
      exact require_eq_ok_iff.mp seeded
    · exact (forall₂_of_mapM_eq_ok built).imp fun pair planned made => planned_of_ok made
  · cases success

namespace Plans

variable {sampled : OrderSampling} {workload : WorkloadSection} {fault : RawFaultSection} {files : WorkloadFiles}
  {plan : List PlannedOrder}

/-- As many orders as are asked for, the first ones of the dataset. -/
theorem indexes (plans : Plans sampled workload fault files plan) :
    workload.requests = some plan.length ∧ plan.map PlannedOrder.index = List.range' 1 plan.length := by
  obtain ⟨requests, rate, asked, -, enough, built⟩ := plans.built
  have length : plan.length = requests := by
    rw [← built.length_eq, List.length_zip, sendOffsets, length_offsetsFrom, min_eq_right enough]
  have same := map_eq_of_forall₂ (built.imp fun pair planned made => made.index)
  refine ⟨length ▸ asked, ?_⟩
  have firsts : (files.dataset.orders.zip (sendOffsets fault requests rate)).map Prod.fst =
      files.dataset.orders.take requests := by
    rw [List.zip_eq_zip_take_min, List.map_fst_zip (by simp), sendOffsets, length_offsetsFrom, min_eq_right enough]
  calc plan.map PlannedOrder.index
    _ = ((files.dataset.orders.zip (sendOffsets fault requests rate)).map Prod.fst).map DatasetOrder.index := by
      rw [same, List.map_map]
      rfl
    _ = List.range' 1 plan.length := by
      rw [firsts, List.map_take, plans.indexed, List.take_range'_of_length_ge enough, length]

theorem nodup (plans : Plans sampled workload fault files plan) : (plan.map PlannedOrder.index).Nodup := by
  rw [plans.indexes.2]
  exact List.nodup_range'

/-- The offsets start at zero, do not go back, and are a period apart. -/
theorem offsets {fault : FaultSection} (plans : Plans sampled workload fault.toRawFaultSection files plan) :
    ∃ rate, workload.ratePerSecond = some rate ∧ (plan.map PlannedOrder.offsetS).head? = some 0 ∧
      (plan.map PlannedOrder.offsetS).Pairwise (· ≤ ·) ∧
      (plan.map PlannedOrder.offsetS).IsChain fun a b =>
        |b - (a + 1 / rateAt fault.toRawFaultSection rate a)| ≤ 1 / 2000000 := by
  obtain ⟨requests, rate, asked, given, enough, built⟩ := plans.built
  rw [map_eq_of_forall₂ (built.imp fun pair planned made => made.offsetS),
    List.map_snd_zip (by rwa [sendOffsets, length_offsetsFrom])]
  refine ⟨rate, given, ?_, (offsetsFrom_sorted fault (workload.ratePositive rate given) requests 0).2,
    offsetsFrom_spaced ..⟩
  obtain ⟨count, rfl⟩ := Nat.exists_eq_succ_of_ne_zero (workload.requestsPositive requests asked).ne'
  rw [sendOffsets, offsetsFrom, round6_zero, List.head?_cons]

theorem exists_order (plans : Plans sampled workload fault files plan) {planned : PlannedOrder}
    (member : planned ∈ plan) :
    ∃ order ∈ files.dataset.orders, ∃ offset, Planned sampled fault order offset planned := by
  obtain ⟨requests, rate, -, -, -, built⟩ := plans.built
  obtain ⟨pair, here, made⟩ := exists_of_forall₂ built member
  exact ⟨pair.1, (List.of_mem_zip here).1, pair.2, made⟩

end Plans

/-- A plan that is built: as many orders as are asked for, numbered as in the dataset, at offsets that start at zero,
do not go back and are a period apart up to half a microsecond; and each order is that of the dataset, but for the SKU
of its first item where the draw takes an order in the window of `inconsistent_data`. -/
theorem plan_schedules {sampled : OrderSampling} {workload : WorkloadSection} {fault : FaultSection}
    {files : WorkloadFiles} {plan : List PlannedOrder}
    (built : buildPlan sampled workload fault.toRawFaultSection files = .ok plan) :
    workload.requests = some plan.length ∧ plan.map PlannedOrder.index = List.range' 1 plan.length ∧
    (∃ rate, workload.ratePerSecond = some rate ∧ (plan.map PlannedOrder.offsetS).head? = some 0 ∧
      (plan.map PlannedOrder.offsetS).Pairwise (· ≤ ·) ∧
      (plan.map PlannedOrder.offsetS).IsChain fun a b =>
        |b - (a + 1 / rateAt fault.toRawFaultSection rate a)| ≤ 1 / 2000000) ∧
    ∀ planned ∈ plan, ∃ order ∈ files.dataset.orders, order.index = planned.index ∧
      (altered sampled fault.toRawFaultSection planned.index planned.offsetS = false →
        planned.items = order.items ∧ planned.replacedSku = .null) ∧
      (altered sampled fault.toRawFaultSection planned.index planned.offsetS = true →
        ∃ first rest, order.items = first :: rest ∧ first.get? "sku" = some planned.replacedSku ∧
          planned.items = first.set "sku" (.string unknownSku) :: rest) := by
  have plans := plans_of_ok built
  refine ⟨plans.indexes.1, plans.indexes.2, plans.offsets, fun planned member => ?_⟩
  obtain ⟨order, among, offset, made⟩ := plans.exists_order member
  refine ⟨order, among, made.index.symm, ?_, ?_⟩
  · intro clean
    cases made with
    | kept => exact ⟨rfl, rfl⟩
    | altered drawn => cases clean.symm.trans drawn
  · intro drawn
    cases made with
    | kept clean => cases clean.symm.trans drawn
    | @altered first rest replaced _ items sku => exact ⟨first, rest, items, sku, rfl⟩

theorem buildPlan_pilot :
    buildPlan sampledPilot .pilot FaultSection.inconsistentData.toRawFaultSection .pilot = .ok pilotPlan := by
  have succeeds : (buildPlan sampledPilot .pilot FaultSection.inconsistentData.toRawFaultSection
    .pilot).toOption.isSome = true := by decide +kernel
  rw [pilotPlan]
  cases built : buildPlan sampledPilot .pilot FaultSection.inconsistentData.toRawFaultSection .pilot with
  | error error => simp [built, Except.toOption] at succeeds
  | ok plan => rfl

/-- Eight orders of the scenario, and the last one is altered. -/
theorem plan_schedules_pilot : pilotPlan.map PlannedOrder.index = List.range' 1 pilotPlan.length ∧
    pilotPlan.map PlannedOrder.inconsistent = List.replicate 7 false ++ [true] :=
  ⟨(plan_schedules buildPlan_pilot).2.1, by decide +kernel⟩

/-! ## What the orders-service makes of it -/

theorem field?_rows (item : Dict String Json) (key : String) : field? item.rows key = item.get? key := rfl

/-- An item that is read has the SKU of its dictionary. -/
theorem sku_of_modelValidate? {item : Dict String Json} {read : OrderItem}
    (valid : OrderItem.modelValidate? (.object item.rows) = some read) :
    item.get? "sku" = some (.string read.sku) := by
  rw [OrderItem.modelValidate?, field?_rows, field?_rows] at valid
  split at valid
  · next sku quantity found _ =>
    split_ifs at valid
    cases valid
    obtain ⟨value, here, text⟩ := Option.bind_eq_some_iff.mp found
    cases value <;> simp only [Json.text?, reduceCtorEq, Option.some_inj] at text
    rw [here, text]
  · cases valid

/-- The items of an accepted body are read one by one. -/
theorem PlannedOrder.items_of_request? {planned : PlannedOrder} {request : CreateOrderRequest}
    (accepted : planned.request? = some request) :
    List.Forall₂ (fun item read => item.get? "sku" = some (.string (OrderItem.sku read))) planned.items
      request.items := by
  rw [request?, CreateOrderRequest.modelValidate?, body, field?_cons, if_pos rfl] at accepted
  obtain ⟨items, read, accepted⟩ := Option.bind_eq_some_iff.mp accepted
  split_ifs at accepted
  cases accepted
  exact (List.forall₂_map_left_iff.mp (forall₂_of_mapM_eq_some read)).imp fun _ _ => sku_of_modelValidate?

/-- The dataset asks for items of the catalog. -/
def WorkloadFiles.Listed (files : WorkloadFiles) : Prop :=
  ∀ order ∈ files.dataset.orders, ∀ item ∈ order.items, ∃ sku ∈ files.skus, item.get? "sku" = some (.string sku)

namespace Plans

variable {sampled : OrderSampling} {workload : WorkloadSection} {fault : RawFaultSection} {files : WorkloadFiles}
  {plan : List PlannedOrder} {planned : PlannedOrder} {request : CreateOrderRequest}

/-- An altered order asks for an item outside the catalog. -/
theorem unlisted (plans : Plans sampled workload fault files plan) (member : planned ∈ plan)
    (inconsistent : planned.inconsistent = true) (accepted : planned.request? = some request) :
    ∃ item ∈ request.items, item.sku ∉ files.skus := by
  obtain ⟨order, -, offset, made⟩ := plans.exists_order member
  have read := planned.items_of_request? accepted
  cases made with
  | kept => cases inconsistent
  | @altered first rest replaced drawn items sku =>
    obtain ⟨item, others, here, -, list⟩ := List.forall₂_cons_left_iff.mp read
    rw [Dict.get?_set, if_pos rfl, Option.some_inj, Json.string.injEq] at here
    exact ⟨item, list ▸ List.mem_cons_self .., here ▸ plans.unknown⟩

/-- Every other order asks for items of the catalog, if the dataset does. -/
theorem listed (plans : Plans sampled workload fault files plan) (known : files.Listed) (member : planned ∈ plan)
    (consistent : planned.inconsistent = false) (accepted : planned.request? = some request) :
    ∀ item ∈ request.items, item.sku ∈ files.skus := by
  obtain ⟨order, among, offset, made⟩ := plans.exists_order member
  have read := planned.items_of_request? accepted
  cases made with
  | kept =>
    intro item asked
    obtain ⟨dictionary, here, sku⟩ := exists_of_forall₂ read asked
    obtain ⟨own, listed, found⟩ := known order among dictionary here
    rw [sku, Option.some_inj, Json.string.injEq] at found
    exact found ▸ listed
  | @altered first rest replaced drawn items sku =>
    obtain ⟨own, -, found⟩ := known order among first (items ▸ List.mem_cons_self ..)
    obtain rfl := Option.some_inj.mp (found.symm.trans sku)
    cases consistent

end Plans

end OrchLab
