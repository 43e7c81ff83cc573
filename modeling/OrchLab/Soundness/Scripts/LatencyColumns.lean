import OrchLab.Model.Scripts.Summary
import OrchLab.Soundness.Scripts.Recovery
import Mathlib.Algebra.Order.BigOperators.Group.List

/-! # The latency columns

The latency of the completed tasks is summed up by a mean, a median, a P95 and a maximum. The median is computed in its
own way and is the percentile of one half; at least half of the latencies are up to it, and all but one in twenty up to
the P95.
-/

namespace OrchLab

/-- The median is the percentile of one half. -/
theorem median_eq {values : List ℚ} (nonempty : values ≠ []) :
    median values = some (interpolate (orderStatistic values) (percentilePosition values (1 / 2))) := by
  have positive := List.length_pos_iff.mpr nonempty
  have item : ∀ i, i < values.length → (sortOn id values)[i]? = some (orderStatistic values i) := by
    intro i inside
    rw [← length_sortOn] at inside
    rw [orderStatistic_natCast inside, List.getElem?_eq_getElem inside]
  rcases Nat.even_or_odd' values.length with ⟨m, even | odd⟩
  · obtain ⟨k, rfl⟩ : ∃ k, m = k + 1 := ⟨m - 1, by omega⟩
    have position : percentilePosition values (1 / 2) = (k : ℤ) + 1 / 2 := by
      rw [percentilePosition, even]
      push_cast
      ring
    have floor : ⌊(k : ℤ) + (1 / 2 : ℚ)⌋ = k := by
      rw [Int.floor_intCast_add]
      norm_num
    have ceil : ⌈(k : ℤ) + (1 / 2 : ℚ)⌉ = (k + 1 : ℕ) := by
      rw [Int.ceil_intCast_add]
      norm_num
    have half : values.length / 2 = k + 1 := by omega
    rw [median, length_sortOn, if_neg (by omega), half, Nat.add_sub_cancel, item k (by omega), item (k + 1) (by omega),
      Option.bind_some, Option.map_some, position, interpolate, ceil, floor, Int.fract_intCast_add]
    norm_num [Int.fract]
    ring
  · have position : percentilePosition values (1 / 2) = (m : ℤ) := by
      rw [percentilePosition, odd]
      push_cast
      ring
    have half : values.length / 2 = m := by omega
    rw [median, length_sortOn, if_pos (by omega), half, item m (by omega), position, interpolate_intCast]

/-- The latencies of the completed tasks. -/
def completedLatencies (tasks : List TaskOutcome) : List ℚ :=
  (tasks.filter (·.status = some .completed)).filterMap fun task => task.e2eMs.map Int.cast

/-- The columns of consistent tasks are found. -/
theorem latencySummary_eq {tasks : List TaskOutcome} (consistent : ∀ task ∈ tasks, task.Consistent) :
    ∃ p95Ms, percentile (completedLatencies tasks) p95 = .ok p95Ms ∧ latencySummary tasks =
      .ok ⟨fmean (completedLatencies tasks), median (completedLatencies tasks), p95Ms,
        (completedLatencies tasks).max?⟩ := by
  have timed : (tasks.filter (·.status = some .completed)).mapM TaskOutcome.latency? =
      .ok (completedLatencies tasks) := by
    refine mapM_latency fun task member => ?_
    obtain ⟨known, completed⟩ := List.mem_filter.mp member
    rw [(consistent task known).timed, of_decide_eq_true completed]
    rfl
  obtain ⟨p95Ms, found, -⟩ := exists_percentile (completedLatencies tasks) p95_nonneg p95_le_one
  refine ⟨p95Ms, found, ?_⟩
  rw [latencySummary, timed]
  change (percentile (completedLatencies tasks) p95 >>= _) = _
  rw [found]
  rfl

/-- More entries than the position of a percentile are up to it. -/
theorem percentilePosition_lt_countP {values : List ℚ} {q value : ℚ} (nonempty : values ≠ []) (nonneg : 0 ≤ q)
    (le_one : q ≤ 1) (found : percentile values q = .ok (some value)) :
    percentilePosition values q < values.countP (· ≤ value) := by
  rw [percentile_eq nonempty nonneg le_one] at found
  have reached : orderStatistic values ⌊percentilePosition values q⌋ ≤ value := by
    rw [← Option.some.inj (Except.ok.inj found)]
    exact floor_le_interpolate (monotone_orderStatistic nonempty) _
  obtain ⟨low, high⟩ := percentilePosition_inside nonempty nonneg le_one
  obtain ⟨i, is⟩ := Int.eq_ofNat_of_zero_le low
  have inside : i < (sortOn id values).length := by
    have between := Int.floor_le_ceil (percentilePosition values q)
    rw [length_sortOn]
    omega
  rw [is, orderStatistic_natCast inside, getElem_le_iff (pairwise_sortOn values), (sortOn_perm id values).countP_eq]
    at reached
  calc percentilePosition values q
    _ < ⌊percentilePosition values q⌋ + 1 := Int.lt_floor_add_one _
    _ ≤ values.countP (· ≤ value) := by
      rw [is]
      exact_mod_cast reached

/-- A mean lies between bounds of the values. -/
theorem fmean_between {values : List ℚ} {low high : ℚ} (nonempty : values ≠ [])
    (bounds : ∀ value ∈ values, low ≤ value ∧ value ≤ high) :
    ∃ mean, fmean values = some mean ∧ low ≤ mean ∧ mean ≤ high := by
  have positive : (0 : ℚ) < values.length := by
    exact_mod_cast List.length_pos_iff.mpr nonempty
  refine ⟨_, by rw [fmean, if_neg (by simpa using nonempty)], ?_, ?_⟩
  · rw [le_div_iff₀ positive]
    have sum := List.card_nsmul_le_sum values low fun value member => (bounds value member).1
    rwa [nsmul_eq_mul, mul_comm] at sum
  · rw [div_le_iff₀ positive]
    have sum := List.sum_le_card_nsmul values high fun value member => (bounds value member).2
    rwa [nsmul_eq_mul, mul_comm] at sum

/-- The median is a percentile and covers half of the latencies, the P95 all but one in twenty of the others; they are
ordered up to the maximum, and the mean is within the range. -/
structure LatencySummary.Sound (latencies : List ℚ) (summary : LatencySummary) : Prop where
  empty : latencies = [] → summary = ⟨none, none, none, none⟩
  ordered : latencies ≠ [] → ∃ mean median p95Ms least greatest,
    summary = ⟨some mean, some median, some p95Ms, some greatest⟩ ∧ percentile latencies (1 / 2) = .ok (some median) ∧
    IsLeast {latency | latency ∈ latencies} least ∧ IsGreatest {latency | latency ∈ latencies} greatest ∧
    least ≤ median ∧ median ≤ p95Ms ∧ p95Ms ≤ greatest ∧ least ≤ mean ∧ mean ≤ greatest ∧
    latencies.length ≤ 2 * latencies.countP (· ≤ median) ∧
    19 * (latencies.length - 1) < 20 * latencies.countP (· ≤ p95Ms)

/-- Of whatever events and decisions, the latencies of the completed tasks have sound columns. -/
theorem latency_columns_sound (events : List TaskEventRecord) (decisions : List DecisionRecord) : ∃ summary,
    latencySummary (taskOutcomes events decisions) = .ok summary ∧
      summary.Sound (completedLatencies (taskOutcomes events decisions)) := by
  obtain ⟨p95Ms, found, computed⟩ := latencySummary_eq (taskOutcomes_consistent events decisions)
  refine ⟨_, computed, fun none => ?_, fun nonempty => ?_⟩
  · rw [none] at found ⊢
    cases found
    rfl
  generalize completedLatencies (taskOutcomes events decisions) = latencies at *
  have least := isLeast_orderStatistic nonempty
  have greatest := isGreatest_orderStatistic nonempty
  obtain ⟨mean, averaged, above, below⟩ := fmean_between nonempty fun value member =>
    ⟨least.2 member, greatest.2 member⟩
  have half : percentile latencies (1 / 2) = .ok (median latencies) := by
    rw [percentile_eq nonempty (by norm_num) (by norm_num), median_eq nonempty]
  have middle := median_eq nonempty
  have quantile := Except.ok.inj (found.symm.trans (percentile_eq nonempty p95_nonneg p95_le_one))
  have maximum : latencies.max? = some (orderStatistic latencies (latencies.length - 1)) :=
    List.max?_eq_some_iff.mpr ⟨greatest.1, fun value member => greatest.2 member⟩
  rw [middle] at half
  rw [quantile] at found
  have most := percentilePosition_lt_countP nonempty p95_nonneg p95_le_one found
  have many := percentilePosition_lt_countP nonempty (by norm_num) (by norm_num) half
  refine ⟨mean, _, _, _, _, by rw [averaged, middle, quantile, maximum], half, least, greatest,
    (percentile_between nonempty (by norm_num) (by norm_num)).1, ?_,
    (percentile_between nonempty p95_nonneg p95_le_one).2, above, below, ?_, ?_⟩
  · refine interpolate_mono (monotone_orderStatistic nonempty) ?_
    exact mul_le_mul_of_nonneg_left (by norm_num [p95]) (last_nonneg nonempty)
  · generalize latencies.countP _ = count at many ⊢
    have twice : ((latencies.length - 1 : ℤ) : ℚ) < (2 * count : ℕ) := by
      rw [percentilePosition] at many
      push_cast at many ⊢
      linarith
    have less := Int.cast_lt.mp (twice.trans_eq (Int.cast_natCast _).symm)
    omega
  · generalize latencies.countP _ = count at most ⊢
    have twenty : ((19 * (latencies.length - 1) : ℤ) : ℚ) < (20 * count : ℕ) := by
      rw [percentilePosition, p95] at most
      push_cast at most ⊢
      linarith
    have less := Int.cast_lt.mp (twenty.trans_eq (Int.cast_natCast _).symm)
    have positive := List.length_pos_iff.mpr nonempty
    omega

end OrchLab
