import OrchLab.Model.Scripts.Metrics
import OrchLab.ToMathlib.Interpolation
import OrchLab.ToMathlib.OrderStatistics
import Mathlib.Tactic.Positivity

/-! # Percentiles

For a quantile between 0 and 1 both positions between which a percentile interpolates are in the list, so it is the
interpolation of the order statistics of the values. Its laws are theirs: they forget the order of the values, do not
fall along the positions, do not fall when values rise, and follow an increasing function of the values.
-/

namespace OrchLab

theorem itemAt_natCast {α : Type*} {values : List α} {index : ℕ} (bound : index < values.length) :
    itemAt values index = .ok values[index] := by
  have counted : ¬(index : ℤ) < 0 := Int.not_lt.mpr (Int.natCast_nonneg index)
  rw [itemAt, if_neg counted, Int.toNat_natCast, List.getElem?_eq_getElem bound]

/-- The item of the sorted values at a position of the list. -/
theorem itemAt_sortOn {values : List ℚ} {index : ℤ} (nonneg : 0 ≤ index) (bound : index < values.length) :
    itemAt (sortOn id values) index = .ok (orderStatistic values index) := by
  obtain ⟨n, rfl⟩ := Int.eq_ofNat_of_zero_le nonneg
  have inside : n < (sortOn id values).length := by
    rw [length_sortOn]
    exact Int.ofNat_lt.mp bound
  rw [itemAt_natCast inside, orderStatistic_natCast inside]

/-- The place of a quantile between the first position of the sorted values and the last. -/
def percentilePosition (values : List ℚ) (q : ℚ) : ℚ := (values.length - 1 : ℤ) * q

section

variable {values : List ℚ} {q : ℚ} (nonempty : values ≠ []) (nonneg : 0 ≤ q) (le_one : q ≤ 1)
include nonempty

theorem last_nonneg : (0 : ℚ) ≤ (values.length - 1 : ℤ) := by
  have positive := List.length_pos_iff.mpr nonempty
  have counted : (0 : ℤ) ≤ values.length - 1 := by omega
  exact_mod_cast counted

include nonneg le_one

/-- Both neighbours of the position are positions of the list. -/
theorem percentilePosition_inside :
    0 ≤ ⌊percentilePosition values q⌋ ∧ ⌈percentilePosition values q⌉ < values.length := by
  have last := last_nonneg nonempty
  have above : 0 ≤ percentilePosition values q := mul_nonneg last nonneg
  have upTo : percentilePosition values q ≤ (values.length - 1 : ℤ) := mul_le_of_le_one_right last le_one
  exact ⟨Int.floor_nonneg.mpr above, Int.lt_of_le_sub_one (Int.ceil_le.mpr upTo)⟩

/-- A percentile interpolates the order statistics. -/
theorem percentile_eq : percentile values q =
    .ok (some (interpolate (orderStatistic values) (percentilePosition values q))) := by
  obtain ⟨low, high⟩ := percentilePosition_inside nonempty nonneg le_one
  have between := Int.floor_le_ceil (percentilePosition values q)
  have lower := itemAt_sortOn low (between.trans_lt high)
  have upper := itemAt_sortOn (low.trans between) high
  rw [percentilePosition] at lower upper
  rw [percentile, if_neg (by simpa using nonempty)]
  simp only [length_sortOn, lower, upper]
  rfl

end

/-- A percentile is found, and it is empty for no values only. -/
theorem exists_percentile (values : List ℚ) {q : ℚ} (nonneg : 0 ≤ q) (le_one : q ≤ 1) :
    ∃ result, percentile values q = .ok result ∧ (result = none ↔ values = []) := by
  by_cases empty : values = []
  · subst empty
    exact ⟨none, rfl, iff_of_true rfl rfl⟩
  · exact ⟨_, percentile_eq empty nonneg le_one, iff_of_false (by simp) empty⟩

theorem p95_nonneg : 0 ≤ p95 := by norm_num [p95]

theorem p95_le_one : p95 ≤ 1 := by norm_num [p95]

/-! ## The laws of a percentile -/

theorem percentile_of_perm {values values' : List ℚ} (same : values'.Perm values) (q : ℚ) :
    percentile values' q = percentile values q := by
  rw [percentile, percentile, sortOn_congr same, same.isEmpty_eq]

/-- The first position is that of the least value, and the last that of the greatest. -/
theorem percentile_between {values : List ℚ} {q : ℚ} (nonempty : values ≠ []) (nonneg : 0 ≤ q)
    (le_one : q ≤ 1) :
    orderStatistic values 0 ≤ interpolate (orderStatistic values) (percentilePosition values q) ∧
      interpolate (orderStatistic values) (percentilePosition values q) ≤
        orderStatistic values (values.length - 1) := by
  have increasing := interpolate_mono (K := ℚ) (monotone_orderStatistic nonempty)
  have last := last_nonneg nonempty
  constructor
  · rw [← interpolate_intCast (orderStatistic values) 0]
    apply increasing
    rw [Int.cast_zero]
    exact mul_nonneg last nonneg
  · rw [← interpolate_intCast (K := ℚ) (orderStatistic values) (values.length - 1)]
    exact increasing (mul_le_of_le_one_right last le_one)

/-- An increasing function of the form `c * v + d` of the values gives that function of the percentile. -/
private theorem percentile_map {values : List ℚ} {q c : ℚ} (nonempty : values ≠ []) (nonneg : 0 ≤ q) (le_one : q ≤ 1)
    (factor : 0 ≤ c) (d : ℚ) : percentile (values.map fun v => c * v + d) q =
      .ok (some (c * interpolate (orderStatistic values) (percentilePosition values q) + d)) := by
  have increasing : Monotone fun v : ℚ => c * v + d := fun v w le =>
    add_le_add_left (mul_le_mul_of_nonneg_left le factor) d
  have nonempty' : values.map (fun v => c * v + d) ≠ [] := by simpa using nonempty
  have images : orderStatistic (values.map fun v => c * v + d) =
      fun position => c * orderStatistic values position + d :=
    funext (orderStatistic_map increasing nonempty)
  rw [percentile_eq nonempty' nonneg le_one, images, interpolate_affine, percentilePosition, List.length_map]
  rfl

/-- A percentile is read within the sorted values, forgets their order and lies between them; it rises with the
quantile and the values, and moves with a shift or a scale of them. -/
structure PercentileLaws (values : List ℚ) (q value : ℚ) : Prop where
  inside : 0 ≤ ⌊percentilePosition values q⌋ ∧ ⌈percentilePosition values q⌉ < values.length
  unordered : ∀ values', values'.Perm values → percentile values' q = .ok (some value)
  between : ∃ low high, IsLeast {v | v ∈ values} low ∧ IsGreatest {v | v ∈ values} high ∧
    low ≤ value ∧ value ≤ high ∧ (q = 0 → value = low) ∧ (q = 1 → value = high)
  quantile : ∀ q', q ≤ q' → q' ≤ 1 → ∃ value', percentile values q' = .ok (some value') ∧ value ≤ value'
  increased : ∀ values', List.Forall₂ (· ≤ ·) values values' →
    ∃ value', percentile values' q = .ok (some value') ∧ value ≤ value'
  shifted : ∀ c, percentile (values.map (· + c)) q = .ok (some (value + c))
  scaled : ∀ c, 0 ≤ c → percentile (values.map (c * ·)) q = .ok (some (c * value))

/-- The percentile of any values is found and well behaved. -/
theorem percentile_is_well_behaved (values : List ℚ) (nonempty : values ≠ []) (q : ℚ) (nonneg : 0 ≤ q)
    (le_one : q ≤ 1) : ∃ value, percentile values q = .ok (some value) ∧ PercentileLaws values q value := by
  have found := percentile_eq nonempty nonneg le_one
  have last := last_nonneg nonempty
  refine ⟨_, found, ?_⟩
  constructor
  · exact percentilePosition_inside nonempty nonneg le_one
  · intro values' same
    rw [percentile_of_perm same, found]
  · obtain ⟨above, below⟩ := percentile_between nonempty nonneg le_one
    refine ⟨_, _, isLeast_orderStatistic nonempty, isGreatest_orderStatistic nonempty, above, below, ?_, ?_⟩
    · rintro rfl
      rw [percentilePosition, mul_zero]
      exact interpolate_intCast (K := ℚ) (orderStatistic values) 0
    · rintro rfl
      rw [percentilePosition, mul_one, interpolate_intCast]
  · intro q' further le_one'
    refine ⟨_, percentile_eq nonempty (nonneg.trans further) le_one', ?_⟩
    exact interpolate_mono (monotone_orderStatistic nonempty) (mul_le_mul_of_nonneg_left further last)
  · intro values' larger
    have count := larger.length_eq
    have nonempty' : values' ≠ [] := by
      rintro rfl
      exact nonempty (List.length_eq_zero_iff.mp count)
    refine ⟨_, percentile_eq nonempty' nonneg le_one, ?_⟩
    have same : percentilePosition values' q = percentilePosition values q := by
      rw [percentilePosition, percentilePosition, count]
    rw [same]
    exact interpolate_le_interpolate (orderStatistic_le larger _) (orderStatistic_le larger _)
  · intro c
    simpa only [one_mul] using percentile_map nonempty nonneg le_one zero_le_one c
  · intro c factor
    simpa only [add_zero] using percentile_map nonempty nonneg le_one factor 0

/-- The median of four values lies halfway between the two in the middle. -/
theorem percentile_is_well_behaved_median : ∃ value, percentile [3, 1, 4, 2] (1 / 2) = .ok (some value) ∧
    PercentileLaws [3, 1, 4, 2] (1 / 2) value ∧ value = 5 / 2 := by
  have median : percentile [3, 1, 4, 2] (1 / 2) = .ok (some (5 / 2)) := by decide +kernel
  obtain ⟨value, found, laws⟩ :=
    percentile_is_well_behaved [3, 1, 4, 2] (by decide) (1 / 2) (by norm_num) (by norm_num)
  rw [median] at found
  cases found
  exact ⟨_, median, laws, rfl⟩

end OrchLab
