import Mathlib.Algebra.Order.Floor.Ring
import Mathlib.Data.Int.ConditionallyCompleteOrder
import Mathlib.Tactic.GCongr
import Mathlib.Tactic.Linarith
import Mathlib.Tactic.Ring

/-! # Linear interpolation between integers

A function on the integers extends to a piecewise linear one. Between two neighbours it is a weighted mean, so it
keeps bounds and comparisons between functions; an increasing function stays increasing within a segment, and across
segments because the integers between them separate the values.
-/

namespace OrchLab

variable {K : Type*} [Field K] [LinearOrder K] [IsStrictOrderedRing K] [FloorRing K]

/-- The values at the neighbouring integers, in proportion to the distances from them. -/
def interpolate (f : ℤ → K) (x : K) : K := f ⌊x⌋ + (f ⌈x⌉ - f ⌊x⌋) * Int.fract x

variable {f g : ℤ → K} {x y : K}

@[simp] theorem interpolate_intCast (f : ℤ → K) (n : ℤ) : interpolate f n = f n := by
  simp [interpolate]

/-- Also at an integer the next one may be taken for the upper neighbour. -/
theorem interpolate_eq_next (f : ℤ → K) (x : K) :
    interpolate f x = f ⌊x⌋ + (f (⌊x⌋ + 1) - f ⌊x⌋) * Int.fract x := by
  by_cases whole : x ∈ Set.range (Int.cast : ℤ → K)
  · obtain ⟨n, rfl⟩ := whole
    simp
  · rw [interpolate, (Int.ceil_eq_floor_add_one_iff_notMem x).mpr whole]

omit [IsStrictOrderedRing K] in
theorem interpolate_eq_mean (f : ℤ → K) (x : K) :
    interpolate f x = (1 - Int.fract x) * f ⌊x⌋ + Int.fract x * f ⌈x⌉ := by
  rw [interpolate]
  ring

/-- Larger values at the neighbours. -/
theorem interpolate_le_interpolate (lower : f ⌊x⌋ ≤ g ⌊x⌋) (upper : f ⌈x⌉ ≤ g ⌈x⌉) :
    interpolate f x ≤ interpolate g x := by
  have above := Int.fract_nonneg x
  have below : 0 ≤ 1 - Int.fract x := sub_nonneg.mpr (Int.fract_lt_one x).le
  rw [interpolate_eq_mean, interpolate_eq_mean]
  gcongr

omit [IsStrictOrderedRing K] in
/-- The values may be scaled and shifted before or after. -/
theorem interpolate_affine (f : ℤ → K) (x c d : K) :
    interpolate (fun n => c * f n + d) x = c * interpolate f x + d := by
  simp only [interpolate]
  ring

section Monotone

variable (increasing : Monotone f)
include increasing

theorem floor_le_interpolate (x : K) : f ⌊x⌋ ≤ interpolate f x := by
  have rises : 0 ≤ f ⌈x⌉ - f ⌊x⌋ := sub_nonneg.mpr (increasing (Int.floor_le_ceil x))
  exact le_add_of_nonneg_right (mul_nonneg rises (Int.fract_nonneg x))

theorem interpolate_le_next (x : K) : interpolate f x ≤ f (⌊x⌋ + 1) := by
  have rises : 0 ≤ f (⌊x⌋ + 1) - f ⌊x⌋ := sub_nonneg.mpr (increasing (Int.lt_succ ⌊x⌋).le)
  have part := mul_le_of_le_one_right rises (Int.fract_lt_one x).le
  rw [interpolate_eq_next]
  linarith

/-- Within a segment the slope is not negative; otherwise an integer lies between. -/
theorem interpolate_mono : Monotone (interpolate f) := by
  intro x y le
  rcases (Int.floor_mono le).lt_or_eq with apart | same
  · calc interpolate f x
      _ ≤ f (⌊x⌋ + 1) := interpolate_le_next increasing x
      _ ≤ f ⌊y⌋ := increasing apart
      _ ≤ interpolate f y := floor_le_interpolate increasing y
  · have rises : 0 ≤ f (⌊x⌋ + 1) - f ⌊x⌋ := sub_nonneg.mpr (increasing (Int.lt_succ ⌊x⌋).le)
    have further : Int.fract x ≤ Int.fract y := by
      rw [Int.fract, Int.fract, same]
      exact sub_le_sub_right le _
    rw [interpolate_eq_next f x, interpolate_eq_next f y, ← same]
    gcongr

end Monotone

end OrchLab
