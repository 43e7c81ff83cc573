import Mathlib.Algebra.Order.Floor.Ring
import Mathlib.Algebra.Ring.Int.Parity
import Mathlib.Data.Int.ConditionallyCompleteOrder
import Mathlib.Tactic.Linarith

/-! # Rounding to the nearest integer

Of two nearest integers the even one is taken. Rounding is monotone and leaves integers alone, so what is rounded
again does not change, and a sum with something positive does not fall behind.
-/

namespace OrchLab

variable {K : Type*} [Field K] [LinearOrder K] [FloorRing K]

/-- The nearest integer; of two the even one. -/
def roundHalfEven (x : K) : ℤ := if Int.fract x < 1 / 2 ∨ Int.fract x = 1 / 2 ∧ Even ⌊x⌋ then ⌊x⌋ else ⌊x⌋ + 1

theorem floor_le_roundHalfEven (x : K) : ⌊x⌋ ≤ roundHalfEven x := by
  rw [roundHalfEven]
  split_ifs
  · exact le_rfl
  · exact (Int.lt_succ ⌊x⌋).le

theorem roundHalfEven_le_next (x : K) : roundHalfEven x ≤ ⌊x⌋ + 1 := by
  rw [roundHalfEven]
  split_ifs
  · exact (Int.lt_succ ⌊x⌋).le
  · exact le_rfl

variable [IsStrictOrderedRing K]

@[simp] theorem roundHalfEven_intCast (n : ℤ) : roundHalfEven (n : K) = n := by
  simp [roundHalfEven]

/-- No integer is nearer. -/
theorem abs_roundHalfEven_sub_le (x : K) : |(roundHalfEven x : K) - x| ≤ 1 / 2 := by
  have parts := Int.floor_add_fract x
  have above := Int.fract_nonneg x
  have below := Int.fract_lt_one x
  rw [roundHalfEven]
  split_ifs with down
  · have near : Int.fract x ≤ 1 / 2 := down.elim le_of_lt fun half => half.1.le
    rw [abs_le]
    constructor <;> linarith
  · have far : 1 / 2 ≤ Int.fract x := not_lt.mp fun near => down (.inl near)
    push_cast
    rw [abs_le]
    constructor <;> linarith

/-- Within a unit the side is decided by the fraction; otherwise an integer lies between. -/
theorem roundHalfEven_mono : Monotone (roundHalfEven : K → ℤ) := by
  intro x y le
  rcases (Int.floor_mono le).lt_or_eq with apart | same
  · calc roundHalfEven x
      _ ≤ ⌊x⌋ + 1 := roundHalfEven_le_next x
      _ ≤ ⌊y⌋ := apart
      _ ≤ roundHalfEven y := floor_le_roundHalfEven y
  · have further : Int.fract x ≤ Int.fract y := by
      rw [Int.fract, Int.fract, same]
      exact sub_le_sub_right le _
    by_cases down : Int.fract y < 1 / 2 ∨ Int.fract y = 1 / 2 ∧ Even ⌊y⌋
    · have lower : Int.fract x < 1 / 2 ∨ Int.fract x = 1 / 2 ∧ Even ⌊x⌋ := by
        rcases down with below | ⟨half, even⟩
        · exact .inl (further.trans_lt below)
        · exact (further.trans half.le).lt_or_eq.imp_right fun here => ⟨here, same ▸ even⟩
      rw [roundHalfEven, if_pos lower, same]
      exact floor_le_roundHalfEven y
    · rw [roundHalfEven.eq_1 y, if_neg down, ← same]
      exact roundHalfEven_le_next x

end OrchLab
