import OrchLab.ToMathlib.SortOn
import Mathlib.Algebra.Order.Floor.Ring
import Mathlib.Data.Int.ConditionallyCompleteOrder

/-! # Order statistics

The entry of the sorted list at a position is at most a bound exactly when more entries than that are. How many are
is counted in the list as it comes, where larger entries can be compared one by one.
-/

namespace OrchLab

variable {α : Type*} [LinearOrder α]

theorem pairwise_sortOn (l : List α) : (sortOn id l).Pairwise (· ≤ ·) := List.pairwise_insertionSort _ l

@[simp] theorem length_sortOn (l : List α) : (sortOn id l).length = l.length := List.length_insertionSort _ l

/-- There is one sorted list of the same entries. -/
theorem eq_sortOn {l sorted : List α} (same : sorted.Perm l) (ordered : sorted.Pairwise (· ≤ ·)) :
    sorted = sortOn id l :=
  (same.trans (sortOn_perm id l).symm).eq_of_pairwise' ordered (pairwise_sortOn l)

theorem sortOn_congr {l l' : List α} (same : l'.Perm l) : sortOn id l' = sortOn id l :=
  eq_sortOn ((sortOn_perm id l').trans same) (pairwise_sortOn l')

/-- An increasing function may be applied before or after sorting. -/
theorem sortOn_map {β : Type*} [LinearOrder β] {f : α → β} (increasing : Monotone f) (l : List α) :
    sortOn id (l.map f) = (sortOn id l).map f :=
  (eq_sortOn ((sortOn_perm id l).map f) ((pairwise_sortOn l).map f fun _ _ le => increasing le)).symm

/-- In a sorted list the entries up to a bound are the first ones. -/
theorem getElem_le_iff {l : List α} (ordered : l.Pairwise (· ≤ ·)) {i : ℕ} (inside : i < l.length) (bound : α) :
    l[i] ≤ bound ↔ i < l.countP (· ≤ bound) := by
  induction l generalizing i with
  | nil => cases inside
  | cons first rest ih =>
    obtain ⟨least, ordered'⟩ := List.pairwise_cons.mp ordered
    by_cases within : first ≤ bound
    · rw [List.countP_cons_of_pos (by simpa using within)]
      cases i with
      | zero => simpa using within
      | succ i => simpa using ih ordered' (Nat.lt_of_succ_lt_succ inside)
    · have none : (first :: rest).countP (· ≤ bound) = 0 := by
        rw [List.countP_eq_zero]
        intro entry member
        rw [decide_eq_true_eq]
        rcases List.mem_cons.mp member with rfl | later
        · exact within
        · exact fun le => within ((least entry later).trans le)
      rw [none]
      refine iff_of_false (fun le => within ?_) (Nat.not_lt_zero i)
      cases i with
      | zero => exact le
      | succ i => exact (least _ (List.getElem_mem _)).trans le

theorem countP_le_of_forall₂ {l l' : List α} (larger : List.Forall₂ (· ≤ ·) l l') (bound : α) :
    l'.countP (· ≤ bound) ≤ l.countP (· ≤ bound) := by
  induction larger with
  | nil => rfl
  | @cons a b l l' le _ ih =>
    rw [List.countP_cons, List.countP_cons]
    refine Nat.add_le_add ih ?_
    split_ifs with after before
    · exact le_rfl
    · exact absurd (decide_eq_true (le.trans (of_decide_eq_true after))) before
    · exact Nat.zero_le _
    · exact le_rfl

/-- Larger entries have larger order statistics, wherever the sorting moves them. -/
theorem getElem_sortOn_le {l l' : List α} (larger : List.Forall₂ (· ≤ ·) l l') {i : ℕ}
    (inside : i < (sortOn id l).length) (inside' : i < (sortOn id l').length) :
    (sortOn id l)[i] ≤ (sortOn id l')[i] := by
  rw [getElem_le_iff (pairwise_sortOn l), (sortOn_perm id l).countP_eq]
  refine lt_of_lt_of_le ?_ (countP_le_of_forall₂ larger _)
  rw [← (sortOn_perm id l').countP_eq, ← getElem_le_iff (pairwise_sortOn l') inside']

/-! ## Positions on the integers -/

variable [Inhabited α]

/-- The entry of the sorted list at a position; before the first it is the first, and behind the last the last. -/
def orderStatistic (l : List α) (position : ℤ) : α :=
  ((sortOn id l)[min position.toNat (l.length - 1)]?).getD default

theorem exists_orderStatistic {l : List α} (nonempty : l ≠ []) (position : ℤ) :
    ∃ i, ∃ inside : i < (sortOn id l).length, i = min position.toNat (l.length - 1) ∧
      orderStatistic l position = (sortOn id l)[i] := by
  have positive := List.length_pos_iff.mpr nonempty
  have inside : min position.toNat (l.length - 1) < (sortOn id l).length := by
    rw [length_sortOn]
    omega
  exact ⟨_, inside, rfl, by rw [orderStatistic, List.getElem?_eq_getElem inside, Option.getD_some]⟩

theorem orderStatistic_natCast {l : List α} {i : ℕ} (inside : i < (sortOn id l).length) :
    orderStatistic l i = (sortOn id l)[i] := by
  have same : min (i : ℤ).toNat (l.length - 1) = i := by
    rw [length_sortOn] at inside
    omega
  rw [orderStatistic, same, List.getElem?_eq_getElem inside, Option.getD_some]

theorem monotone_orderStatistic {l : List α} (nonempty : l ≠ []) : Monotone (orderStatistic l) := by
  intro low high le
  obtain ⟨i, inside, here, is⟩ := exists_orderStatistic nonempty low
  obtain ⟨j, inside', there, is'⟩ := exists_orderStatistic nonempty high
  rw [is, is']
  have order : i ≤ j := by omega
  rcases order.lt_or_eq with before | rfl
  · exact List.pairwise_iff_getElem.mp (pairwise_sortOn l) i j inside inside' before
  · exact le_rfl

theorem orderStatistic_map {f : α → α} (increasing : Monotone f) {l : List α} (nonempty : l ≠ []) (position : ℤ) :
    orderStatistic (l.map f) position = f (orderStatistic l position) := by
  obtain ⟨i, inside, here, is⟩ := exists_orderStatistic nonempty position
  rw [is, orderStatistic, sortOn_map increasing, List.length_map, ← here, List.getElem?_map,
    List.getElem?_eq_getElem inside, Option.map_some, Option.getD_some]

theorem orderStatistic_le {l l' : List α} (larger : List.Forall₂ (· ≤ ·) l l') (position : ℤ) :
    orderStatistic l position ≤ orderStatistic l' position := by
  have count := larger.length_eq
  by_cases nonempty : l = []
  · subst nonempty
    obtain rfl := List.forall₂_nil_left_iff.mp larger
    exact le_rfl
  · have nonempty' : l' ≠ [] := by
      rintro rfl
      exact nonempty (List.length_eq_zero_iff.mp count)
    obtain ⟨i, inside, here, is⟩ := exists_orderStatistic nonempty position
    obtain ⟨j, inside', there, is'⟩ := exists_orderStatistic nonempty' position
    obtain rfl : i = j := by rw [here, there, count]
    rw [is, is']
    exact getElem_sortOn_le larger inside inside'

theorem orderStatistic_mem {l : List α} (nonempty : l ≠ []) (position : ℤ) : orderStatistic l position ∈ l := by
  obtain ⟨i, inside, -, is⟩ := exists_orderStatistic nonempty position
  rw [is, ← mem_sortOn id]
  exact List.getElem_mem inside

/-- Every entry is at a position of the list. -/
theorem exists_position {l : List α} {a : α} (member : a ∈ l) : ∃ i : ℕ, i < l.length ∧ orderStatistic l i = a := by
  obtain ⟨i, inside, here⟩ := List.mem_iff_getElem.mp ((mem_sortOn id).mpr member)
  exact ⟨i, length_sortOn l ▸ inside, (orderStatistic_natCast inside).trans here⟩

/-- The first order statistic is the least entry. -/
theorem isLeast_orderStatistic {l : List α} (nonempty : l ≠ []) : IsLeast {a | a ∈ l} (orderStatistic l 0) := by
  refine ⟨orderStatistic_mem nonempty 0, fun a member => ?_⟩
  obtain ⟨i, -, rfl⟩ := exists_position member
  exact monotone_orderStatistic nonempty (Int.natCast_nonneg i)

/-- The last order statistic is the greatest entry. -/
theorem isGreatest_orderStatistic {l : List α} (nonempty : l ≠ []) :
    IsGreatest {a | a ∈ l} (orderStatistic l (l.length - 1)) := by
  refine ⟨orderStatistic_mem nonempty _, fun a member => ?_⟩
  obtain ⟨i, inside, rfl⟩ := exists_position member
  exact monotone_orderStatistic nonempty (by omega)

end OrchLab
