import Mathlib.Data.List.Basic

/-! # The first run of flags

The earliest position from which a given number of consecutive flags are set, by trying the positions in order.
-/

namespace OrchLab

/-- The flags at the next `k` positions exist and are set. -/
def RunAt (k : ℕ) (flags : List Bool) (i : ℕ) : Prop := ∀ j < k, flags[i + j]? = some true

/-- The earliest position at which a window of `k` flags is all set. -/
def firstRun (k : ℕ) (flags : List Bool) : Option ℕ :=
  (List.range (flags.length + 1 - k)).find? fun index => ((flags.drop index).take k).all id

section

variable {k i : ℕ} {flags more : List Bool}

theorem RunAt.le_length (positive : 1 ≤ k) (run : RunAt k flags i) : i + k ≤ flags.length := by
  obtain ⟨bound, -⟩ := List.getElem?_eq_some_iff.mp (run (k - 1) (by omega))
  omega

theorem RunAt.append (run : RunAt k flags i) : RunAt k (flags ++ more) i := by
  intro j inside
  obtain ⟨bound, -⟩ := List.getElem?_eq_some_iff.mp (run j inside)
  rw [List.getElem?_append_left bound]
  exact run j inside

theorem RunAt.of_append (within : i + k ≤ flags.length) (run : RunAt k (flags ++ more) i) : RunAt k flags i := by
  intro j inside
  have bound : i + j < flags.length := by omega
  rw [← List.getElem?_append_left bound]
  exact run j inside

theorem all_window_iff (within : i + k ≤ flags.length) :
    ((flags.drop i).take k).all id = true ↔ RunAt k flags i := by
  rw [List.all_eq_true, List.forall_mem_iff_getElem]
  constructor
  · intro set j inside
    have bound : i + j < flags.length := by omega
    have here := set j (by simp only [List.length_take, List.length_drop]; omega)
    rw [List.getElem?_eq_getElem bound]
    simpa using here
  · intro run j inside
    have below : j < k := by
      rw [List.length_take] at inside
      omega
    obtain ⟨bound, here⟩ := List.getElem?_eq_some_iff.mp (run j below)
    simpa using here

/-- The search finds the earliest run. -/
theorem firstRun_eq_some_iff (positive : 1 ≤ k) :
    firstRun k flags = some i ↔ RunAt k flags i ∧ ∀ earlier < i, ¬RunAt k flags earlier := by
  rw [firstRun, List.find?_range_eq_some, List.mem_range]
  constructor
  · rintro ⟨set, bound, unset⟩
    have within : i + k ≤ flags.length := by omega
    refine ⟨(all_window_iff within).mp set, fun earlier before run => ?_⟩
    have none := unset earlier before
    rw [(all_window_iff (by omega)).mpr run] at none
    cases none
  · rintro ⟨run, first⟩
    have within := run.le_length positive
    refine ⟨(all_window_iff within).mpr run, by omega, fun earlier before => ?_⟩
    rw [Bool.not_eq_true', ← Bool.not_eq_true, all_window_iff (by omega)]
    exact first earlier before

/-- The search finds nothing exactly when there is no run. -/
theorem firstRun_eq_none_iff (positive : 1 ≤ k) : firstRun k flags = none ↔ ∀ i, ¬RunAt k flags i := by
  rw [firstRun, List.find?_range_eq_none]
  constructor
  · intro unset i run
    have within := run.le_length positive
    have none := unset i (by omega)
    rw [(all_window_iff within).mpr run] at none
    cases none
  · intro no i bound
    rw [Bool.not_eq_true', ← Bool.not_eq_true, all_window_iff (by omega)]
    exact no i

/-- More flags behind do not move the earliest run. -/
theorem firstRun_append (positive : 1 ≤ k) (found : firstRun k flags = some i) :
    firstRun k (flags ++ more) = some i := by
  rw [firstRun_eq_some_iff positive] at found ⊢
  refine ⟨found.1.append, fun earlier before run => found.2 earlier before (run.of_append ?_)⟩
  have within := found.1.le_length positive
  omega

end

end OrchLab
