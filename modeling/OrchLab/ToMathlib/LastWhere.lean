import Mathlib.Data.List.Basic

/-! # The last element of a list that satisfies a test

A log is read back with "the newest row such that": the last element of the filtered list. What an
appended element does to it is the only fact its users need.
-/

namespace OrchLab

variable {α : Type*} (p : α → Bool)

/-- The last element satisfying `p`. -/
def lastWhere (l : List α) : Option α := (l.filter p).getLast?

@[simp] theorem lastWhere_concat (l : List α) (a : α) :
    lastWhere p (l ++ [a]) = if p a then some a else lastWhere p l := by
  rw [lastWhere, List.filter_append]
  split_ifs with holds
  · simp [holds]
  · simp [holds, lastWhere]

variable {p} {l : List α} {a : α}

theorem mem_of_lastWhere (found : lastWhere p l = some a) : a ∈ l :=
  List.mem_of_mem_filter (List.mem_of_getLast? found)

theorem holds_of_lastWhere (found : lastWhere p l = some a) : p a = true :=
  List.of_mem_filter (List.mem_of_getLast? found)

end OrchLab
