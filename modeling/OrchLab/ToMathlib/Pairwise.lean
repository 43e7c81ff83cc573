import Mathlib.Data.List.Pairwise

/-! # Lists with at most one element of a kind

A relation that holds between the earlier and the later elements of a list, and that no element of a kind
has with another, leaves room for one of them.
-/

namespace OrchLab

variable {α : Type*} {l : List α}

theorem length_le_one_of_pairwise {R : α → α → Prop} (pairs : l.Pairwise R) (no : ∀ a ∈ l, ∀ b ∈ l, ¬R a b) :
    l.length ≤ 1 := by
  rcases l with _ | ⟨a, _ | ⟨b, rest⟩⟩
  · exact Nat.zero_le _
  · exact Nat.le_refl _
  · exact absurd (List.rel_of_pairwise_cons pairs (List.mem_cons_self ..)) (no a (by simp) b (by simp))

theorem rel_or_rel_of_pairwise {R : α → α → Prop} (pairs : l.Pairwise R) {a b : α} (here : a ∈ l) (there : b ∈ l)
    (apart : a ≠ b) : R a b ∨ R b a :=
  have : Std.Symm fun a b => R a b ∨ R b a := ⟨fun _ _ => Or.symm⟩
  List.Pairwise.forall (R := fun a b => R a b ∨ R b a) (pairs.imp Or.inl) here there apart

theorem countP_le_one_of_pairwise {p : α → Bool}
    (apart : l.Pairwise fun earlier later => p earlier = true → p later = false) : l.countP p ≤ 1 := by
  rw [List.countP_eq_length_filter]
  refine length_le_one_of_pairwise (apart.filter p) fun a here b there excludes => ?_
  have fails := excludes (List.mem_filter.mp here).2
  rw [(List.mem_filter.mp there).2] at fails
  cases fails

end OrchLab
