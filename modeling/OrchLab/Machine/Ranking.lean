import OrchLab.Machine.Run

/-! # Rankings

A path continues a run from any state, in an environment that may promise more from there on. When its steps
lower a rank of the reachable states, the rank bounds every path, and every reachable state has a path to one
where the machine rests: no step is offered there.
-/

namespace OrchLab

namespace Machine

variable {σ Λ : Type*} {m : Machine σ Λ}

/-- A finite path from a state, with the labels of its steps. -/
inductive Path (m : Machine σ Λ) : σ → List Λ → σ → Prop
  | nil (s : σ) : Path m s [] s
  | cons {s t u : σ} {l : Λ} {labels : List Λ} (offered : m.admissible s l) (step : m.step s l = some t)
      (rest : Path m t labels u) : Path m s (l :: labels) u

/-- No step is offered. -/
def Rests (m : Machine σ Λ) (s : σ) : Prop := ∀ l t, m.admissible s l → m.step s l ≠ some t

/-- Where nothing is offered, a stronger environment offers nothing. -/
theorem Rests.restrict {C : σ → Λ → Prop} {s : σ} (rests : m.Rests s) : (m.restrict C).Rests s :=
  fun l t offered => rests l t offered.1

/-- A path within a stronger environment stays within what is reachable. -/
theorem Reachable.path {C : σ → Λ → Prop} {s t : σ} {labels : List Λ} (reachable : m.Reachable s)
    (path : Path (m.restrict C) s labels t) : m.Reachable t := by
  induction path with
  | nil => exact reachable
  | cons offered step _ ih => exact ih (reachable.snoc offered.1 step)

section Ranking

variable {C : σ → Λ → Prop} {rank : σ → ℕ}
  (falls : ∀ s l t, m.Reachable s → (m.restrict C).admissible s l → m.step s l = some t → rank t < rank s)
include falls

/-- A path is no longer than its start ranks. -/
theorem Path.length_le {s t : σ} {labels : List Λ} (path : Path (m.restrict C) s labels t)
    (reachable : m.Reachable s) : labels.length + rank t ≤ rank s := by
  induction path with
  | nil => simp
  | cons offered step _ ih =>
    have shorter := ih (reachable.snoc offered.1 step)
    have lower := falls _ _ _ reachable offered step
    rw [List.length_cons]
    omega

/-- Some path leads to rest. -/
theorem Reachable.exists_path_rests {s : σ} (reachable : m.Reachable s) :
    ∃ labels t, Path (m.restrict C) s labels t ∧ (m.restrict C).Rests t := by
  induction level : rank s using Nat.strongRecOn generalizing s with
  | ind n ih =>
    by_cases rests : (m.restrict C).Rests s
    · exact ⟨[], s, .nil s, rests⟩
    · simp only [Rests, not_forall, not_not] at rests
      obtain ⟨l, t, offered, step⟩ := rests
      have lower := falls s l t reachable offered step
      obtain ⟨labels, u, path, final⟩ := ih (rank t) (level ▸ lower) (reachable.snoc offered.1 step) rfl
      exact ⟨l :: labels, u, .cons offered step path, final⟩

end Ranking

end Machine

end OrchLab
