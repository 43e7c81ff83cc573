import Mathlib.Data.List.Basic

/-! # Steps that stay in their part of a state

A state is seen through one view for each of its parts. A step is about one part, or about none in
particular. It is local when it leaves the views of the other parts alone, and when the view of its own part
decides what it returns and what that view becomes. Then steps about different parts commute in every view, and
a run returns the same for a part with or without an earlier step about another.
-/

namespace OrchLab

variable {σ Λ ρ ι : Type*} {ν : ι → Type*}

/-- What makes the allowed steps local in valid states. A step about no part in particular may change any view,
from that view alone. -/
structure Locality (step : σ → Λ → σ × ρ) (about : Λ → Option ι) (view : (i : ι) → σ → ν i)
    (valid : σ → Prop) (allowed : Λ → Prop) : Prop where
  valid_step {s : σ} {l : Λ} (before : valid s) : valid (step s l).1
  frame {s : σ} {l : Λ} {i j : ι} (before : valid s) (allows : allowed l) (there : about l = some j)
    (other : i ≠ j) : view i (step s l).1 = view i s
  congr {s s' : σ} {l : Λ} {i : ι} (before : valid s) (before' : valid s') (allows : allowed l)
    (here : about l = none ∨ about l = some i) (same : view i s' = view i s) :
    view i (step s' l).1 = view i (step s l).1 ∧ (step s' l).2 = (step s l).2

/-- The state after a list of steps. -/
def stepAll (step : σ → Λ → σ × ρ) (s : σ) (labels : List Λ) : σ := labels.foldl (fun s l => (step s l).1) s

namespace Locality

variable {step : σ → Λ → σ × ρ} {about : Λ → Option ι} {view : (i : ι) → σ → ν i} {valid : σ → Prop}
  {allowed : Λ → Prop} {s s' : σ} {i j : ι} {l k : Λ}

theorem valid_stepAll (locality : Locality step about view valid allowed) (before : valid s)
    (labels : List Λ) : valid (stepAll step s labels) := by
  induction labels generalizing s with
  | nil => exact before
  | cons l rest ih => exact ih (locality.valid_step before)

/-- Whatever a step is about, it keeps two states alike in a view. -/
theorem view_step (locality : Locality step about view valid allowed) (before : valid s) (before' : valid s')
    (allows : allowed l) (same : view i s' = view i s) : view i (step s' l).1 = view i (step s l).1 := by
  cases part : about l with
  | none => exact (locality.congr before before' allows (.inl part) same).1
  | some j =>
    by_cases here : i = j
    · exact (locality.congr before before' allows (.inr (here ▸ part)) same).1
    · rw [locality.frame before' allows part here, locality.frame before allows part here, same]

/-- A run keeps two states alike in a view. -/
theorem view_stepAll (locality : Locality step about view valid allowed) (before : valid s)
    (before' : valid s') {labels : List Λ} (allows : ∀ l ∈ labels, allowed l) (same : view i s' = view i s) :
    view i (stepAll step s' labels) = view i (stepAll step s labels) := by
  induction labels generalizing s s' with
  | nil => exact same
  | cons l rest ih =>
    obtain ⟨here, later⟩ := List.forall_mem_cons.mp allows
    exact ih (locality.valid_step before) (locality.valid_step before') later
      (locality.view_step before before' here same)

/-- An earlier step about another part changes no view a run arrives at. -/
theorem view_stepAll_step (locality : Locality step about view valid allowed) (before : valid s)
    (allows : allowed l) (there : about l = some j) (other : i ≠ j) {labels : List Λ}
    (later : ∀ l ∈ labels, allowed l) :
    view i (stepAll step (step s l).1 labels) = view i (stepAll step s labels) :=
  locality.view_stepAll before (locality.valid_step before) later (locality.frame before allows there other)

/-- An earlier step about another part changes nothing that is returned after a run. -/
theorem returns_stepAll_step (locality : Locality step about view valid allowed) (before : valid s)
    (allows : allowed l) (there : about l = some j) (other : i ≠ j) {labels : List Λ}
    (later : ∀ l ∈ labels, allowed l) (allows' : allowed k) (here : about k = some i) :
    (step (stepAll step (step s l).1 labels) k).2 = (step (stepAll step s labels) k).2 :=
  (locality.congr (locality.valid_stepAll before labels)
    (locality.valid_stepAll (locality.valid_step before) labels) allows' (.inr here)
    (locality.view_stepAll_step before allows there other later)).2

/-- Steps about different parts return the same in either order. -/
theorem returns_comm (locality : Locality step about view valid allowed) (before : valid s)
    (allows : allowed l) (there : about l = some j) (other : i ≠ j) (allows' : allowed k)
    (here : about k = some i) : (step (step s l).1 k).2 = (step s k).2 := by
  have next := locality.returns_stepAll_step before allows there other (List.forall_mem_nil allowed) allows' here
  exact next

/-- Steps about different parts commute in every view. -/
theorem view_comm (locality : Locality step about view valid allowed) (before : valid s) (allows : allowed l)
    (there : about l = some j) (other : i ≠ j) (allows' : allowed k) (here : about k = some i) (part : ι) :
    view part (step (step s l).1 k).1 = view part (step (step s k).1 l).1 := by
  have after := locality.valid_step (l := l) before
  have after' := locality.valid_step (l := k) before
  by_cases own : part = i
  · -- the step about `i` reads what it reads first, the other one leaves it alone
    subst own
    have read := locality.frame before allows there other
    rw [locality.frame after' allows there other, locality.view_step before after allows' read]
  · rw [locality.frame after allows' here own]
    exact (locality.view_step before after' allows (locality.frame before allows' here own)).symm

end Locality

end OrchLab
