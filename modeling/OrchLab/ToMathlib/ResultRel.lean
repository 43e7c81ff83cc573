import Mathlib.Data.List.Forall2
import Mathlib.Data.Option.Basic

/-! # Relations between results

Two computations that fail together and succeed with related values, for `Except` and with the
eliminators of Lean's own `Option.Rel`.
-/

namespace OrchLab

variable {ε α β γ δ : Type*}

/-- What follows a computation runs on its value. -/
theorem ok_of_bind_eq_ok {α β : Type} {x : Except ε α} {f : α → Except ε β} {b : β} (success : x >>= f = .ok b) :
    ∃ a, x = .ok a ∧ f a = .ok b := by
  cases x with
  | error e => cases success
  | ok a => exact ⟨a, rfl, success⟩

/-- The results of a list of computations are each that of its element. -/
theorem forall₂_of_mapM_eq_ok {α β : Type} {f : α → Except ε β} {l : List α} {results : List β}
    (success : l.mapM f = .ok results) :
    List.Forall₂ (fun a b => f a = .ok b) l results := by
  induction l generalizing results with
  | nil =>
    rw [List.mapM_nil] at success
    cases success
    exact .nil
  | cons a l ih =>
    rw [List.mapM_cons] at success
    obtain ⟨b, first, success⟩ := ok_of_bind_eq_ok success
    obtain ⟨others, rest, success⟩ := ok_of_bind_eq_ok success
    cases success
    exact .cons first (ih rest)

theorem forall₂_of_mapM_eq_some {α β : Type} {f : α → Option β} {l : List α} {results : List β}
    (success : l.mapM f = some results) : List.Forall₂ (fun a b => f a = some b) l results := by
  induction l generalizing results with
  | nil =>
    rw [List.mapM_nil] at success
    cases success
    exact .nil
  | cons a l ih =>
    rw [List.mapM_cons] at success
    obtain ⟨b, first, success⟩ := Option.bind_eq_some_iff.mp success
    obtain ⟨others, rest, success⟩ := Option.bind_eq_some_iff.mp success
    cases success
    exact .cons first (ih rest)

/-- Related elements that agree on an attribute. -/
theorem map_eq_of_forall₂ {f : α → γ} {g : β → γ} {l : List α} {l' : List β}
    (related : List.Forall₂ (fun a b => g b = f a) l l') : l'.map g = l.map f := by
  induction related with
  | nil => rfl
  | cons here _ ih => rw [List.map_cons, List.map_cons, here, ih]

/-- Equal errors, or related values. -/
inductive ExceptRel (r : α → β → Prop) : Except ε α → Except ε β → Prop
  | ok {a : α} {b : β} (related : r a b) : ExceptRel r (.ok a) (.ok b)
  | error (e : ε) : ExceptRel r (.error e) (.error e)

namespace ExceptRel

variable {r : α → β → Prop} {q : γ → δ → Prop} {x : Except ε α} {y : Except ε β}

theorem cases (h : ExceptRel r x y) :
    (∃ e, x = .error e ∧ y = .error e) ∨ ∃ a b, x = .ok a ∧ y = .ok b ∧ r a b := by
  cases h with
  | ok related => exact .inr ⟨_, _, rfl, rfl, related⟩
  | error e => exact .inl ⟨e, rfl, rfl⟩

theorem map {f : α → γ} {g : β → δ} (h : ExceptRel r x y) (maps : ∀ a b, r a b → q (f a) (g b)) :
    ExceptRel q (x.map f) (y.map g) := by
  cases h with
  | ok related => exact .ok (maps _ _ related)
  | error e => exact .error e

end ExceptRel

namespace OptionRel

variable {r : α → β → Prop} {q : γ → δ → Prop} {x : Option α} {y : Option β}

theorem cases (h : Option.Rel r x y) :
    (x = none ∧ y = none) ∨ ∃ a b, x = some a ∧ y = some b ∧ r a b := by
  cases h with
  | some related => exact .inr ⟨_, _, rfl, rfl, related⟩
  | none => exact .inl ⟨rfl, rfl⟩

theorem map {f : α → γ} {g : β → δ} (h : Option.Rel r x y) (maps : ∀ a b, r a b → q (f a) (g b)) :
    Option.Rel q (x.map f) (y.map g) := by
  cases h with
  | some related => exact .some (maps _ _ related)
  | none => exact .none

theorem bind {f : α → Option γ} {g : β → Option δ} (h : Option.Rel r x y)
    (binds : ∀ a b, r a b → Option.Rel q (f a) (g b)) : Option.Rel q (x.bind f) (y.bind g) := by
  cases h with
  | some related => exact binds _ _ related
  | none => exact .none

end OptionRel

end OrchLab
