import OrchLab.Machine.Run
import Mathlib.Data.List.Forall2

/-! # Relabelling a run

Two labels may be told apart by nothing a machine does but by the labels themselves. When related labels take
related states to related states, and the environment offers both or none, any run can be taken again under
other labels, one by one, and ends in a related state.
-/

namespace OrchLab.Machine

variable {σ Λ : Type*} {m : Machine σ Λ}

/-- A step under one label has its counterpart under a related one. -/
structure Relabels (m : Machine σ Λ) (R : σ → σ → Prop) (L : Λ → Λ → Prop) : Prop where
  initial : R m.initial m.initial
  offered : ∀ {s s' l l'}, R s s' → L l l' → m.admissible s l → m.admissible s' l'
  step : ∀ {s s' l l' t}, R s s' → L l l' → m.step s l = some t → ∃ t', m.step s' l' = some t' ∧ R t t'

private theorem forall₂_concat {α β : Type*} {L : α → β → Prop} {l : List α} {a : α} {labels : List β}
    (related : List.Forall₂ L (l ++ [a]) labels) :
    ∃ earlier last, labels = earlier ++ [last] ∧ List.Forall₂ L l earlier ∧ L a last := by
  induction l generalizing labels with
  | nil =>
    obtain ⟨last, rest, here, none, rfl⟩ := List.forall₂_cons_left_iff.mp related
    obtain rfl := List.forall₂_nil_left_iff.mp none
    exact ⟨[], last, rfl, .nil, here⟩
  | cons first l ih =>
    obtain ⟨label, rest, here, later, rfl⟩ := List.forall₂_cons_left_iff.mp related
    obtain ⟨earlier, last, rfl, before, ends⟩ := ih later
    exact ⟨label :: earlier, last, rfl, .cons here before, ends⟩

/-- A run can be taken again under related labels. -/
theorem Relabels.exists_run {R : σ → σ → Prop} {L : Λ → Λ → Prop} (relabels : m.Relabels R L)
    {moments : List (σ × Λ)} {s : σ} (run : Run m moments s) {labels : List Λ}
    (related : List.Forall₂ L (moments.map Prod.snd) labels) :
    ∃ moments' s', Run m moments' s' ∧ moments'.map Prod.snd = labels ∧ R s s' := by
  induction run generalizing labels with
  | nil =>
    obtain rfl := List.forall₂_nil_left_iff.mp related
    exact ⟨[], m.initial, .nil, rfl, relabels.initial⟩
  | @snoc moments s t l before offered step ih =>
    rw [List.map_append, List.map_singleton] at related
    obtain ⟨earlier, last, rfl, before', here⟩ := forall₂_concat related
    obtain ⟨moments', s', again, rfl, states⟩ := ih before'
    obtain ⟨t', step', states'⟩ := relabels.step states here step
    refine ⟨moments' ++ [(s', last)], t', again.snoc (relabels.offered states here offered) step', ?_, states'⟩
    rw [List.map_append, List.map_singleton]

private theorem map_snd_momentsOf [∀ s l, Decidable (m.admissible s l)] {s t : σ} {labels : List Λ}
    (success : m.replay? s labels = some t) : (m.momentsOf s labels).map Prod.snd = labels := by
  induction labels generalizing s with
  | nil => rfl
  | cons l rest ih =>
    simp only [Machine.replay?] at success
    split_ifs at success with offered
    obtain ⟨middle, step, suffix⟩ := Option.bind_eq_some_iff.mp success
    simp only [momentsOf, step, Option.elim_some, List.map_cons, ih suffix]

/-- A list of labels that can be replayed is the list of labels of a run. -/
theorem exists_run_of_labels [∀ s l, Decidable (m.admissible s l)] (labels : List Λ)
    (success : (m.replay? m.initial labels).isSome = true) :
    ∃ s, Run m (m.momentsOf m.initial labels) s ∧ (m.momentsOf m.initial labels).map Prod.snd = labels := by
  obtain ⟨s, reached⟩ := Option.isSome_iff_exists.mp success
  exact ⟨s, by simpa only [List.nil_append] using Run.nil.replay? reached, map_snd_momentsOf reached⟩

end OrchLab.Machine
