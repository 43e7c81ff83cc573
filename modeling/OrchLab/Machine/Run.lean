import Mathlib.Data.List.Basic

/-! # Runs of a machine under an environment assumption

A machine is a partial transition function together with what its environment promises about
the labels it offers. A run records every moment, the state before the step and its label, so
that a statement about "every step of the run" is a statement about the members of a list.

An invariant proved for one step holds after every run. A property whose step is characterized
by a condition holds along a run exactly when every moment meets the condition. A machine that
maps to another step by step, or stands still there, inherits the invariants of the other.
-/

namespace OrchLab

/-- A partial transition function and the environment's promise about the offered labels. -/
structure Machine (σ Λ : Type*) where
  initial : σ
  step : σ → Λ → Option σ
  admissible : σ → Λ → Prop

namespace Machine

variable {σ Λ τ Κ : Type*} {m : Machine σ Λ}

/-- A finite run from the initial state, with the state before each step and its label. -/
inductive Run (m : Machine σ Λ) : List (σ × Λ) → σ → Prop
  | nil : Run m [] m.initial
  | snoc {moments : List (σ × Λ)} {s t : σ} {l : Λ} (before : Run m moments s)
      (offered : m.admissible s l) (step : m.step s l = some t) : Run m (moments ++ [(s, l)]) t

/-- The states some run ends in. -/
def Reachable (m : Machine σ Λ) (s : σ) : Prop := ∃ moments, Run m moments s

theorem Run.reachable {moments : List (σ × Λ)} {s : σ} (run : Run m moments s) : m.Reachable s :=
  ⟨moments, run⟩

theorem reachable_initial (m : Machine σ Λ) : m.Reachable m.initial := ⟨[], .nil⟩

theorem Reachable.snoc {s t : σ} {l : Λ} (before : m.Reachable s) (offered : m.admissible s l)
    (step : m.step s l = some t) : m.Reachable t :=
  let ⟨_, run⟩ := before
  ⟨_, run.snoc offered step⟩

/-- Every moment of a run starts in a reachable state. -/
theorem Run.reachable_of_mem {moments : List (σ × Λ)} {s : σ} (run : Run m moments s)
    {moment : σ × Λ} (member : moment ∈ moments) : m.Reachable moment.1 := by
  induction run with
  | nil => cases member
  | @snoc moments s t l before _ _ ih =>
    rcases List.mem_append.mp member with earlier | last
    · exact ih earlier
    · obtain rfl := List.mem_singleton.mp last
      exact before.reachable

/-- Every moment of a run is offered by the environment. -/
theorem Run.admissible_of_mem {moments : List (σ × Λ)} {s : σ} (run : Run m moments s)
    {moment : σ × Λ} (member : moment ∈ moments) : m.admissible moment.1 moment.2 := by
  induction run with
  | nil => cases member
  | snoc _ offered _ ih =>
    rcases List.mem_append.mp member with earlier | last
    · exact ih earlier
    · obtain rfl := List.mem_singleton.mp last
      exact offered

/-- What the initial state satisfies and one admissible step preserves holds after every run. -/
theorem Reachable.invariant {P : σ → Prop} (initial : P m.initial)
    (preserved : ∀ s l t, m.Reachable s → P s → m.admissible s l → m.step s l = some t → P t)
    {s : σ} (reachable : m.Reachable s) : P s := by
  obtain ⟨moments, run⟩ := reachable
  induction run with
  | nil => exact initial
  | snoc before offered step ih => exact preserved _ _ _ before.reachable ih offered step

/-- When a step keeps the property exactly under the condition, the property holds in every state
of a run exactly when every moment of the run meets the condition. -/
theorem Run.forall_states_iff {P : σ → Prop} {C : σ → Λ → Prop} (initial : P m.initial)
    (exact_step : ∀ s l t, m.Reachable s → P s → m.admissible s l → m.step s l = some t →
      (P t ↔ C s l))
    {moments : List (σ × Λ)} {s : σ} (run : Run m moments s) :
    (P s ∧ ∀ moment ∈ moments, P moment.1) ↔ ∀ moment ∈ moments, C moment.1 moment.2 := by
  induction run with
  | nil => simp [initial]
  | @snoc moments s t l before offered step ih =>
    simp only [List.forall_mem_append, List.forall_mem_singleton]
    constructor
    · rintro ⟨final, earlier, last⟩
      exact ⟨ih.mp ⟨last, earlier⟩, (exact_step s l t before.reachable last offered step).mp final⟩
    · rintro ⟨earlier, last⟩
      obtain ⟨here, states⟩ := ih.mpr earlier
      exact ⟨(exact_step s l t before.reachable here offered step).mpr last, states, here⟩

/-- Later states of a run are reached from earlier ones, so a stable property persists. -/
theorem Run.of_mem_stable {P : σ → Prop}
    (stable : ∀ s l t, m.Reachable s → P s → m.admissible s l → m.step s l = some t → P t)
    {moments : List (σ × Λ)} {s : σ} (run : Run m moments s) {moment : σ × Λ}
    (member : moment ∈ moments) (holds : P moment.1) : P s := by
  induction run with
  | nil => cases member
  | @snoc moments s t l before offered step ih =>
    have here : P s := by
      rcases List.mem_append.mp member with earlier | last
      · exact ih earlier
      · obtain rfl := List.mem_singleton.mp last
        exact holds
    exact stable s l t before.reachable here offered step

/-- What the step of one moment brings about and every step keeps holds at the end. -/
theorem Run.of_step_stable {P : σ → Prop}
    (stable : ∀ s l t, m.Reachable s → P s → m.admissible s l → m.step s l = some t → P t)
    {moments : List (σ × Λ)} {s : σ} (run : Run m moments s) {moment : σ × Λ} (member : moment ∈ moments)
    (brings : ∀ t, m.step moment.1 moment.2 = some t → P t) : P s := by
  induction run with
  | nil => cases member
  | @snoc moments s t l before offered step ih =>
    rcases List.mem_append.mp member with earlier | last
    · exact stable s l t before.reachable (ih earlier) offered step
    · obtain rfl := List.mem_singleton.mp last
      exact brings t step

/-- What holds at the end and not at the start turned true at some moment. -/
theorem Run.exists_turn {P : σ → Prop} (initial : ¬P m.initial) {moments : List (σ × Λ)} {s : σ}
    (run : Run m moments s) (final : P s) : ∃ moment ∈ moments, ¬P moment.1 ∧
      m.admissible moment.1 moment.2 ∧ ∃ t, m.step moment.1 moment.2 = some t ∧ P t := by
  induction run with
  | nil => exact absurd final initial
  | @snoc moments s t l before offered step ih =>
    by_cases earlier : P s
    · obtain ⟨moment, member, turns⟩ := ih earlier
      exact ⟨moment, List.mem_append_left _ member, turns⟩
    · exact ⟨(s, l), List.mem_append_right _ (List.mem_singleton_self _), earlier, offered, t, step, final⟩

/-- What a firing spends for good fires at most once in a run. -/
theorem Run.countP_le_one {fires : σ × Λ → Bool} (spent : σ → Prop)
    (spends : ∀ s l t, m.Reachable s → m.admissible s l → m.step s l = some t → fires (s, l) = true → spent t)
    (stable : ∀ s l t, m.Reachable s → spent s → m.admissible s l → m.step s l = some t → spent t)
    (unspent : ∀ s l, m.Reachable s → m.admissible s l → fires (s, l) = true → ¬spent s)
    {moments : List (σ × Λ)} {s : σ} (run : Run m moments s) : moments.countP fires ≤ 1 := by
  suffices counted : moments.countP fires = 0 ∨ moments.countP fires = 1 ∧ spent s by omega
  induction run with
  | nil => exact .inl rfl
  | @snoc moments s t l before offered step ih =>
    rw [List.countP_append, List.countP_singleton]
    split_ifs with now
    · have fresh := unspent s l before.reachable offered now
      rcases ih with none | ⟨-, used⟩
      · exact .inr ⟨by rw [none], spends s l t before.reachable offered step now⟩
      · exact absurd used fresh
    · rcases ih with none | ⟨once, used⟩
      · exact .inl none
      · exact .inr ⟨once, stable s l t before.reachable used offered step⟩

/-! ## Replaying a list of labels -/

/-- Execute labels in order, checking the environment's promise before each step. -/
def replay? (m : Machine σ Λ) [∀ s l, Decidable (m.admissible s l)] (s : σ) : List Λ → Option σ
  | [] => some s
  | l :: rest =>
    if m.admissible s l then (m.step s l).bind fun t => m.replay? t rest else none

/-- The moments visited by a successful replay. -/
def momentsOf (m : Machine σ Λ) (s : σ) : List Λ → List (σ × Λ)
  | [] => []
  | l :: rest => (s, l) :: ((m.step s l).elim [] fun t => m.momentsOf t rest)

theorem mem_of_mem_momentsOf {s : σ} {labels : List Λ} {moment : σ × Λ} (member : moment ∈ m.momentsOf s labels) :
    moment.2 ∈ labels := by
  induction labels generalizing s with
  | nil => cases member
  | cons l rest ih =>
    rcases List.mem_cons.mp member with rfl | later
    · exact List.mem_cons_self ..
    · cases next : m.step s l with
      | none => simp [next] at later
      | some t => exact List.mem_cons_of_mem _ (ih (by simpa [next] using later))

theorem Run.replay? [∀ s l, Decidable (m.admissible s l)] {moments : List (σ × Λ)} {s t : σ}
    {labels : List Λ} (before : Run m moments s) (success : m.replay? s labels = some t) :
    Run m (moments ++ m.momentsOf s labels) t := by
  induction labels generalizing s moments with
  | nil => cases success; simpa [momentsOf] using before
  | cons l rest ih =>
    simp only [Machine.replay?] at success
    split_ifs at success with offered
    obtain ⟨middle, step, suffix⟩ := Option.bind_eq_some_iff.mp success
    have later := ih (before.snoc offered step) suffix
    simpa only [momentsOf, step, Option.elim_some, List.append_assoc, List.singleton_append] using later

/-- A replay that succeeds with a test shows a run to a state that passes it. -/
theorem exists_run_of_replay? [∀ s l, Decidable (m.admissible s l)] (labels : List Λ) {p : σ → Bool}
    (success : (m.replay? m.initial labels).any p = true) :
    ∃ s, Run m (m.momentsOf m.initial labels) s ∧ p s = true := by
  obtain ⟨s, reached, passes⟩ := (Option.any_eq_true _ _).mp success
  exact ⟨s, by simpa only [List.nil_append] using Run.nil.replay? reached, passes⟩

theorem exists_reachable_of_replay? [∀ s l, Decidable (m.admissible s l)] (labels : List Λ) {p : σ → Bool}
    (success : (m.replay? m.initial labels).any p = true) : ∃ s, m.Reachable s ∧ p s = true :=
  let ⟨s, run, passes⟩ := exists_run_of_replay? labels success
  ⟨s, run.reachable, passes⟩

/-! ## Stronger environments and simulations -/

/-- The same machine in an environment that promises more. -/
def restrict (m : Machine σ Λ) (C : σ → Λ → Prop) : Machine σ Λ where
  initial := m.initial
  step := m.step
  admissible s l := m.admissible s l ∧ C s l

theorem Run.of_restrict {C : σ → Λ → Prop} {moments : List (σ × Λ)} {s : σ}
    (run : Run (m.restrict C) moments s) :
    Run m moments s ∧ ∀ moment ∈ moments, C moment.1 moment.2 := by
  induction run with
  | nil => exact ⟨.nil, fun _ member => by cases member⟩
  | snoc before offered step ih =>
    refine ⟨ih.1.snoc offered.1 step, ?_⟩
    simp only [List.forall_mem_append, List.forall_mem_singleton]
    exact ⟨ih.2, offered.2⟩

theorem Reachable.of_restrict {C : σ → Λ → Prop} {s : σ} (reachable : (m.restrict C).Reachable s) :
    m.Reachable s :=
  let ⟨moments, run⟩ := reachable
  ⟨moments, run.of_restrict.1⟩

/-- A machine whose reachable steps are admissible steps of another one, or stand still there,
only reaches states that the other one reaches. -/
theorem Reachable.project {n : Machine τ Κ} (view : σ → τ) (initial : view m.initial = n.initial)
    (simulates : ∀ s l t, m.Reachable s → n.Reachable (view s) → m.admissible s l →
      m.step s l = some t →
        view t = view s ∨ ∃ k, n.admissible (view s) k ∧ n.step (view s) k = some (view t))
    {s : σ} (reachable : m.Reachable s) : n.Reachable (view s) := by
  refine Reachable.invariant (P := fun s => n.Reachable (view s)) ?_ ?_ reachable
  · rw [initial]
    exact reachable_initial n
  · intro s l t before here offered step
    rcases simulates s l t before here offered step with same | ⟨k, allowed, moved⟩
    · rw [same]
      exact here
    · exact here.snoc allowed moved

end Machine

end OrchLab
