import Mathlib.Data.List.Chain
import Mathlib.Data.List.Sort

/-! # Stable sorting by a key

`sorted(l, key=key)`: elements with equal keys keep their order, so a class of elements that already comes in
order of its keys is found unchanged in the sorted list. Where a comparison can fail the sort can, and it leaves
a list as it is exactly when no element is less than the one before it.
-/

namespace OrchLab

variable {α β : Type*} [LinearOrder β] (key : α → β)

/-- The elements of a list in order of their keys; equal keys keep their places. -/
def sortOn (l : List α) : List α := l.insertionSort fun a b => key a ≤ key b

theorem sortOn_perm (l : List α) : (sortOn key l).Perm l := List.perm_insertionSort _ l

@[simp] theorem mem_sortOn {l : List α} {a : α} : a ∈ sortOn key l ↔ a ∈ l := List.mem_insertionSort _

/-- A class of elements in order of their keys is not rearranged. -/
theorem filter_sortOn {l : List α} (p : α → Bool)
    (ordered : (l.filter p).Pairwise fun a b => key a ≤ key b) : (sortOn key l).filter p = l.filter p := by
  have : IsTrans α fun a b => key a ≤ key b := ⟨fun _ _ _ => le_trans⟩
  have : Std.Total fun a b : α => key a ≤ key b := ⟨fun a b => le_total (key a) (key b)⟩
  have within : List.Sublist (l.filter p) (sortOn key l) := List.sublist_insertionSort ordered List.filter_sublist
  have sub : List.Sublist (l.filter p) ((sortOn key l).filter p) := by
    have kept := within.filter p
    rwa [List.filter_filter, List.filter_congr (fun a _ => Bool.and_self (p a))] at kept
  exact (sub.eq_of_length ((sortOn_perm key l).filter p).length_eq.symm).symm

/-! ## Comparisons that fail -/

section Fails

variable {α : Type*} (less? : α → α → Option Bool)

/-- An element before the first that is not less than it; `none` is the error of a comparison. -/
def insertBy? (a : α) : List α → Option (List α)
  | [] => some [a]
  | b :: rest => (less? b a).bind fun less =>
    if less then (insertBy? a rest).map (b :: ·) else some (a :: b :: rest)

/-- The elements of a list in order; elements of which none is less keep their places. -/
def sortBy? : List α → Option (List α)
  | [] => some []
  | a :: rest => (sortBy? rest).bind (insertBy? less? a)

variable {less?}

/-- Elements that compare as their images are sorted as these. -/
theorem sortBy?_map {β : Type*} (f : β → α) (l : List β) :
    sortBy? less? (l.map f) = (sortBy? (fun a b => less? (f a) (f b)) l).map (List.map f) := by
  have inserts : ∀ a rest, insertBy? less? (f a) (rest.map f) =
      (insertBy? (fun a b => less? (f a) (f b)) a rest).map (List.map f) := by
    intro a rest
    induction rest with
    | nil => rfl
    | cons b rest ih =>
      rw [List.map_cons, insertBy?, insertBy?, ih]
      rcases less? (f b) (f a) with _ | _ | _
      · rfl
      · rfl
      · simp [Option.map_map, Function.comp_def]
  induction l with
  | nil => rfl
  | cons a rest ih =>
    rw [List.map_cons, sortBy?, sortBy?, ih]
    cases sortBy? (fun a b => less? (f a) (f b)) rest with
    | none => rfl
    | some sorted => exact inserts a sorted

/-- The inserted element is not less than the one before it, nor the next less than it. -/
private theorem isChain_insertBy? (asymmetric : ∀ a b, less? a b = some true → less? b a = some false) {a : α}
    {l l' : List α} (chain : l.IsChain fun a b => less? b a = some false) (inserted : insertBy? less? a l = some l') :
    (∀ first ∈ l'.head?, first = a ∨ first ∈ l.head?) ∧ l'.IsChain fun a b => less? b a = some false := by
  induction l generalizing l' with
  | nil =>
    cases inserted
    exact ⟨fun first here => .inl (Option.some.inj here).symm, .singleton a⟩
  | cons b rest ih =>
    rw [insertBy?] at inserted
    obtain ⟨less, compared, inserted⟩ := Option.bind_eq_some_iff.mp inserted
    cases less with
    | false =>
      cases inserted
      exact ⟨fun first here => .inl (Option.some.inj here).symm, .cons_cons compared chain⟩
    | true =>
      obtain ⟨after, later, rfl⟩ := Option.map_eq_some_iff.mp inserted
      rw [List.isChain_cons] at chain
      obtain ⟨first, ordered⟩ := ih chain.2 later
      refine ⟨fun first here => .inr here, List.isChain_cons.mpr ⟨fun next here => ?_, ordered⟩⟩
      rcases first next here with rfl | old
      · exact asymmetric _ _ compared
      · exact chain.1 next old

private theorem isChain_sortBy? (asymmetric : ∀ a b, less? a b = some true → less? b a = some false) {l l' : List α}
    (sorted : sortBy? less? l = some l') : l'.IsChain fun a b => less? b a = some false := by
  induction l generalizing l' with
  | nil => cases sorted; exact .nil
  | cons a rest ih =>
    obtain ⟨before, earlier, inserted⟩ := Option.bind_eq_some_iff.mp sorted
    exact (isChain_insertBy? asymmetric (ih earlier) inserted).2

/-- The sort returns a list as it is exactly when no element is less than the one before it. -/
theorem sortBy?_eq_self_iff (asymmetric : ∀ a b, less? a b = some true → less? b a = some false) {l : List α} :
    sortBy? less? l = some l ↔ l.IsChain fun a b => less? b a = some false := by
  refine ⟨isChain_sortBy? asymmetric, fun chain => ?_⟩
  induction l with
  | nil => rfl
  | cons a rest ih =>
    rw [List.isChain_cons] at chain
    rw [sortBy?, ih chain.2, Option.bind_some]
    cases rest with
    | nil => rfl
    | cons b rest => rw [insertBy?, chain.1 b rfl, Option.bind_some, if_neg Bool.false_ne_true]

end Fails

end OrchLab
