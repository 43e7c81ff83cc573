import OrchLab.Storage.Table
import OrchLab.ToMathlib.LastWhere
import Mathlib.Data.List.Induction

/-! # Dictionaries

A dictionary is a table of pairs keyed by their first component, in the order its keys were first given. A
scan of a list fills one either with `setdefault`, which keeps the first value of a key, or by appending to
the value of a key; what it holds at a key afterwards is decided by the elements of that key alone.
-/

namespace OrchLab

/-- Pairs with distinct keys, in insertion order. -/
abbrev Dict (κ ν : Type*) := Table (Prod.fst : κ × ν → κ)

namespace Dict

variable {κ ν α : Type*} [DecidableEq κ]

/-- `d.get(key)`. -/
def get? (d : Dict κ ν) (key : κ) : Option ν := (d.find? key).map Prod.snd

/-- `d.setdefault(key, value)`. -/
def setDefault (d : Dict κ ν) (key : κ) (value : ν) : Dict κ ν := (d.insert? (key, value)).getD d

/-- `d[key] = value`. -/
def set (d : Dict κ ν) (key : κ) (value : ν) : Dict κ ν :=
  (d.insert? (key, value)).getD (d.modify key (fun entry => (entry.1, value)) fun _ => rfl)

@[simp] theorem get?_empty (key : κ) : (∅ : Dict κ ν).get? key = none := rfl

theorem get?_eq_some_iff {d : Dict κ ν} {key : κ} {value : ν} : d.get? key = some value ↔ (key, value) ∈ d.rows := by
  rw [get?, Option.map_eq_some_iff]
  constructor
  · rintro ⟨⟨k, v⟩, found, rfl⟩
    obtain ⟨member, rfl⟩ := Table.find?_eq_some_iff.mp found
    exact member
  · intro member
    exact ⟨(key, value), Table.find?_eq_some_iff.mpr ⟨member, rfl⟩, rfl⟩

theorem get?_eq_none_iff {d : Dict κ ν} {key : κ} : d.get? key = none ↔ d.find? key = none := by
  rw [get?, Option.map_eq_none_iff]

theorem get?_setDefault (d : Dict κ ν) (key other : κ) (value : ν) :
    (d.setDefault key value).get? other = (d.get? other).or (if other = key then some value else none) := by
  rw [setDefault]
  cases inserted : d.insert? (key, value) with
  | none =>
    rw [Option.getD_none]
    split_ifs with same
    · subst same
      cases held : d.get? other with
      | some _ => rfl
      | none =>
        obtain ⟨d', success⟩ : ∃ d', d.insert? (other, value) = some d' :=
          Table.insert?_isSome (get?_eq_none_iff.mp held)
        rw [inserted] at success
        cases success
    · rw [Option.or_none]
  | some d' =>
    rw [Option.getD_some, get?, get?, Table.find?_of_insert? inserted other]
    by_cases same : key = other
    · subst same
      rw [if_pos rfl, if_pos rfl, (Table.insert?_eq_some_iff.mp inserted).1]
      rfl
    · rw [if_neg same, if_neg (Ne.symm same), Option.or_none]

theorem get?_set (d : Dict κ ν) (key other : κ) (value : ν) :
    (d.set key value).get? other = if other = key then some value else d.get? other := by
  rw [set]
  cases inserted : d.insert? (key, value) with
  | none =>
    rw [Option.getD_none, get?, Table.find?_modify]
    split_ifs with same
    · subst same
      cases held : d.find? other with
      | some _ => rfl
      | none =>
        obtain ⟨d', success⟩ : ∃ d', d.insert? (other, value) = some d' := Table.insert?_isSome held
        rw [inserted] at success
        cases success
    · rfl
  | some d' =>
    rw [Option.getD_some, get?, Table.find?_of_insert? inserted other]
    by_cases same : key = other
    · subst same
      rw [if_pos rfl, if_pos rfl, Option.map_some]
    · rw [if_neg same, if_neg (Ne.symm same), get?]

/-! ## Scans -/

/-- `setdefault` for every element that has a pair: the first value of each key. -/
theorem get?_foldl_setDefault (pair? : α → Option (κ × ν)) (l : List α) (d : Dict κ ν) (key : κ) :
    (l.foldl (fun d a => (pair? a).elim d fun pair => d.setDefault pair.1 pair.2) d).get? key =
      (d.get? key).or (((l.filterMap pair?).find? fun pair => pair.1 = key).map Prod.snd) := by
  induction l generalizing d with
  | nil => simp
  | cons a rest ih =>
    rw [List.foldl_cons, ih]
    cases pair : pair? a with
    | none => simp [pair]
    | some entry =>
      rw [Option.elim_some, get?_setDefault, List.filterMap_cons_some pair, List.find?_cons, Option.or_assoc]
      by_cases same : entry.1 = key
      · simp [same]
      · simp [same, Ne.symm same]

/-- The elements offer pairs under their own keys: the first pair of the elements of a key. -/
theorem get?_foldl_setDefault_of_key (key : α → κ) (pair? : α → Option (κ × ν)) (l : List α) (d : Dict κ ν)
    (k : κ) (own : ∀ a pair, pair? a = some pair → pair.1 = key a) :
    (l.foldl (fun d a => (pair? a).elim d fun pair => d.setDefault pair.1 pair.2) d).get? k =
      (d.get? k).or ((((l.filter fun a => key a = k).filterMap pair?).head?).map Prod.snd) := by
  rw [get?_foldl_setDefault]
  congr 2
  induction l with
  | nil => rfl
  | cons a rest ih =>
    rw [List.filterMap_cons, List.filter_cons]
    cases offers : pair? a with
    | none => split_ifs <;> simp [offers, ih]
    | some pair =>
      simp only [List.find?_cons, own a pair offers]
      split_ifs with same
      · simp [offers, of_decide_eq_true same]
      · simpa [of_decide_eq_false (Bool.eq_false_iff.mpr same)] using ih

/-- Appending every element to the list at its key: the elements of each key, in order. -/
theorem get?_foldl_append (key : α → κ) (l : List α) (d : Dict κ (List α)) (k : κ) :
    (l.foldl (fun d a => d.set (key a) ((d.get? (key a)).getD [] ++ [a])) d).get? k =
      if l.filter (fun a => key a = k) = [] then d.get? k
      else some ((d.get? k).getD [] ++ l.filter fun a => key a = k) := by
  induction l generalizing d with
  | nil => rfl
  | cons a rest ih =>
    rw [List.foldl_cons, ih, get?_set]
    by_cases same : key a = k
    · subst same
      simp only [↓reduceIte, decide_true, List.filter_cons_of_pos, List.cons_ne_nil, Option.getD_some,
        List.append_assoc, List.singleton_append]
      split_ifs with none
      · rw [none]
      · rfl
    · simp only [same, Ne.symm same, decide_false, Bool.false_eq_true, not_false_eq_true, ↓reduceIte,
        List.filter_cons_of_neg]

/-- Assigning the value of every element: the value of the last element of each key. -/
theorem get?_foldl_set (key : α → κ) (value : α → ν) (l : List α) (d : Dict κ ν) (k : κ) :
    (l.foldl (fun d a => d.set (key a) (value a)) d).get? k =
      ((lastWhere (fun a => key a = k) l).map value).or (d.get? k) := by
  induction l using List.reverseRecOn with
  | nil => rfl
  | append_singleton rest a ih =>
    rw [List.foldl_append, List.foldl_cons, List.foldl_nil, get?_set, ih, lastWhere_concat]
    by_cases same : key a = k
    · simp [same]
    · simp [same, Ne.symm same]

end Dict

end OrchLab
