import Mathlib.Data.List.Nodup

/-! # Tables with a unique key

The rows of a table in insertion order, together with the proof that no two rows share a key.
`insert?` is the insertion that a PRIMARY KEY or UNIQUE constraint may refuse and `modify` the update
`UPDATE ... WHERE key = ?`. Lookups after each operation are the whole interface.
-/

namespace OrchLab

/-- Rows in insertion order; `unique` is the constraint the database enforces. -/
structure Table {κ ρ : Type*} (key : ρ → κ) where
  rows : List ρ
  unique : (rows.map key).Nodup
deriving DecidableEq

namespace Table

variable {κ ρ : Type*} [DecidableEq κ] {key : ρ → κ}

def empty : Table key := ⟨[], List.nodup_nil⟩

instance : EmptyCollection (Table key) := ⟨empty⟩

/-- `SELECT * ... WHERE key = ?`, at most one row. -/
def find? (t : Table key) (k : κ) : Option ρ := t.rows.find? fun row => key row = k

/-- Insert a row, refused when its key is already taken. -/
def insert? (t : Table key) (row : ρ) : Option (Table key) :=
  if taken : key row ∈ t.rows.map key then none
  else some ⟨t.rows ++ [row], by
    rw [List.map_append, List.map_singleton, ← List.concat_eq_append]
    exact t.unique.concat taken⟩

/-- Replace the row of a key, keeping the key. -/
def modify (t : Table key) (k : κ) (f : ρ → ρ) (keeps : ∀ row, key (f row) = key row) : Table key :=
  ⟨t.rows.map fun row => if key row = k then f row else row, by
    have same : (t.rows.map fun row => if key row = k then f row else row).map key = t.rows.map key := by
      rw [List.map_map]
      refine List.map_congr_left fun row _ => ?_
      simp only [Function.comp_apply]
      split_ifs
      · exact keeps row
      · rfl
    rw [same]
    exact t.unique⟩

omit [DecidableEq κ] in
/-- A table is its rows. -/
theorem ext {t t' : Table key} (same : t.rows = t'.rows) : t = t' := by
  cases t
  congr

theorem find?_eq_some_iff {t : Table key} {k : κ} {row : ρ} :
    t.find? k = some row ↔ row ∈ t.rows ∧ key row = k := by
  constructor
  · intro found
    exact ⟨List.mem_of_find?_eq_some found, by simpa using List.find?_some found⟩
  · rintro ⟨member, rfl⟩
    cases found : t.rows.find? (fun other => key other = key row) with
    | none => simpa using List.find?_eq_none.mp found row member
    | some other =>
      have same : key other = key row := by simpa using List.find?_some found
      have equal := List.inj_on_of_nodup_map t.unique (List.mem_of_find?_eq_some found) member same
      rw [find?, found, equal]

theorem find?_eq_none_iff {t : Table key} {k : κ} : t.find? k = none ↔ ∀ row ∈ t.rows, key row ≠ k := by
  simp [find?]

theorem key_of_find? {t : Table key} {k : κ} {row : ρ} (found : t.find? k = some row) : key row = k :=
  (find?_eq_some_iff.mp found).2

/-- The keys of a table are those it finds. -/
theorem mem_map_key {t : Table key} {k : κ} : k ∈ t.rows.map key ↔ t.find? k ≠ none := by
  rw [Option.ne_none_iff_exists', List.mem_map]
  exact exists_congr fun row => find?_eq_some_iff.symm

/-- A table has as many rows as there are keys it finds. -/
theorem length_rows {t : Table key} {keys : List κ} (distinct : keys.Nodup)
    (finds : ∀ k, t.find? k ≠ none ↔ k ∈ keys) : t.rows.length = keys.length := by
  have same := (List.perm_ext_iff_of_nodup t.unique distinct).mpr fun k => mem_map_key.trans (finds k)
  rw [← same.length_eq, List.length_map]

omit [DecidableEq κ] in
@[simp] theorem rows_empty : (∅ : Table key).rows = [] := rfl

@[simp] theorem find?_empty (k : κ) : (∅ : Table key).find? k = none := rfl

theorem insert?_eq_some_iff {t t' : Table key} {row : ρ} :
    t.insert? row = some t' ↔ t.find? (key row) = none ∧ t'.rows = t.rows ++ [row] := by
  have absent : t.find? (key row) = none ↔ key row ∉ t.rows.map key := by
    rw [find?_eq_none_iff]
    simp
  rw [absent, insert?]
  split_ifs with taken
  · simp [taken]
  · rw [Option.some_inj]
    constructor
    · rintro rfl
      exact ⟨taken, rfl⟩
    · rintro ⟨_, rows⟩
      exact ext rows.symm

theorem insert?_eq_none_iff {t : Table key} {row : ρ} : t.insert? row = none ↔ t.find? (key row) ≠ none := by
  rw [← mem_map_key, insert?]
  split_ifs with taken
  · simp only [taken]
  · simp only [taken]

theorem insert?_isSome {t : Table key} {row : ρ} (fresh : t.find? (key row) = none) :
    ∃ t', t.insert? row = some t' := by
  have absent : key row ∉ t.rows.map key := by
    rw [find?_eq_none_iff] at fresh
    simpa using fresh
  rw [insert?, dif_neg absent]
  exact ⟨_, rfl⟩

theorem find?_of_insert? {t t' : Table key} {row : ρ} (inserted : t.insert? row = some t') (k : κ) :
    t'.find? k = if key row = k then some row else t.find? k := by
  obtain ⟨fresh, rows⟩ := insert?_eq_some_iff.mp inserted
  rw [find?, rows, List.find?_append]
  split_ifs with here
  · subst here
    rw [find?] at fresh
    rw [fresh]
    simp
  · simp only [List.find?_singleton, here, decide_false, Bool.false_eq_true, ↓reduceIte, Option.or_none]
    rfl

@[simp] theorem find?_modify (t : Table key) (k j : κ) (f : ρ → ρ)
    (keeps : ∀ row, key (f row) = key row) :
    (t.modify k f keeps).find? j = if j = k then (t.find? k).map f else t.find? j := by
  simp only [find?, modify, List.find?_map, Function.comp_def, apply_ite key, keeps, ite_self]
  split_ifs with same
  · subst same
    cases found : t.rows.find? (fun row => key row = j) with
    | none => rfl
    | some row =>
      have here : key row = j := by simpa using List.find?_some found
      simp [here]
  · cases found : t.rows.find? (fun row => key row = j) with
    | none => rfl
    | some row =>
      have there : key row = j := by simpa using List.find?_some found
      simp [there, same]

end Table

end OrchLab
