import Mathlib.Data.List.Induction

/-! # First occurrences

A scan that remembers the keys it has met tells the first occurrences of keys from the later ones. An element
without a key repeats nothing.
-/

namespace OrchLab

variable {α β κ : Type*} [DecidableEq κ] (key : α → Option κ)

/-- The element has the key of an earlier one. -/
def repeatsKey (earlier : List α) (a : α) : Bool := (key a).isSome && earlier.any fun b => key b = key a

/-- The elements that repeat no key of an earlier element, in order. -/
def firstOccurrences (l : List α) : List α :=
  (l.zipIdx.filter fun entry => !repeatsKey key (l.take entry.2) entry.1).map Prod.fst

/-- An appended element is an occurrence if it repeats nothing; the others are as before. -/
theorem firstOccurrences_concat (l : List α) (a : α) :
    firstOccurrences key (l ++ [a]) =
      if repeatsKey key l a then firstOccurrences key l else firstOccurrences key l ++ [a] := by
  have old : (l.zipIdx.filter fun entry => !repeatsKey key ((l ++ [a]).take entry.2) entry.1) =
      l.zipIdx.filter fun entry => !repeatsKey key (l.take entry.2) entry.1 := by
    refine List.filter_congr fun entry member => ?_
    have inside := List.snd_lt_of_mem_zipIdx member
    rw [List.take_append_of_le_length (by omega)]
  rw [firstOccurrences, List.zipIdx_append, List.filter_append, old, List.map_append]
  cases repeated : repeatsKey key l a <;> simp [firstOccurrences, repeated]

variable {key}

/-- An element repeats a key exactly when an earlier element has it. -/
theorem repeatsKey_of_some {l : List α} {a : α} {k : κ} (has : key a = some k) :
    repeatsKey key l a = (l.find? fun b => key b = some k).isSome := by
  rw [repeatsKey, has, Option.isSome_some, Bool.true_and, List.isSome_find?]

theorem repeatsKey_of_none {l : List α} {a : α} (none : key a = none) : repeatsKey key l a = false := by
  rw [repeatsKey, none, Option.isSome_none, Bool.false_and]

variable (key)

theorem repeatsKey_map (f : β → α) (l : List β) (b : β) :
    repeatsKey key (l.map f) (f b) = repeatsKey (key ∘ f) l b := by
  rw [repeatsKey, repeatsKey, List.any_map]
  rfl

/-- The occurrences among images are the images of the occurrences. -/
theorem firstOccurrences_map (f : β → α) (l : List β) :
    firstOccurrences key (l.map f) = (firstOccurrences (key ∘ f) l).map f := by
  induction l using List.reverseRecOn with
  | nil => rfl
  | append_singleton l b ih =>
    rw [List.map_append, List.map_singleton, firstOccurrences_concat, firstOccurrences_concat, repeatsKey_map, ih]
    split_ifs
    · rfl
    · rw [List.map_append, List.map_singleton]

end OrchLab
