import Mathlib.Data.List.Basic

/-! # Strings of code points

A string of the interpreter is a sequence of code points. A code point is a character, or one half of a surrogate
pair; a string that holds such a half has no encoding.
-/

namespace OrchLab

/-- A code point: a character, or the surrogate this many places behind `U+D800`. -/
inductive CodePoint where
  | scalar (c : Char)
  | surrogate (unit : Fin 0x800)
deriving DecidableEq, Repr

namespace CodePoint

/-- The code point of a 16-bit unit. -/
def ofUnit (unit : ℕ) : CodePoint :=
  if half : 0xD800 ≤ unit ∧ unit < 0xE000 then .surrogate ⟨unit - 0xD800, by omega⟩ else .scalar (Char.ofNat unit)

/-- The first half of a pair. -/
def isHigh : CodePoint → Bool
  | .surrogate unit => unit.val < 0x400
  | .scalar _ => false

/-- The character of a pair. -/
def joined? : CodePoint → CodePoint → Option CodePoint
  | .surrogate high, .surrogate low =>
    if high.val < 0x400 ∧ 0x400 ≤ low.val then
      some (.scalar (Char.ofNat (0x10000 + high.val * 0x400 + (low.val - 0x400))))
    else none
  | _, _ => none

/-- The code points of a text. -/
def ofString (text : String) : List CodePoint := text.toList.map .scalar

/-- The characters of a string without halves of pairs. -/
def chars? : List CodePoint → Option (List Char)
  | [] => some []
  | .scalar c :: rest => (chars? rest).map (c :: ·)
  | .surrogate _ :: _ => none

/-- `text.encode("utf-8")`, read as the text it encodes. -/
def encode? (text : List CodePoint) : Option String := (chars? text).map String.ofList

/-- No half of a pair is in the string. -/
def encodable (text : List CodePoint) : Bool := (encode? text).isSome

theorem chars?_map_scalar (chars : List Char) : chars? (chars.map .scalar) = some chars := by
  induction chars with
  | nil => rfl
  | cons c rest ih => rw [List.map_cons, chars?, ih, Option.map_some]

theorem chars?_eq_some {text : List CodePoint} {chars : List Char} (read : chars? text = some chars) :
    text = chars.map .scalar := by
  induction text generalizing chars with
  | nil =>
    rw [← Option.some_inj.mp read]
    rfl
  | cons c rest ih =>
    cases c with
    | surrogate unit => cases read
    | scalar c =>
      obtain ⟨later, there, rfl⟩ := Option.map_eq_some_iff.mp read
      rw [ih there, List.map_cons]

@[simp] theorem encode?_ofString (text : String) : encode? (ofString text) = some text := by
  rw [encode?, ofString, chars?_map_scalar, Option.map_some, String.ofList_toList]

theorem encode?_eq_some_iff {text : List CodePoint} {encoded : String} :
    encode? text = some encoded ↔ text = ofString encoded := by
  constructor
  · intro read
    obtain ⟨chars, there, rfl⟩ := Option.map_eq_some_iff.mp read
    rw [ofString, chars?_eq_some there, String.toList_ofList]
  · rintro rfl
    exact encode?_ofString encoded

@[simp] theorem encodable_ofString (text : String) : encodable (ofString text) = true := by
  rw [encodable, encode?_ofString, Option.isSome_some]

theorem ofString_inj {text other : String} : ofString text = ofString other ↔ text = other := by
  constructor
  · intro same
    exact Option.some_inj.mp ((encode?_ofString text).symm.trans (same ▸ encode?_ofString other))
  · rintro rfl
    rfl

theorem ofString_eq_nil_iff {text : String} : ofString text = [] ↔ text = "" := by
  have empty : ofString text = ofString "" ↔ text = "" := ofString_inj
  exact empty

theorem encodable_concat {text : List CodePoint} (whole : encodable text = true) (c : Char) :
    encodable (text ++ [.scalar c]) = true := by
  obtain ⟨encoded, read⟩ := Option.isSome_iff_exists.mp whole
  rw [encode?_eq_some_iff.mp read, encodable, encode?, ofString, ← List.map_singleton, ← List.map_append,
    chars?_map_scalar]
  rfl

end CodePoint

end OrchLab
