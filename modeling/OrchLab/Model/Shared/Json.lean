import OrchLab.Model.Shared.CanonicalJson

/-! # JSON texts of records

`json.dumps(record, ensure_ascii=False, separators=(",", ":"))` on any value. A number stands for the text
Python prints it as; a string is escaped as in a canonical text, so of the characters outside ASCII none is.
-/

namespace OrchLab

/-- The characters of a printed number, and of `NaN` and `Infinity`. -/
def isNumberChar (c : Char) : Bool := c.isAlphanum || c = '+' || c = '-' || c = '.'

/-- A number as `dumps` prints it. -/
structure NumberText where
  text : List Char
  nonempty : text ≠ []
  plain : ∀ c ∈ text, isNumberChar c = true

/-- A value `dumps` accepts; an object has its fields in insertion order. -/
inductive Json where
  | null
  | bool (value : Bool)
  | number (value : NumberText)
  | string (value : String)
  | array (items : List Json)
  | object (fields : List (String × Json))

namespace Json

/-- A string in quotes. -/
def quoted (text : String) : List Char := '"' :: (text.toList.flatMap jsonEscape ++ ['"'])

mutual

/-- `json.dumps`. -/
def dumps : Json → List Char
  | .null => "null".toList
  | .bool true => "true".toList
  | .bool false => "false".toList
  | .number value => value.text
  | .string value => quoted value
  | .array items => '[' :: ([','].intercalate (dumpsItems items) ++ [']'])
  | .object fields => '\x7b' :: ([','].intercalate (dumpsFields fields) ++ ['\x7d'])

def dumpsItems : List Json → List (List Char)
  | [] => []
  | item :: rest => dumps item :: dumpsItems rest

def dumpsFields : List (String × Json) → List (List Char)
  | [] => []
  | (key, value) :: rest => (quoted key ++ ':' :: dumps value) :: dumpsFields rest

end

mutual

/-- A character with the property is in some string of the value, a key included. -/
def anyChar (p : Char → Bool) : Json → Bool
  | .null | .bool _ | .number _ => false
  | .string value => value.toList.any p
  | .array items => anyCharItems p items
  | .object fields => anyCharFields p fields

def anyCharItems (p : Char → Bool) : List Json → Bool
  | [] => false
  | item :: rest => anyChar p item || anyCharItems p rest

def anyCharFields (p : Char → Bool) : List (String × Json) → Bool
  | [] => false
  | (key, value) :: rest => key.toList.any p || anyChar p value || anyCharFields p rest

end

/-! ## The characters of a text -/

/-- The characters of a text outside its strings. -/
def isTokenChar (c : Char) : Bool := isNumberChar c || c ∈ ['"', ',', ':', '[', ']', '\x7b', '\x7d']

section Chars

variable {p q : Char → Bool} (tokens : ∀ c, isTokenChar c = true → p c = false)
  (escapes : ∀ c, (jsonEscape c).any p = q c)
include tokens

private theorem any_of_tokens (text : List Char) (all : text.all isTokenChar = true) : text.any p = false :=
  List.any_eq_false.mpr fun c member => by simp [tokens c (List.all_eq_true.mp all c member)]

private theorem any_intercalate (texts : List (List Char)) :
    ([','].intercalate texts).any p = texts.any (·.any p) := by
  induction texts with
  | nil => rfl
  | cons text rest ih =>
    cases rest with
    | nil => simp
    | cons next rest =>
      rw [List.intercalate_cons_cons, List.any_append, List.any_append, ih,
        any_of_tokens tokens [','] rfl, Bool.or_false]
      rfl

include escapes

private theorem any_quoted (text : String) : (quoted text).any p = text.toList.any q := by
  rw [quoted, List.any_cons, List.any_append, List.any_flatMap, tokens '"' rfl, List.any_cons, List.any_nil,
    tokens '"' rfl, Bool.or_false, Bool.or_false, Bool.false_or]
  congr 1
  exact funext escapes

end Chars

mutual

/-- A property that no token has is found in a text where its escapes are found in the strings. -/
theorem any_dumps {p q : Char → Bool} (tokens : ∀ c, isTokenChar c = true → p c = false)
    (escapes : ∀ c, (jsonEscape c).any p = q c) : ∀ value : Json, (dumps value).any p = anyChar q value
  | .null => any_of_tokens tokens "null".toList (by decide)
  | .bool true => any_of_tokens tokens "true".toList (by decide)
  | .bool false => any_of_tokens tokens "false".toList (by decide)
  | .number value => any_of_tokens tokens value.text
      (List.all_eq_true.mpr fun c member => by simp [isTokenChar, value.plain c member])
  | .string value => by rw [dumps, anyChar, any_quoted tokens escapes]
  | .array items => by
    rw [dumps, anyChar, List.any_cons, List.any_append, any_intercalate tokens,
      any_dumpsItems tokens escapes items, tokens '[' rfl, any_of_tokens tokens _ (by rfl), Bool.or_false,
      Bool.false_or]
  | .object fields => by
    rw [dumps, anyChar, List.any_cons, List.any_append, any_intercalate tokens,
      any_dumpsFields tokens escapes fields, tokens '\x7b' rfl, any_of_tokens tokens _ (by rfl), Bool.or_false,
      Bool.false_or]

private theorem any_dumpsItems {p q : Char → Bool} (tokens : ∀ c, isTokenChar c = true → p c = false)
    (escapes : ∀ c, (jsonEscape c).any p = q c) :
    ∀ items : List Json, (dumpsItems items).any (·.any p) = anyCharItems q items
  | [] => rfl
  | item :: rest => by
    rw [dumpsItems, anyCharItems, List.any_cons, any_dumps tokens escapes item,
      any_dumpsItems tokens escapes rest]

private theorem any_dumpsFields {p q : Char → Bool} (tokens : ∀ c, isTokenChar c = true → p c = false)
    (escapes : ∀ c, (jsonEscape c).any p = q c) :
    ∀ fields : List (String × Json), (dumpsFields fields).any (·.any p) = anyCharFields q fields
  | [] => rfl
  | (key, value) :: rest => by
    rw [dumpsFields, anyCharFields, List.any_cons, List.any_append, List.any_cons, tokens ':' rfl, Bool.false_or,
      any_quoted tokens escapes, any_dumps tokens escapes value, any_dumpsFields tokens escapes rest]

end

mutual

/-- What no character is, no character of a string is. -/
theorem anyChar_false : ∀ value : Json, anyChar (fun _ => false) value = false
  | .null | .bool _ | .number _ => rfl
  | .string value => by rw [anyChar]; simp
  | .array items => by rw [anyChar, anyCharItems_false items]
  | .object fields => by rw [anyChar, anyCharFields_false fields]

private theorem anyCharItems_false : ∀ items : List Json, anyCharItems (fun _ => false) items = false
  | [] => rfl
  | item :: rest => by rw [anyCharItems, anyChar_false item, anyCharItems_false rest, Bool.or_false]

private theorem anyCharFields_false :
    ∀ fields : List (String × Json), anyCharFields (fun _ => false) fields = false
  | [] => rfl
  | (key, value) :: rest => by
    rw [anyCharFields, anyChar_false value, anyCharFields_false rest, Bool.or_false, Bool.or_false]
    simp

end

end Json

end OrchLab
