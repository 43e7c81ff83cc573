import OrchLab.Model.Shared.Contract
import Mathlib.Data.List.TakeWhile

/-! # Canonical JSON of order items

`canonical_json` writes sorted keys, no spaces and no ASCII escapes, so a list of items has exactly
one text. `canonicalJson` is that writer at the type of the items and `loadsItems` is `json.loads` on
the texts it writes. The column `orders.items_json` and the message payload therefore carry the
same items: reading what was written gives the items back, quotes, backslashes and control
characters in a SKU included.
-/

namespace OrchLab

/-- One character of a JSON string with `ensure_ascii=False`. -/
def jsonEscape (c : Char) : List Char :=
  if c = '"' then ['\\', '"']
  else if c = '\\' then ['\\', '\\']
  else if c = '\n' then ['\\', 'n']
  else if c = '\r' then ['\\', 'r']
  else if c = '\t' then ['\\', 't']
  else if c = '\x08' then ['\\', 'b']
  else if c = '\x0c' then ['\\', 'f']
  else if c.toNat < 32 then
    ['\\', 'u', '0', '0', Nat.digitChar (c.toNat / 16), Nat.digitChar (c.toNat % 16)]
  else [c]

/-- The text of an item before its quantity. -/
def quantityKey : List Char := ['\x7b', '"', 'q', 'u', 'a', 'n', 't', 'i', 't', 'y', '"', ':']

/-- The text of an item between its quantity and its SKU, with the opening quote of the SKU. -/
def skuKey : List Char := [',', '"', 's', 'k', 'u', '"', ':', '"']

/-- An item with its keys in sorted order. -/
def itemJson (item : OrderItem) : List Char :=
  quantityKey ++ (Nat.toDigits 10 item.quantity ++
    (skuKey ++ (item.sku.toList.flatMap jsonEscape ++ ['"', '\x7d'])))

/-- The items after the first one, each with the comma before it. -/
def itemsTailJson : List OrderItem → List Char
  | [] => [']']
  | item :: rest => ',' :: (itemJson item ++ itemsTailJson rest)

/-- `canonical_json([item.model_dump() for item in items])`. -/
def canonicalJson : List OrderItem → String
  | [] => "[]"
  | item :: rest => String.ofList ('[' :: (itemJson item ++ itemsTailJson rest))

/-! ## Reading -/

def hexValue (c : Char) : ℕ := if c.isDigit then c.toNat - 48 else c.toNat - 87

/-- One character of a JSON string body and the text after it. -/
def readUnit : List Char → Option (Char × List Char)
  | [] => none
  | c :: text =>
    if c ≠ '\\' then some (c, text)
    else match text with
      | [] => none
      | e :: text =>
        if e = '"' then some ('"', text)
        else if e = '\\' then some ('\\', text)
        else if e = 'n' then some ('\n', text)
        else if e = 'r' then some ('\r', text)
        else if e = 't' then some ('\t', text)
        else if e = 'b' then some ('\x08', text)
        else if e = 'f' then some ('\x0c', text)
        else match text with
          | '0' :: '0' :: high :: low :: text =>
            if e = 'u' then some (Char.ofNat (hexValue high * 16 + hexValue low), text) else none
          | _ => none

/-- A JSON string body up to its closing quote; the fuel bounds the number of characters. -/
def readString : ℕ → List Char → Option (List Char × List Char)
  | 0, _ => none
  | fuel + 1, text =>
    if text.head? = some '"' then some ([], text.tail)
    else (readUnit text).bind fun (c, text) =>
      (readString fuel text).map fun (body, text) => (c :: body, text)

/-- Consume a fixed text. -/
def expect (token text : List Char) : Option (List Char) :=
  if token.isPrefixOf text then some (text.drop token.length) else none

def readItem (text : List Char) : Option (OrderItem × List Char) := do
  let text ← expect quantityKey text
  let digits := text.takeWhile Char.isDigit
  if digits.isEmpty then none else
  let text ← expect skuKey (text.drop digits.length)
  let (sku, text) ← readString (text.length + 1) text
  let text ← expect ['\x7d'] text
  some (⟨String.ofList sku, Nat.ofDigitChars 10 digits 0⟩, text)

/-- The items after the first one; the fuel bounds their number. -/
def readItemsTail : ℕ → List Char → Option (List OrderItem)
  | 0, _ => none
  | fuel + 1, text =>
    if text = [']'] then some []
    else do
      let text ← expect [','] text
      let (item, text) ← readItem text
      let rest ← readItemsTail fuel text
      some (item :: rest)

/-- `json.loads` on a text that `canonicalJson` writes. -/
def loadsItems (text : String) : Option (List OrderItem) :=
  if text = "[]" then some []
  else do
    let text ← expect ['['] text.toList
    let (item, text) ← readItem text
    let rest ← readItemsTail (text.length + 1) text
    some (item :: rest)

/-! ## Reading what was written -/

theorem hexValue_digitChar {n : ℕ} (small : n < 16) : hexValue (Nat.digitChar n) = n := by
  decide +revert

theorem readUnit_jsonEscape (c : Char) (rest : List Char) :
    readUnit (jsonEscape c ++ rest) = some (c, rest) := by
  unfold jsonEscape
  split_ifs with quote slash newline carriage tab back form control
  any_goals subst c; rfl
  · have split : c.toNat / 16 * 16 + c.toNat % 16 = c.toNat := by omega
    simp [readUnit, hexValue_digitChar (by omega : c.toNat / 16 < 16),
      hexValue_digitChar (by omega : c.toNat % 16 < 16), split]
  · simp [readUnit, slash]

theorem head_jsonEscape (c : Char) (rest : List Char) : (jsonEscape c ++ rest).head? ≠ some '"' := by
  unfold jsonEscape
  split_ifs with quote
  all_goals simp
  exact quote

/-- Escaped characters are read back one by one, up to the closing quote. -/
theorem readString_flatMap (body rest : List Char) {fuel : ℕ} (enough : body.length < fuel) :
    readString fuel (body.flatMap jsonEscape ++ '"' :: rest) = some (body, rest) := by
  induction body generalizing fuel with
  | nil =>
    obtain ⟨fuel, rfl⟩ := Nat.exists_eq_add_one.mpr enough
    rfl
  | cons c body ih =>
    obtain ⟨fuel, rfl⟩ := Nat.exists_eq_add_one.mpr (Nat.zero_lt_of_lt enough)
    have shorter : body.length < fuel := by simpa using enough
    rw [List.flatMap_cons, List.append_assoc, readString, if_neg (head_jsonEscape c _),
      readUnit_jsonEscape]
    simp only [Option.bind_some, ih shorter, Option.map_some]

theorem expect_append (token rest : List Char) : expect token (token ++ rest) = some rest := by
  simp [expect]

theorem length_le_flatMap_jsonEscape (body : List Char) :
    body.length ≤ (body.flatMap jsonEscape).length := by
  induction body with
  | nil => simp
  | cons c body ih =>
    have one : 1 ≤ (jsonEscape c).length := by
      unfold jsonEscape
      split_ifs <;> simp
    simp only [List.flatMap_cons, List.length_append, List.length_cons]
    omega

theorem takeWhile_toDigits (n : ℕ) (rest : List Char) (stop : rest.head?.all fun c => !c.isDigit) :
    (Nat.toDigits 10 n ++ rest).takeWhile Char.isDigit = Nat.toDigits 10 n := by
  have digits : ∀ c ∈ Nat.toDigits 10 n, c.isDigit = true :=
    fun c member => Nat.isDigit_of_mem_toDigits (by decide) (by decide) member
  rw [List.takeWhile_append_of_pos digits]
  cases rest with
  | nil => simp
  | cons c rest =>
    have stopped : c.isDigit = false := by simpa using stop
    rw [List.takeWhile_cons_of_neg (by simp [stopped]), List.append_nil]

theorem readItem_itemJson (item : OrderItem) (rest : List Char) :
    readItem (itemJson item ++ rest) = some (item, rest) := by
  have text : itemJson item ++ rest = quantityKey ++ (Nat.toDigits 10 item.quantity ++
      (skuKey ++ (item.sku.toList.flatMap jsonEscape ++ '"' :: ('\x7d' :: rest)))) := by
    simp [itemJson]
  have digits := takeWhile_toDigits item.quantity
    (skuKey ++ (item.sku.toList.flatMap jsonEscape ++ '"' :: ('\x7d' :: rest))) rfl
  have nonempty : (Nat.toDigits 10 item.quantity).isEmpty = false := by
    simp [Nat.toDigits_ne_nil]
  have fuel := length_le_flatMap_jsonEscape item.sku.toList
  rw [text, readItem, expect_append]
  simp only [bind, Option.bind_some, digits, nonempty, Bool.false_eq_true, ↓reduceIte,
    List.drop_left', expect_append]
  rw [readString_flatMap _ _ (by simp only [List.length_append]; omega)]
  simp only [Option.bind_some, Nat.ofDigitChars_ten_toDigits, String.ofList_toList]
  rw [show '\x7d' :: rest = ['\x7d'] ++ rest from rfl, expect_append]
  rfl

theorem readItemsTail_itemsTailJson (items : List OrderItem) {fuel : ℕ} (enough : items.length < fuel) :
    readItemsTail fuel (itemsTailJson items) = some items := by
  induction items generalizing fuel with
  | nil =>
    obtain ⟨fuel, rfl⟩ := Nat.exists_eq_add_one.mpr enough
    rfl
  | cons item items ih =>
    obtain ⟨fuel, rfl⟩ := Nat.exists_eq_add_one.mpr (Nat.zero_lt_of_lt enough)
    have shorter : items.length < fuel := by simpa using enough
    have comma : itemsTailJson (item :: items) = [','] ++ (itemJson item ++ itemsTailJson items) := rfl
    rw [readItemsTail, if_neg (by simp [itemsTailJson]), comma, expect_append]
    simp only [bind, Option.bind_some, readItem_itemJson, ih shorter]

theorem length_le_itemsTailJson (items : List OrderItem) : items.length ≤ (itemsTailJson items).length := by
  induction items with
  | nil => simp
  | cons item items ih =>
    simp only [itemsTailJson, List.length_cons, List.length_append]
    omega

/-- `json.loads` inverts `canonical_json` on order items. -/
theorem loadsItems_canonicalJson (items : List OrderItem) :
    loadsItems (canonicalJson items) = some items := by
  cases items with
  | nil => rfl
  | cons item items =>
    have text : (canonicalJson (item :: items)).toList =
        ['['] ++ (itemJson item ++ itemsTailJson items) := by
      simp [canonicalJson]
    have long : canonicalJson (item :: items) ≠ "[]" := by
      intro same
      have lengths := congrArg List.length (text.symm.trans (congrArg String.toList same))
      simp [itemJson, quantityKey] at lengths
    have fuel := length_le_itemsTailJson items
    simp only [loadsItems, long, ↓reduceIte, text, expect_append, bind, Option.bind_some,
      readItem_itemJson, readItemsTail_itemsTailJson items (Nat.lt_succ_of_le fuel)]

end OrchLab
