import OrchLab.Text.CodePoints
import Mathlib.Data.List.Basic

/-! # Decoding JSON

`json.loads` as an automaton that reads one code point after another, with a stack of the containers it is in. It
accepts what the decoder of the interpreter accepts, `NaN` and `Infinity` and repeated keys included, and raises
what that one raises first: `JSONDecodeError` at a code point that fits nothing, `ValueError` at the end of an integer
with too many digits, and `RecursionError` where a container is opened too deep. A pair of `\u` escapes is one
character, and half a pair stays as it is.
-/

namespace OrchLab

/-- What the interpreter bounds: the digits of an integer, and the containers inside one another. -/
structure Limits where
  digits : ℕ
  nesting : ℕ

/-- The exceptions of `json.loads`: `JSONDecodeError`, a plain `ValueError`, and `RecursionError`. -/
inductive LoadsError where
  | jsonDecode | value | recursion
deriving DecidableEq, Repr

/-- What `json.loads` returns; a number stands for its literal, and an object has its keys in insertion order. -/
inductive JsonValue where
  | null
  | bool (value : Bool)
  | number (literal : List Char)
  | string (text : List CodePoint)
  | array (items : List JsonValue)
  | object (fields : List (List CodePoint × JsonValue))

namespace JsonDecoder

/-- `d[key] = value`. -/
def setField (key : List CodePoint) (value : JsonValue) :
    List (List CodePoint × JsonValue) → List (List CodePoint × JsonValue)
  | [] => [(key, value)]
  | field :: rest => if field.1 = key then (key, value) :: rest else field :: setField key value rest

/-! ## States -/

/-- A container around the value being read. -/
inductive Frame where
  | array (items : List JsonValue)
  | object (fields : List (List CodePoint × JsonValue)) (key : List CodePoint)

/-- What a string is: a value, or a key behind these fields. -/
inductive Role where
  | value
  | key (fields : List (List CodePoint × JsonValue))

/-- How far a number has been read. -/
inductive NumberPart where
  | minus | zero | whole | point | fraction
  | exponent (fractional : Bool)
  | sign (fractional : Bool)
  | power
deriving DecidableEq

/-- What is being read. In a string `high` says that it ends with an escaped first half of a pair. -/
inductive Mode where
  | value
  | item
  | key (fields : List (List CodePoint × JsonValue)) (first : Bool)
  | colon (fields : List (List CodePoint × JsonValue)) (key : List CodePoint)
  | string (role : Role) (text : List CodePoint) (high : Bool)
  | escape (role : Role) (text : List CodePoint) (high : Bool)
  | unicode (role : Role) (text : List CodePoint) (high : Bool) (digits : List ℕ)
  | number (part : NumberPart) (literal : List Char) (digits : ℕ)
  | literal (rest : List Char) (value : JsonValue)
  | after (value : JsonValue)

structure State where
  mode : Mode
  stack : List Frame

def State.start : State := ⟨.value, []⟩

/-! ## Steps -/

def isSpace (c : Char) : Bool := c = ' ' || c = '\t' || c = '\n' || c = '\r'

/-- A code point outside the strings; half a pair fits there as little as `U+0000`. -/
def outside : CodePoint → Char
  | .scalar c => c
  | .surrogate _ => '\x00'

variable (limits : Limits)

/-- A value begins. -/
def begin (stack : List Frame) (c : Char) : Except LoadsError State :=
  if c = '"' then .ok ⟨.string .value [] false, stack⟩
  else if c = '\x7b' then
    if stack.length < limits.nesting then .ok ⟨.key [] true, stack⟩ else .error .recursion
  else if c = '[' then
    if stack.length < limits.nesting then .ok ⟨.item, .array [] :: stack⟩ else .error .recursion
  else if c = 'n' then .ok ⟨.literal ['u', 'l', 'l'] .null, stack⟩
  else if c = 't' then .ok ⟨.literal ['r', 'u', 'e'] (.bool true), stack⟩
  else if c = 'f' then .ok ⟨.literal ['a', 'l', 's', 'e'] (.bool false), stack⟩
  else if c = 'N' then .ok ⟨.literal ['a', 'N'] (.number "NaN".toList), stack⟩
  else if c = 'I' then .ok ⟨.literal "nfinity".toList (.number "Infinity".toList), stack⟩
  else if c = '-' then .ok ⟨.number .minus ['-'] 0, stack⟩
  else if c = '0' then .ok ⟨.number .zero ['0'] 1, stack⟩
  else if c.isDigit then .ok ⟨.number .whole [c] 1, stack⟩
  else .error .jsonDecode

/-- A value is complete, and this follows it. -/
def follow (value : JsonValue) (stack : List Frame) (c : Char) : Except LoadsError State :=
  if isSpace c then .ok ⟨.after value, stack⟩
  else match stack with
    | [] => .error .jsonDecode
    | .array items :: rest =>
      if c = ',' then .ok ⟨.value, .array (items ++ [value]) :: rest⟩
      else if c = ']' then .ok ⟨.after (.array (items ++ [value])), rest⟩
      else .error .jsonDecode
    | .object fields key :: rest =>
      if c = ',' then .ok ⟨.key (setField key value fields) false, rest⟩
      else if c = '\x7d' then .ok ⟨.after (.object (setField key value fields)), rest⟩
      else .error .jsonDecode

/-- The part of a number its next character belongs to. -/
def NumberPart.next? (c : Char) : NumberPart → Option NumberPart
  | .minus => if c = '0' then some .zero else if c.isDigit then some .whole else none
  | .zero => if c = '.' then some .point else if c = 'e' || c = 'E' then some (.exponent false) else none
  | .whole =>
    if c.isDigit then some .whole else if c = '.' then some .point
    else if c = 'e' || c = 'E' then some (.exponent false) else none
  | .point => if c.isDigit then some .fraction else none
  | .fraction => if c.isDigit then some .fraction else if c = 'e' || c = 'E' then some (.exponent true) else none
  | .exponent fractional =>
    if c.isDigit then some .power else if c = '+' || c = '-' then some (.sign fractional) else none
  | .sign _ => if c.isDigit then some .power else none
  | .power => if c.isDigit then some .power else none

/-- The number that ends here. An integer is converted before what follows it is looked at. -/
def endNumber (part : NumberPart) (literal : List Char) (digits : ℕ) : Except LoadsError JsonValue :=
  match part with
  | .minus => .error .jsonDecode
  | .zero | .whole => if limits.digits < digits then .error .value else .ok (.number literal)
  | .point | .exponent false | .sign false => .error (if limits.digits < digits then .value else .jsonDecode)
  | .exponent true | .sign true => .error .jsonDecode
  | .fraction | .power => .ok (.number literal)

/-- One more character of a number, or what follows it. -/
def readNumber (part : NumberPart) (literal : List Char) (digits : ℕ) (stack : List Frame) (c : Char) :
    Except LoadsError State :=
  match part.next? c with
  | some next =>
    .ok ⟨.number next (literal ++ [c]) (if next = .zero ∨ next = .whole then digits + 1 else digits), stack⟩
  | none =>
    if part = .minus ∧ c = 'I' then
      .ok ⟨.literal "nfinity".toList (.number "-Infinity".toList), stack⟩
    else match endNumber limits part literal digits with
      | .error error => .error error
      | .ok value => follow value stack c

/-- One more code point of a string, or its end. -/
def readString (role : Role) (text : List CodePoint) (high : Bool) (stack : List Frame) :
    CodePoint → Except LoadsError State
  | .surrogate unit => .ok ⟨.string role (text ++ [.surrogate unit]) false, stack⟩
  | .scalar c =>
    if c = '"' then
      match role with
      | .value => .ok ⟨.after (.string text), stack⟩
      | .key fields => .ok ⟨.colon fields text, stack⟩
    else if c = '\\' then .ok ⟨.escape role text high, stack⟩
    else if c.toNat < 0x20 then .error .jsonDecode
    else .ok ⟨.string role (text ++ [.scalar c]) false, stack⟩

/-- The character of a short escape. -/
def escaped? (c : Char) : Option Char :=
  if c = '"' ∨ c = '\\' ∨ c = '/' then some c
  else if c = 'b' then some '\x08'
  else if c = 'f' then some '\x0c'
  else if c = 'n' then some '\n'
  else if c = 'r' then some '\r'
  else if c = 't' then some '\t'
  else none

def hexDigit? (c : Char) : Option ℕ :=
  if c.isDigit then some (c.toNat - 48)
  else if 'a' ≤ c ∧ c ≤ 'f' then some (c.toNat - 87)
  else if 'A' ≤ c ∧ c ≤ 'F' then some (c.toNat - 55)
  else none

/-- A string with one more `\u` escape, and whether that is the first half of a pair. -/
def withUnit (text : List CodePoint) (high : Bool) (unit : CodePoint) : List CodePoint × Bool :=
  match (if high then text.getLast? else none).bind (CodePoint.joined? · unit) with
  | some whole => (text.dropLast ++ [whole], false)
  | none => (text ++ [unit], unit.isHigh)

/-- One more digit of a `\u` escape. -/
def readUnicode (role : Role) (text : List CodePoint) (high : Bool) (digits : List ℕ) (stack : List Frame)
    (c : Char) : Except LoadsError State :=
  match hexDigit? c with
  | none => .error .jsonDecode
  | some digit =>
    if digits.length < 3 then .ok ⟨.unicode role text high (digits ++ [digit]), stack⟩
    else
      let unit := (digits ++ [digit]).foldl (fun value digit => value * 16 + digit) 0
      let (text, high) := withUnit text high (.ofUnit unit)
      .ok ⟨.string role text high, stack⟩

/-- One code point. -/
def step (s : State) (point : CodePoint) : Except LoadsError State :=
  let c := outside point
  match s.mode with
  | .value => if isSpace c then .ok s else begin limits s.stack c
  | .item =>
    if isSpace c then .ok s
    else if c = ']' then .ok ⟨.after (.array []), s.stack.tail⟩
    else begin limits s.stack c
  | .key fields first =>
    if isSpace c then .ok s
    else if c = '"' then .ok ⟨.string (.key fields) [] false, s.stack⟩
    else if first && c = '\x7d' then .ok ⟨.after (.object fields), s.stack⟩
    else .error .jsonDecode
  | .colon fields key =>
    if isSpace c then .ok s
    else if c = ':' then .ok ⟨.value, .object fields key :: s.stack⟩
    else .error .jsonDecode
  | .string role text high => readString role text high s.stack point
  | .escape role text high =>
    match escaped? c with
    | some plain => .ok ⟨.string role (text ++ [.scalar plain]) false, s.stack⟩
    | none => if c = 'u' then .ok ⟨.unicode role text high [], s.stack⟩ else .error .jsonDecode
  | .unicode role text high digits => readUnicode role text high digits s.stack c
  | .number part literal digits => readNumber limits part literal digits s.stack c
  | .literal [] value => follow value s.stack c
  | .literal (expected :: rest) value =>
    if c = expected then .ok ⟨if rest = [] then .after value else .literal rest value, s.stack⟩
    else .error .jsonDecode
  | .after value => follow value s.stack c

/-- The steps over a text. -/
def run (s : State) : List CodePoint → Except LoadsError State
  | [] => .ok s
  | c :: rest =>
    match step limits s c with
    | .error error => .error error
    | .ok t => run t rest

/-- The text ends. -/
def finish (s : State) : Except LoadsError JsonValue :=
  match s.mode with
  | .after value => if s.stack.isEmpty then .ok value else .error .jsonDecode
  | .number part literal digits =>
    match endNumber limits part literal digits with
    | .error error => .error error
    | .ok value => if s.stack.isEmpty then .ok value else .error .jsonDecode
  | _ => .error .jsonDecode

/-- `json.loads`. -/
def loads (text : List CodePoint) : Except LoadsError JsonValue :=
  match run limits .start text with
  | .error error => .error error
  | .ok s => finish limits s

end JsonDecoder

end OrchLab
