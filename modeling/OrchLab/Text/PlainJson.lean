import OrchLab.Text.JsonDecoder

/-! # Decoding a plain text

A text of characters without a backslash is plain. If it is shorter than what the interpreter bounds, decoding it
raises nothing but `JSONDecodeError`, and the strings it is made of have an encoding.
-/

namespace OrchLab

/-! ## Plain states -/

/-- The texts among these fields have an encoding. -/
def PlainFields (fields : List (List CodePoint × JsonValue)) : Prop :=
  ∀ field ∈ fields, ∀ text, field.2 = .string text → CodePoint.encodable text = true

/-- A text with an encoding, an object of such texts, or anything else. -/
def JsonValue.Plain : JsonValue → Prop
  | .string text => CodePoint.encodable text = true
  | .object fields => PlainFields fields
  | .null | .bool _ | .number _ | .array _ => True

namespace JsonDecoder

def Frame.Plain : Frame → Prop
  | .array _ => True
  | .object fields _ => PlainFields fields

def Role.Plain : Role → Prop
  | .value => True
  | .key fields => PlainFields fields

/-- What is being read after this many characters. -/
def Mode.Plain (count : ℕ) : Mode → Prop
  | .value | .item => True
  | .key fields _ | .colon fields _ => PlainFields fields
  | .string role text _ => role.Plain ∧ CodePoint.encodable text = true
  | .escape .. | .unicode .. => False
  | .number _ _ digits => digits ≤ count
  | .literal _ known => known.Plain
  | .after known => known.Plain

/-- The state after this many characters of a plain text. -/
structure State.Plain (count : ℕ) (s : State) : Prop where
  mode : s.mode.Plain count
  frames : ∀ frame ∈ s.stack, frame.Plain
  depth : s.stack.length ≤ count

/-- Nothing but `JSONDecodeError` is raised, and what is returned is good. -/
def Decodes {α : Type} (good : α → Prop) : Except LoadsError α → Prop
  | .error error => error = .jsonDecode
  | .ok value => good value

/-- A choice between results that both are as they should be. -/
theorem Decodes.ite {α : Type} {good : α → Prop} {condition : Prop} [Decidable condition]
    {one two : Except LoadsError α} (yes : Decodes good one) (no : Decodes good two) :
    Decodes good (if condition then one else two) := by
  split
  · exact yes
  · exact no

variable {limits : Limits} {count : ℕ} {stack : List Frame} {c : Char}

theorem plainFields_setField {key : List CodePoint} {value : JsonValue} {fields : List (List CodePoint × JsonValue)}
    (plain : PlainFields fields) (new : value.Plain) : PlainFields (setField key value fields) := by
  have written : ∀ text, value = .string text → CodePoint.encodable text = true := by
    rintro text rfl
    exact new
  induction fields with
  | nil =>
    intro field member
    obtain rfl := List.mem_singleton.mp member
    exact written
  | cons field rest ih =>
    rw [setField]
    split_ifs
    · exact List.forall_mem_cons.mpr ⟨written, (List.forall_mem_cons.mp plain).2⟩
    · exact List.forall_mem_cons.mpr ⟨(List.forall_mem_cons.mp plain).1, ih (List.forall_mem_cons.mp plain).2⟩

/-! ## Steps -/

/-- A mode over the same containers. -/
theorem State.Plain.of_mode {mode : Mode} (frames : ∀ frame ∈ stack, frame.Plain) (depth : stack.length ≤ count)
    (plain : mode.Plain (count + 1)) : State.Plain (count + 1) ⟨mode, stack⟩ :=
  ⟨plain, frames, Nat.le_succ_of_le depth⟩

/-- A value begins within the bounds. -/
theorem begin_plain (frames : ∀ frame ∈ stack, frame.Plain) (depth : stack.length ≤ count)
    (nesting : count < limits.nesting) (c : Char) : Decodes (State.Plain (count + 1)) (begin limits stack c) := by
  have room : stack.length < limits.nesting := by omega
  have plain : ∀ mode : Mode, mode.Plain (count + 1) → State.Plain (count + 1) ⟨mode, stack⟩ := fun _ =>
    State.Plain.of_mode frames depth
  rw [begin, if_pos room, if_pos room]
  refine .ite (plain _ ⟨trivial, rfl⟩) (.ite (plain _ (List.forall_mem_nil _)) (.ite ?_ ?_))
  · exact ⟨trivial, List.forall_mem_cons.mpr ⟨trivial, frames⟩, Nat.succ_le_succ depth⟩
  · refine .ite (plain (.literal _ .null) trivial) (.ite (plain (.literal _ (.bool true)) trivial) ?_)
    refine .ite (plain (.literal _ (.bool false)) trivial) (.ite (plain (.literal _ (.number _)) trivial) ?_)
    refine .ite (plain (.literal _ (.number _)) trivial) (.ite (plain (.number .minus _ 0) (Nat.zero_le _)) ?_)
    refine .ite (plain (.number .zero _ 1) (Nat.le_add_left _ _)) (.ite ?_ rfl)
    exact plain (.number .whole _ 1) (Nat.le_add_left _ _)

/-- What follows a value. -/
theorem follow_plain (frames : ∀ frame ∈ stack, frame.Plain) (depth : stack.length ≤ count) {value : JsonValue}
    (plain : value.Plain) (c : Char) : Decodes (State.Plain (count + 1)) (follow value stack c) := by
  unfold follow
  refine .ite (State.Plain.of_mode frames depth (show (Mode.after value).Plain _ from plain)) ?_
  cases stack with
  | nil => rfl
  | cons frame rest =>
    obtain ⟨first, others⟩ := List.forall_mem_cons.mp frames
    have shallow : rest.length ≤ count := Nat.le_of_succ_le depth
    cases frame with
    | array items =>
      refine .ite ?_ (.ite (State.Plain.of_mode others shallow trivial) rfl)
      exact ⟨trivial, List.forall_mem_cons.mpr ⟨trivial, others⟩, Nat.le_succ_of_le depth⟩
    | object fields key =>
      have written : PlainFields (setField key value fields) := plainFields_setField first plain
      exact .ite (State.Plain.of_mode others shallow written)
        (.ite (State.Plain.of_mode others shallow written) rfl)

/-- A number that ends has no more digits than characters were read. -/
theorem endNumber_plain (digits : ℕ) (few : digits ≤ limits.digits) (part : NumberPart) (literal : List Char) :
    Decodes JsonValue.Plain (endNumber limits part literal digits) := by
  have short : ¬limits.digits < digits := Nat.not_lt.mpr few
  cases part with
  | minus => rfl
  | zero | whole =>
    rw [endNumber, if_neg short]
    trivial
  | point =>
    rw [endNumber, if_neg short]
    rfl
  | exponent fractional | sign fractional =>
    cases fractional with
    | true => rfl
    | false =>
      rw [endNumber, if_neg short]
      rfl
  | fraction | power => trivial

theorem readNumber_plain (frames : ∀ frame ∈ stack, frame.Plain) (depth : stack.length ≤ count) {digits : ℕ}
    (read : digits ≤ count) (few : count ≤ limits.digits) (part : NumberPart) (literal : List Char) (c : Char) :
    Decodes (State.Plain (count + 1)) (readNumber limits part literal digits stack c) := by
  unfold readNumber
  cases part.next? c with
  | some next =>
    apply State.Plain.of_mode frames depth
    change (if _ then digits + 1 else digits) ≤ count + 1
    split
    · exact Nat.succ_le_succ read
    · exact Nat.le_succ_of_le read
  | none =>
    refine .ite (State.Plain.of_mode frames depth trivial) ?_
    have ends := endNumber_plain digits (Nat.le_trans read few) part literal
    cases ended : endNumber limits part literal digits with
    | error error =>
      rw [ended] at ends
      exact ends
    | ok value =>
      rw [ended] at ends
      exact follow_plain frames depth ends c

theorem readString_plain (frames : ∀ frame ∈ stack, frame.Plain) (depth : stack.length ≤ count) {role : Role}
    {text : List CodePoint} (place : role.Plain) (encodes : CodePoint.encodable text = true) (high : Bool)
    (plain : c ≠ '\\') : Decodes (State.Plain (count + 1)) (readString role text high stack (.scalar c)) := by
  simp only [readString, plain, ↓reduceIte]
  refine .ite ?_ (.ite rfl (State.Plain.of_mode frames depth ⟨place, CodePoint.encodable_concat encodes c⟩))
  cases role with
  | value => exact State.Plain.of_mode frames depth encodes
  | key fields => exact State.Plain.of_mode frames depth place

variable {s : State}

/-- A step that leaves the state as it is. -/
theorem State.Plain.skip (plain : s.Plain count) : s.Plain (count + 1) := by
  obtain ⟨mode, stack⟩ := s
  refine State.Plain.of_mode plain.frames plain.depth ?_
  have same : mode.Plain count := plain.mode
  cases mode with
  | number part literal digits => exact Nat.le_succ_of_le same
  | value | item | key | colon | string | literal | after => exact same
  | escape | unicode => cases same

/-- One character of a plain text within the bounds. -/
theorem step_plain (plain : s.Plain count) (digits : count ≤ limits.digits) (nesting : count < limits.nesting)
    (ordinary : c ≠ '\\') : Decodes (State.Plain (count + 1)) (step limits s (.scalar c)) := by
  have skipped := plain.skip
  obtain ⟨mode, stack⟩ := s
  obtain ⟨here, frames, depth⟩ := plain
  have kept : ∀ next : Mode, next.Plain (count + 1) → State.Plain (count + 1) ⟨next, stack⟩ := fun _ =>
    State.Plain.of_mode frames depth
  cases mode with
  | value => exact .ite skipped (begin_plain frames depth nesting c)
  | item =>
    refine .ite skipped (.ite ?_ (begin_plain frames depth nesting c))
    refine ⟨trivial, fun frame member => frames frame (List.mem_of_mem_tail member), ?_⟩
    rw [List.length_tail]
    exact Nat.le_trans (Nat.sub_le _ _) (Nat.le_succ_of_le depth)
  | key fields first =>
    exact .ite skipped (.ite (kept (.string (.key fields) [] false) ⟨here, rfl⟩) (.ite (kept (.after _) here) rfl))
  | colon fields key =>
    refine .ite skipped (.ite ?_ rfl)
    exact ⟨trivial, List.forall_mem_cons.mpr ⟨here, frames⟩, Nat.succ_le_succ depth⟩
  | string role text high => exact readString_plain frames depth here.1 here.2 high ordinary
  | escape | unicode => cases here
  | number part literal known => exact readNumber_plain frames depth here digits part literal c
  | literal rest value =>
    cases rest with
    | nil => exact follow_plain frames depth here c
    | cons expected rest =>
      refine .ite (kept _ ?_) rfl
      split <;> exact here
  | after value => exact follow_plain frames depth here c

/-- The characters of a plain text within the bounds. -/
theorem run_plain {chars : List Char} (plain : s.Plain count) (ordinary : ∀ c ∈ chars, c ≠ '\\')
    (digits : count + chars.length ≤ limits.digits) (nesting : count + chars.length ≤ limits.nesting) :
    Decodes (State.Plain (count + chars.length)) (run limits s (chars.map .scalar)) := by
  induction chars generalizing s count with
  | nil => exact plain
  | cons c rest ih =>
    rw [List.length_cons] at digits nesting
    have stepped : Decodes (State.Plain (count + 1)) (step limits s (.scalar c)) :=
      step_plain plain (by omega) (by omega) (ordinary c (List.mem_cons_self ..))
    rw [List.map_cons, run]
    cases here : step limits s (.scalar c) with
    | error error =>
      rw [here] at stepped
      exact stepped
    | ok next =>
      rw [here] at stepped
      have later := ih stepped (fun other member => ordinary other (List.mem_cons_of_mem _ member)) (by omega)
        (by omega)
      rw [List.length_cons, Nat.add_comm rest.length, ← Nat.add_assoc]
      exact later

theorem finish_plain (plain : s.Plain count) (digits : count ≤ limits.digits) :
    Decodes JsonValue.Plain (finish limits s) := by
  obtain ⟨mode, stack⟩ := s
  have here : mode.Plain count := plain.mode
  cases mode with
  | value | item | key | colon | string | escape | unicode | literal => rfl
  | after value => exact .ite here rfl
  | number part literal known =>
    have ends := endNumber_plain known (Nat.le_trans here digits) part literal
    unfold finish
    simp only
    cases ended : endNumber limits part literal known with
    | error error =>
      rw [ended] at ends
      exact ends
    | ok value =>
      rw [ended] at ends
      exact .ite ends rfl

/-- A plain text within the bounds is decoded, or raises `JSONDecodeError`. -/
theorem loads_plain {text : String} (ordinary : ∀ c ∈ text.toList, c ≠ '\\') (digits : text.length ≤ limits.digits)
    (nesting : text.length ≤ limits.nesting) :
    Decodes JsonValue.Plain (loads limits (CodePoint.ofString text)) := by
  have start : State.start.Plain 0 := ⟨trivial, List.forall_mem_nil _, Nat.le_refl 0⟩
  rw [← String.length_toList] at digits nesting
  have ran : Decodes (State.Plain (0 + text.toList.length)) (run limits .start (text.toList.map .scalar)) :=
    run_plain start ordinary (by omega) (by omega)
  rw [loads, CodePoint.ofString]
  cases reached : run limits .start (text.toList.map .scalar) with
  | error error =>
    rw [reached] at ran
    exact ran
  | ok s =>
    rw [reached] at ran
    exact finish_plain ran (by omega)

end JsonDecoder

end OrchLab
