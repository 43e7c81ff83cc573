import Mathlib.Data.List.Basic

/-! # Lines of a text

A text has two notions of a line. A file read in text mode ends a line at `\n`, after it has translated every
`\r\n` and `\r`; `str.splitlines` ends one at each of ten characters, three of them outside ASCII. Both are
given here with what they make of texts joined by `\n`.
-/

namespace OrchLab

/-- The characters `str.splitlines` ends a line at. -/
def isLineBoundary (c : Char) : Bool :=
  c.toNat ∈ [0x0a, 0x0b, 0x0c, 0x0d, 0x1c, 0x1d, 0x1e, 0x85, 0x2028, 0x2029]

/-- `str.isspace` of one character. -/
def isSpace (c : Char) : Bool :=
  0x09 ≤ c.toNat && c.toNat ≤ 0x0d || 0x1c ≤ c.toNat && c.toNat ≤ 0x20 ||
    0x2000 ≤ c.toNat && c.toNat ≤ 0x200a ||
    c.toNat ∈ [0x85, 0xa0, 0x1680, 0x2028, 0x2029, 0x202f, 0x205f, 0x3000]

theorem isSpace_of_isLineBoundary {c : Char} (boundary : isLineBoundary c = true) : isSpace c = true := by
  simp only [isLineBoundary, List.mem_cons, List.not_mem_nil, or_false, decide_eq_true_eq] at boundary
  rcases boundary with is | is | is | is | is | is | is | is | is | is <;> simp [isSpace, is]

/-- `not line.strip()`. -/
def isBlank (line : List Char) : Bool := line.all isSpace

/-- `\r\n` as one line end. -/
def joinCrLf : List Char → List Char
  | [] => []
  | '\r' :: '\n' :: rest => '\n' :: joinCrLf rest
  | c :: rest => c :: joinCrLf rest

/-- What text mode makes of the content of a file. -/
def universalNewlines (text : List Char) : List Char :=
  (joinCrLf text).map fun c => if c = '\r' then '\n' else c

/-- `str.splitlines`: the pieces between boundaries, without an empty one at the end. -/
def splitLines (text : List Char) : List (List Char) :=
  let pieces := (joinCrLf text).splitOnP isLineBoundary
  if pieces.getLast? = some [] then pieces.dropLast else pieces

/-- The lines of a text file, each with its end. -/
def fileLines (text : List Char) : List (List Char) :=
  let pieces := text.splitOn '\n'
  pieces.dropLast.map (· ++ ['\n']) ++ (pieces.getLast?.toList.filter fun last => !last.isEmpty)

/-- Every text with a line end behind it. -/
def unlines (texts : List (List Char)) : List Char := texts.flatMap (· ++ ['\n'])

/-! ## Splitting what was joined -/

theorem joinCrLf_of_not_mem {text : List Char} (none : '\r' ∉ text) : joinCrLf text = text := by
  induction text with
  | nil => rfl
  | cons c rest ih =>
    rw [List.mem_cons, not_or] at none
    have plain : joinCrLf (c :: rest) = c :: joinCrLf rest := by
      rw [joinCrLf]
      rintro _ rfl
      exact absurd rfl none.1
    rw [plain, ih none.2]

theorem universalNewlines_of_not_mem {text : List Char} (none : '\r' ∉ text) : universalNewlines text = text := by
  rw [universalNewlines, joinCrLf_of_not_mem none]
  conv_rhs => rw [← List.map_id text]
  refine List.map_congr_left fun c member => if_neg ?_
  rintro rfl
  exact none member

theorem mem_unlines {texts : List (List Char)} {c : Char} :
    c ∈ unlines texts ↔ ∃ text ∈ texts, c ∈ text ∨ c = '\n' := by
  simp [unlines]

theorem splitOnP_unlines {p : Char → Bool} (ends : p '\n' = true) (texts : List (List Char)) :
    (unlines texts).splitOnP p = texts.flatMap (·.splitOnP p) ++ [[]] := by
  induction texts with
  | nil => rfl
  | cons text rest ih =>
    rw [unlines, List.flatMap_cons, List.append_assoc, List.singleton_append,
      List.splitOnP_append_cons _ _ ends, ← unlines, ih, List.flatMap_cons, List.append_assoc]

/-- Splitting joined texts splits each of them. -/
theorem splitLines_unlines {texts : List (List Char)} (none : ∀ text ∈ texts, '\r' ∉ text) :
    splitLines (unlines texts) = texts.flatMap (·.splitOnP isLineBoundary) := by
  have plain : '\r' ∉ unlines texts := by
    rw [mem_unlines]
    rintro ⟨text, member, here | newline⟩
    · exact none text member here
    · cases newline
  rw [splitLines, joinCrLf_of_not_mem plain, splitOnP_unlines rfl]
  simp

/-- Reading joined texts of one line each gives each of them with its end. -/
theorem fileLines_unlines {texts : List (List Char)} (one : ∀ text ∈ texts, '\n' ∉ text) :
    fileLines (unlines texts) = texts.map (· ++ ['\n']) := by
  have pieces : (unlines texts).splitOn '\n' = texts ++ [[]] := by
    rw [List.splitOn_eq_splitOnP, splitOnP_unlines (by rfl)]
    congr 1
    induction texts with
    | nil => rfl
    | cons text rest ih =>
      obtain ⟨here, later⟩ := List.forall_mem_cons.mp one
      rw [List.flatMap_cons, ih later, List.splitOnP_eq_singleton, List.singleton_append]
      intro c member
      rw [beq_eq_false_iff_ne]
      rintro rfl
      exact here member
  rw [fileLines, pieces]
  simp

/-- A character that ends no line is in some line. -/
theorem exists_mem_splitOnP {p : Char → Bool} {text : List Char} {c : Char} (member : c ∈ text)
    (kept : p c = false) : ∃ piece ∈ text.splitOnP p, c ∈ piece := by
  induction text with
  | nil => cases member
  | cons head rest ih =>
    rw [List.splitOnP_cons_eq_if_modifyHead]
    obtain ⟨first, others, pieces⟩ := List.exists_cons_of_ne_nil (List.splitOnP_ne_nil p rest)
    rw [pieces] at ih ⊢
    rcases List.mem_cons.mp member with rfl | later
    · rw [if_neg (by simp [kept])]
      exact ⟨c :: first, List.mem_cons_self .., List.mem_cons_self ..⟩
    · obtain ⟨piece, here, within⟩ := ih later
      split_ifs
      · exact ⟨piece, List.mem_cons_of_mem _ here, within⟩
      · rcases List.mem_cons.mp here with rfl | other
        · exact ⟨head :: piece, List.mem_cons_self .., List.mem_cons_of_mem _ within⟩
        · exact ⟨piece, List.mem_cons_of_mem _ other, within⟩

/-- The lines of a text that are not blank. -/
def linesOf (text : List Char) : List (List Char) := (text.splitOnP isLineBoundary).filter fun line => !isBlank line

theorem isLineBoundary_of_visible {c : Char} (visible : isSpace c = false) : isLineBoundary c = false := by
  rw [← Bool.not_eq_true]
  intro boundary
  rw [isSpace_of_isLineBoundary boundary] at visible
  cases visible

theorem isBlank_of_visible {text : List Char} {c : Char} (member : c ∈ text) (visible : isSpace c = false) :
    isBlank text = false := by
  rw [isBlank, List.all_eq_false]
  exact ⟨c, member, by simp [visible]⟩

theorem linesOf_ne_nil {text : List Char} {c : Char} (member : c ∈ text) (visible : isSpace c = false) :
    linesOf text ≠ [] := by
  obtain ⟨piece, here, within⟩ := exists_mem_splitOnP member (isLineBoundary_of_visible visible)
  refine List.ne_nil_of_mem (a := piece) (List.mem_filter.mpr ⟨here, ?_⟩)
  rw [isBlank_of_visible within visible, Bool.not_false]

/-- A text with a visible character and no boundary is its own line. -/
theorem linesOf_of_forall_not {text : List Char} {c : Char} (member : c ∈ text) (visible : isSpace c = false)
    (one : ∀ c ∈ text, isLineBoundary c = false) : linesOf text = [text] := by
  rw [linesOf, List.splitOnP_eq_singleton one]
  exact List.filter_eq_self.mpr (by simp [isBlank_of_visible member visible])

/-- A boundary between two visible characters makes two lines. -/
theorem two_le_length_linesOf {before after : List Char} {c first last : Char} (boundary : isLineBoundary c = true)
    (here : first ∈ before) (visible : isSpace first = false) (there : last ∈ after)
    (visible' : isSpace last = false) : 2 ≤ (linesOf (before ++ c :: after)).length := by
  rw [linesOf, List.splitOnP_append_cons _ _ boundary, List.filter_append, List.length_append]
  have one := List.length_pos_iff.mpr (linesOf_ne_nil here visible)
  have other := List.length_pos_iff.mpr (linesOf_ne_nil there visible')
  rw [linesOf] at one other
  omega

end OrchLab
