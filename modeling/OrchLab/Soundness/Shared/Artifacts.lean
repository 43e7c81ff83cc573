import OrchLab.Model.Shared.Artifacts

/-! # Reading artifacts back

A written record is one line of its file. It is also one line for `str.splitlines` unless one of its strings
holds a line boundary that the writer does not escape, of which there are three. The merge of the shards puts the
records in order of their timestamps. So the readers agree on a file exactly when no record has one of these
characters and the timestamps are in order.
-/

namespace OrchLab

/-- The line boundaries outside ASCII, which `dumps` leaves in a text. -/
def isSeparator (c : Char) : Bool := c.toNat ∈ [0x85, 0x2028, 0x2029]

/-! ## The characters of a written text -/

private theorem isAlphanum_eq (c : Char) : c.isAlphanum = ((decide (c.val ≥ 65 ∧ c.val ≤ 90) ||
    decide (c.val ≥ 97) && decide (c.val ≤ 122)) || decide (c.val ≥ 48) && decide (c.val ≤ 57)) := rfl

/-- A token character is visible ASCII. -/
theorem toNat_of_isTokenChar {c : Char} (token : Json.isTokenChar c = true) : 0x21 ≤ c.toNat ∧ c.toNat ≤ 0x7d := by
  simp only [Json.isTokenChar, isNumberChar, isAlphanum_eq, Bool.or_eq_true, Bool.and_eq_true, decide_eq_true_eq,
    List.mem_cons, List.not_mem_nil, or_false, ge_iff_le, UInt32.le_iff_toNat_le] at token
  rcases token with (((((upper | lower) | digit) | plus) | minus) | dot) | structural
  · exact ⟨le_trans (by decide) upper.1, le_trans upper.2 (by decide)⟩
  · exact ⟨le_trans (by decide) lower.1, le_trans lower.2 (by decide)⟩
  · exact ⟨le_trans (by decide) digit.1, le_trans digit.2 (by decide)⟩
  · subst plus
    decide
  · subst minus
    decide
  · subst dot
    decide
  · rcases structural with rfl | rfl | rfl | rfl | rfl | rfl | rfl <;> decide

theorem isLineBoundary_of_isTokenChar {c : Char} (token : Json.isTokenChar c = true) :
    isLineBoundary c = false := by
  have range := toNat_of_isTokenChar token
  simp only [isLineBoundary, List.mem_cons, List.not_mem_nil, or_false, decide_eq_false_iff_not]
  omega

private theorem isTokenChar_digitChar {n : ℕ} (small : n < 16) : Json.isTokenChar (Nat.digitChar n) = true := by
  decide +revert

/-- Escaping takes every line boundary away but the separators. -/
theorem any_jsonEscape_isLineBoundary (c : Char) : (jsonEscape c).any isLineBoundary = isSeparator c := by
  unfold jsonEscape
  split_ifs with quote slash newline carriage tab back form control
  any_goals subst c; rfl
  · have high := isLineBoundary_of_isTokenChar (isTokenChar_digitChar (by omega : c.toNat / 16 < 16))
    have low := isLineBoundary_of_isTokenChar (isTokenChar_digitChar (by omega : c.toNat % 16 < 16))
    have ascii : isSeparator c = false := by
      simp only [isSeparator, List.mem_cons, List.not_mem_nil, or_false, decide_eq_false_iff_not]
      omega
    rw [ascii]
    simp only [List.any_cons, List.any_nil, high, low, Bool.or_false]
    rfl
  · rw [List.any_cons, List.any_nil, Bool.or_false, isLineBoundary, isSeparator, decide_eq_decide]
    simp only [List.mem_cons, List.not_mem_nil, or_false]
    omega

/-- No control character is left in a text. -/
theorem any_jsonEscape_control (c : Char) : ((jsonEscape c).any fun c => decide (c.toNat < 0x20)) = false := by
  unfold jsonEscape
  split_ifs with quote slash newline carriage tab back form control
  any_goals rfl
  · have high := toNat_of_isTokenChar (isTokenChar_digitChar (by omega : c.toNat / 16 < 16))
    have low := toNat_of_isTokenChar (isTokenChar_digitChar (by omega : c.toNat % 16 < 16))
    simp only [List.any_cons, List.any_nil, Bool.or_false, Bool.or_eq_false_iff, decide_eq_false_iff_not, not_lt]
    exact ⟨by decide, by decide, by decide, by decide, le_trans (by decide) high.1, le_trans (by decide) low.1⟩
  · simp [control]

namespace JsonRecord

/-- A string of the record, a key included, holds a separator. -/
def separated (record : JsonRecord) : Bool := Json.anyChar isSeparator (.object record)

variable (record : JsonRecord)

theorem any_isLineBoundary : record.text.any isLineBoundary = record.separated :=
  Json.any_dumps (fun _ => isLineBoundary_of_isTokenChar) any_jsonEscape_isLineBoundary _

theorem control_not_mem {c : Char} (control : c.toNat < 0x20) : c ∉ record.text := by
  have none : (record.text.any fun c => decide (c.toNat < 0x20)) = false :=
    (Json.any_dumps (fun c token => decide_eq_false (not_lt.mpr (le_trans (by decide) (toNat_of_isTokenChar token).1)))
      any_jsonEscape_control _).trans (Json.anyChar_false _)
  intro member
  have no := List.any_eq_false.mp none c member
  simp [control] at no

/-- The text of a record stands between braces. -/
theorem text_eq : ∃ body, record.text = '\x7b' :: (body ++ ['\x7d']) := ⟨_, by rw [text, Json.dumps]⟩

/-- A record without a separator is one line, any other at least two. -/
theorem linesOf_text : (record.separated = false → linesOf record.text = [record.text]) ∧
    1 ≤ (linesOf record.text).length ∧ (record.separated = true → 2 ≤ (linesOf record.text).length) := by
  obtain ⟨body, same⟩ := record.text_eq
  have opening : '\x7b' ∈ record.text := by rw [same]; exact List.mem_cons_self ..
  have visible : isSpace '\x7b' = false := by decide
  have visible' : isSpace '\x7d' = false := by decide
  refine ⟨fun plain => ?_, ?_, fun separated => ?_⟩
  · rw [← any_isLineBoundary, List.any_eq_false] at plain
    exact linesOf_of_forall_not opening visible fun c member => Bool.not_eq_true _ ▸ plain c member
  · exact List.length_pos_iff.mpr (linesOf_ne_nil opening visible)
  · rw [← any_isLineBoundary, same, List.any_cons, List.any_append] at separated
    have within : body.any isLineBoundary = true := by
      simpa [isLineBoundary_of_visible visible, isLineBoundary_of_visible visible'] using separated
    obtain ⟨c, member, boundary⟩ := List.any_eq_true.mp within
    obtain ⟨before, after, rfl⟩ := List.append_of_mem member
    have split : '\x7b' :: ((before ++ c :: after) ++ ['\x7d']) = ('\x7b' :: before) ++ c :: (after ++ ['\x7d']) := by
      simp
    rw [same, split]
    exact two_le_length_linesOf boundary (List.mem_cons_self ..) visible (by simp) visible'

end JsonRecord

/-! ## The readers -/

/-- The file is the texts of its records, each on a line. -/
theorem writeJsonl_eq (records : List JsonRecord) : writeJsonl records = unlines (records.map JsonRecord.text) := by
  have appends : ∀ content, records.foldl JsonlWriter.write content =
      content ++ unlines (records.map JsonRecord.text) := by
    induction records with
    | nil => simp [unlines]
    | cons record rest ih =>
      intro content
      rw [List.foldl_cons, ih, JsonlWriter.write, List.append_assoc]
      rfl
  exact appends []

section Lines

variable (records : List JsonRecord)

theorem universalNewlines_writeJsonl : universalNewlines (writeJsonl records) = writeJsonl records := by
  refine universalNewlines_of_not_mem ?_
  rw [writeJsonl_eq, mem_unlines]
  rintro ⟨_, member, here | newline⟩
  · obtain ⟨record, -, rfl⟩ := List.mem_map.mp member
    exact record.control_not_mem (by decide) here
  · cases newline

/-- The lines of `str.splitlines` that are not blank are those of the records. -/
theorem filter_splitLines : (splitLines (writeJsonl records)).filter (fun line => !isBlank line) =
    records.flatMap fun record => linesOf record.text := by
  rw [writeJsonl_eq, splitLines_unlines, List.filter_flatMap, List.flatMap_map]
  · rfl
  · intro text member
    obtain ⟨record, -, rfl⟩ := List.mem_map.mp member
    exact record.control_not_mem (by decide)

/-- The lines of the file are the records. -/
theorem filter_fileLines : (fileLines (writeJsonl records)).filter (fun line => !isBlank line) =
    records.map fun record => record.text ++ ['\n'] := by
  rw [writeJsonl_eq, fileLines_unlines, List.map_map]
  · refine List.filter_eq_self.mpr fun line member => ?_
    obtain ⟨record, -, rfl⟩ := List.mem_map.mp member
    obtain ⟨body, same⟩ := record.text_eq
    rw [isBlank_of_visible (c := '\x7b') (by simp [same]) (by decide), Bool.not_false]
  · intro text member
    obtain ⟨record, -, rfl⟩ := List.mem_map.mp member
    exact record.control_not_mem (by decide)

end Lines

/-- `json.loads` reads the text of the record, with or without the end of its line. -/
def Decodes (loads : List Char → Option Json) (record : JsonRecord) : Prop :=
  loads record.text = some (.object record) ∧ loads (record.text ++ ['\n']) = some (.object record)

/-- Every reader returns the records of a written file, and the file is readable. -/
structure ReadsBack (loads : List Char → Option Json) (others : Json → Json → Option Bool)
    (records : List JsonRecord) : Prop where
  consolidate : Consolidate.readJsonl loads (writeJsonl records) = some (records.map .object)
  runScenario : RunScenario.readJsonl loads (writeJsonl records) = some (records.map .object)
  checkTraceability : CheckTraceability.readJsonl loads (writeJsonl records) = some (records.map .object)
  mergeShards : CollectArtifacts.mergeShards loads others [writeJsonl records] = some (records.map .object)
  readable : ∀ name, unreadableArtifacts loads [(name, writeJsonl records)] = []

section Load

variable {loads : List Char → Option Json}

private theorem mapM_of_decodes {records : List JsonRecord} (line : JsonRecord → List Char)
    (reads : ∀ record ∈ records, loads (line record) = some (.object record)) :
    (records.map line).mapM loads = some (records.map .object) := by
  induction records with
  | nil => rfl
  | cons record rest ih =>
    obtain ⟨here, later⟩ := List.forall_mem_cons.mp reads
    rw [List.map_cons, List.mapM_cons, here, ih later]
    rfl

private theorem length_of_mapM {lines : List (List Char)} {values : List Json}
    (read : lines.mapM loads = some values) : values.length = lines.length := by
  induction lines generalizing values with
  | nil => rw [List.mapM_nil] at read; cases read; rfl
  | cons line rest ih =>
    rw [List.mapM_cons] at read
    obtain ⟨value, -, read⟩ := Option.bind_eq_some_iff.mp read
    obtain ⟨others, later, same⟩ := Option.bind_eq_some_iff.mp read
    cases same
    rw [List.length_cons, List.length_cons, ih later]

theorem mapM_eq_none_of_mem {lines : List (List Char)} {line : List Char} (member : line ∈ lines)
    (refused : loads line = none) : lines.mapM loads = none := by
  induction lines with
  | nil => cases member
  | cons first rest ih =>
    rw [List.mapM_cons]
    rcases List.mem_cons.mp member with rfl | later
    · rw [refused]
      rfl
    · rw [ih later]
      cases loads first <;> rfl

/-- The lines of `str.splitlines` give the records of a file without separators. -/
theorem loadLines_splitLines {records : List JsonRecord} (decodes : ∀ record ∈ records, Decodes loads record)
    (plain : ∀ record ∈ records, record.separated = false) :
    loadLines loads (splitLines (universalNewlines (writeJsonl records))) = some (records.map .object) := by
  have lines : records.flatMap (fun record => linesOf record.text) = records.map JsonRecord.text := by
    rw [List.map_eq_flatMap]
    exact List.flatMap_congr fun record member => record.linesOf_text.1 (plain record member)
  rw [loadLines, universalNewlines_writeJsonl, filter_splitLines, lines]
  exact mapM_of_decodes _ fun record member => (decodes record member).1

end Load

private theorem length_le_flatMap {α β : Type} {l : List α} {f : α → List β} (one : ∀ a ∈ l, 1 ≤ (f a).length) :
    l.length ≤ (l.flatMap f).length := by
  induction l with
  | nil => exact Nat.le_refl 0
  | cons a rest ih =>
    obtain ⟨here, later⟩ := List.forall_mem_cons.mp one
    have rest := ih later
    rw [List.flatMap_cons, List.length_append, List.length_cons]
    omega

/-- Lists of one element at least that have one on average have one each. -/
private theorem length_eq_one_of_flatMap {α β : Type} {l : List α} {f : α → List β}
    (one : ∀ a ∈ l, 1 ≤ (f a).length) (same : (l.flatMap f).length = l.length) : ∀ a ∈ l, (f a).length = 1 := by
  induction l with
  | nil => simp
  | cons a rest ih =>
    obtain ⟨here, later⟩ := List.forall_mem_cons.mp one
    have enough := length_le_flatMap later
    rw [List.flatMap_cons, List.length_append, List.length_cons] at same
    exact List.forall_mem_cons.mpr ⟨by omega, ih later (by omega)⟩

section Merge

variable {loads : List Char → Option Json} {others : Json → Json → Option Bool}

/-- Iterating over a written file gives its records. -/
private theorem loadLines_fileLines {records : List JsonRecord}
    (decodes : ∀ record ∈ records, Decodes loads record) :
    loadLines loads (fileLines (universalNewlines (writeJsonl records))) = some (records.map .object) := by
  rw [loadLines, universalNewlines_writeJsonl, filter_fileLines]
  exact mapM_of_decodes _ fun record member => (decodes record member).2

/-- What is merged are the records of all files, by their timestamps. -/
theorem mergeShards_writeJsonl (others : Json → Json → Option Bool) {shards : List (List JsonRecord)}
    (decodes : ∀ shard ∈ shards, ∀ record ∈ shard, Decodes loads record) :
    CollectArtifacts.mergeShards loads others (shards.map writeJsonl) =
      (sortBy? (fun one two => Json.less? others (Json.timestamp (.object one)) (Json.timestamp (.object two)))
        shards.flatten).map (List.map .object) := by
  have read : (shards.map writeJsonl).mapM (fun content => loadLines loads (fileLines (universalNewlines content))) =
      some (shards.map fun shard => shard.map .object) := by
    induction shards with
    | nil => rfl
    | cons shard rest ih =>
      obtain ⟨here, later⟩ := List.forall_mem_cons.mp decodes
      rw [List.map_cons, List.mapM_cons, loadLines_fileLines here, ih later]
      rfl
  have objects : (shards.flatten.map Json.object).all Json.isObject = true := by
    rw [List.all_map]
    exact List.all_eq_true.mpr fun _ _ => rfl
  rw [CollectArtifacts.mergeShards, read, Option.bind_eq_bind, Option.bind_some, ← List.map_flatten, if_pos objects,
    sortBy?_map]

/-- No timestamp is less than the one before it, and it compares with that. -/
def InOrder (others : Json → Json → Option Bool) (records : List JsonRecord) : Prop :=
  records.IsChain fun earlier later =>
    Json.less? others (Json.timestamp (.object later)) (Json.timestamp (.object earlier)) = some false

private theorem less?_asymmetric (asymmetric : ∀ one two, others one two = some true → others two one = some false)
    (one two : Json) (less : Json.less? others one two = some true) : Json.less? others two one = some false := by
  cases one <;> cases two
  case string.string one two =>
    have before : one < two := of_decide_eq_true (Option.some.inj less)
    exact congrArg some (decide_eq_false before.asymm)
  all_goals exact asymmetric _ _ less

end Merge

/-- For every decoder that reads the written texts: all readers return the records of the file, and the file
is readable, exactly when no record holds one of the three separators and no timestamp is less than the one
before it. -/
theorem readsBack_iff {loads : List Char → Option Json} {others : Json → Json → Option Bool}
    {records : List JsonRecord} (decodes : ∀ record ∈ records, Decodes loads record)
    (asymmetric : ∀ one two, others one two = some true → others two one = some false) :
    ReadsBack loads others records ↔
      (∀ record ∈ records, record.separated = false) ∧ InOrder others records := by
  have merged : CollectArtifacts.mergeShards loads others [writeJsonl records] = some (records.map .object) ↔
      InOrder others records := by
    have alone : ∀ shard ∈ [records], ∀ record ∈ shard, Decodes loads record := by simpa using decodes
    have file := mergeShards_writeJsonl others alone
    rw [List.map_singleton, List.flatten_singleton] at file
    have objects : Function.Injective (List.map Json.object) :=
      List.map_injective_iff.mpr fun _ _ same => Json.object.inj same
    rw [file, InOrder, ← sortBy?_eq_self_iff fun one two => less?_asymmetric asymmetric _ _]
    exact (Option.map_injective objects).eq_iff' rfl
  constructor
  · intro reads
    refine ⟨fun record member => ?_, merged.mp reads.mergeShards⟩
    have read := reads.consolidate
    rw [Consolidate.readJsonl, loadLines, universalNewlines_writeJsonl, filter_splitLines] at read
    have same := length_of_mapM read
    rw [List.length_map] at same
    have single := length_eq_one_of_flatMap (fun record _ => record.linesOf_text.2.1) same.symm record member
    rw [← Bool.not_eq_true]
    intro separated
    have two := record.linesOf_text.2.2 separated
    omega
  · rintro ⟨plain, ordered⟩
    have split := loadLines_splitLines decodes plain
    refine ⟨split, split, loadLines_fileLines decodes, merged.mpr ordered, fun name => ?_⟩
    rw [unreadableArtifacts, List.filter_singleton, List.any_eq_false.mpr]
    · rfl
    · intro line member refused
      rw [loadLines, mapM_eq_none_of_mem member (Option.isNone_iff_eq_none.mp refused)] at split
      cases split

/-! ## A reason code with a separator -/

/-- A decision at a time with this text as its reason code. -/
def reasonRecord (timestamp reason : String) : JsonRecord :=
  [("timestamp", .string timestamp), ("reason_code", .string reason)]

/-- A decoder that reads the texts of these records. -/
def loadsAmong (records : List JsonRecord) (text : List Char) : Option Json :=
  (records.find? fun record => text = record.text || text = record.text ++ ['\n']).map .object

theorem decodes_loadsAmong {records : List JsonRecord} (distinct : (records.map JsonRecord.text).Nodup) :
    ∀ record ∈ records, Decodes (loadsAmong records) record := by
  intro record member
  have reads : ∀ text, text = record.text ∨ text = record.text ++ ['\n'] →
      loadsAmong records text = some (.object record) := by
    intro text same
    obtain ⟨found, search⟩ := Option.isSome_iff_exists.mp
      (List.find?_isSome (p := fun record : JsonRecord => text = record.text || text = record.text ++ ['\n']).mpr
        ⟨record, member, by simpa using same⟩)
    have ends : ∀ record other : JsonRecord, record.text ≠ other.text ++ ['\n'] := by
      intro record other is
      exact record.control_not_mem (c := '\n') (by decide) (by simp [is])
    have own := List.find?_some search
    have texts : found.text = record.text := by
      rcases Bool.or_eq_true_iff.mp own with found' | found' <;> rcases same with rfl | rfl
      · exact (of_decide_eq_true found').symm
      · exact absurd (of_decide_eq_true found').symm (ends found record)
      · exact absurd (of_decide_eq_true found') (ends record found)
      · exact (List.append_cancel_right (of_decide_eq_true found')).symm
    obtain rfl := List.inj_on_of_nodup_map distinct (List.mem_of_find?_eq_some search) member texts
    rw [loadsAmong, search]
    rfl
  exact ⟨reads _ (.inl rfl), reads _ (.inr rfl)⟩

/-- The reason code `FILA` U+2028 `CHEIA` is written to one line that three readers split. -/
theorem not_readsBack : ¬∀ (loads : List Char → Option Json) (others : Json → Json → Option Bool)
    (records : List JsonRecord), (∀ record ∈ records, Decodes loads record) →
      (∀ one two, others one two = some true → others two one = some false) → ReadsBack loads others records := by
  intro all
  have single : ([reasonRecord "10" "FILA\u2028CHEIA"].map JsonRecord.text).Nodup := List.nodup_singleton _
  have reads := all _ (fun _ _ => none) _ (decodes_loadsAmong single) (by rintro _ _ ⟨⟩)
  have lines := length_of_mapM reads.consolidate
  revert lines
  decide +kernel

/-- Reason codes with accents and a newline are read back in the order of their times. -/
theorem readsBack_iff_plain :
    ReadsBack (loadsAmong [reasonRecord "10" "SERVIÇO\nINDISPONÍVEL", reasonRecord "20" "TRANSIENTE"])
      (fun _ _ => none) [reasonRecord "10" "SERVIÇO\nINDISPONÍVEL", reasonRecord "20" "TRANSIENTE"] :=
  (readsBack_iff (decodes_loadsAmong (by decide +kernel)) (by rintro _ _ ⟨⟩)).mpr
    ⟨fun record member => by
      rcases List.mem_pair.mp member with rfl | rfl <;> decide +kernel, .cons_cons (by decide +kernel) (.singleton _)⟩

end OrchLab
