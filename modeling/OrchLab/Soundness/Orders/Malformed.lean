import OrchLab.Model.Orders.LLMEngine
import OrchLab.Soundness.Orders.Conducting
import OrchLab.Text.PlainJson

/-! # What a text of the model can do to a decision point

A text that is read becomes the proposal it spells or a malformed output. It is read unless `json.loads` raises
something else than `JSONDecodeError`, and that exception leaves the engine and the decision point with it. Its
decision is recorded once, unless a field of the contract is a text that has no encoding: then the contract of a
decision refuses the proposal, or the writer of the record does.
-/

namespace OrchLab

/-! ## Reading a text -/

/-- The object has fields of the contract alone, each a text or null. -/
def JsonValue.Contract (fields : List (List CodePoint × JsonValue)) : Prop :=
  ∀ field ∈ fields, field.1 ∈ contractFields ∧ field.2.isField = true

/-- What `json.loads` makes of a text raises nothing in the parser. -/
structure Harmless (loaded : Except LoadsError JsonValue) : Prop where
  decodes : ∀ error, loaded = .error error → error = .jsonDecode
  encodes : ∀ fields, loaded = .ok (.object fields) → JsonValue.Contract fields →
    ∀ name ∈ ["action", "target", "reason_code"], ∀ text, JsonValue.field? fields name = some text →
      CodePoint.encodable text = true

/-- The proposal is what the object says, field by field. -/
structure ProposedDecision.Spells (proposal : ProposedDecision) (fields : List (List CodePoint × JsonValue)) :
    Prop where
  contract : JsonValue.Contract fields
  action : JsonValue.field? fields "action" = proposal.action
  target : JsonValue.field? fields "target" = proposal.target
  reasonCode : JsonValue.field? fields "reason_code" = proposal.reasonCode

/-- An engine reports the proposal exactly as it is written, or a malformed output. -/
def EngineReport.Reads (report : EngineReport) (loaded : Except LoadsError JsonValue) : Prop :=
  (∃ fields proposal, loaded = .ok (.object fields) ∧ proposal.Spells fields ∧
      report.proposal = some proposal ∧ report.failure = none) ∨
    report.proposal = none ∧ ∃ error, report.failure = some (LLMDecisionEngine.malformedOutput error)

/-- What an object of the contract is read as. -/
theorem parseDecision?_of_contract {fields : List (List CodePoint × JsonValue)}
    (contract : JsonValue.Contract fields) :
    parseDecision? (.ok (.object fields)) = some ⟨some (.ofFields fields), none⟩ := by
  have known : fields.all (·.1 ∈ contractFields) = true :=
    List.all_eq_true.mpr fun field member => decide_eq_true (contract field member).1
  have texts : fields.any (!·.2.isField) = false := by
    rw [List.any_eq_false]
    intro field member
    simp [(contract field member).2]
  simp only [parseDecision?, known, texts, Bool.not_true, Bool.false_eq_true, ↓reduceIte]

/-- Any other object is refused. -/
theorem parseDecision?_of_not_contract {fields : List (List CodePoint × JsonValue)}
    (other : ¬JsonValue.Contract fields) :
    ∃ error, parseDecision? (.ok (.object fields)) = some ⟨none, some error⟩ := by
  simp only [parseDecision?]
  split_ifs with unexpected mistyped
  · exact ⟨.unexpectedFields, rfl⟩
  · exact ⟨.invalidFieldType, rfl⟩
  · refine absurd ?_ other
    intro field member
    simp only [Bool.not_eq_true, Bool.not_eq_false', List.all_eq_true, decide_eq_true_eq] at unexpected
    simp only [Bool.not_eq_true, List.any_eq_false, Bool.not_eq_false'] at mistyped
    exact ⟨unexpected field member, by simpa using mistyped field member⟩

/-- The parser returns unless `json.loads` raises something else. -/
theorem parseDecision?_isSome_iff (loaded : Except LoadsError JsonValue) :
    (parseDecision? loaded).isSome = true ↔ ∀ error, loaded = .error error → error = .jsonDecode := by
  constructor
  · rintro returns error rfl
    cases error with
    | jsonDecode => rfl
    | value | recursion => cases returns
  · intro decodes
    cases loaded with
    | error error =>
      rw [decodes error rfl]
      rfl
    | ok value =>
      cases value with
      | null | bool | number | string | array => rfl
      | object fields =>
        by_cases contract : JsonValue.Contract fields
        · rw [parseDecision?_of_contract contract, Option.isSome_some]
        · obtain ⟨error, refused⟩ := parseDecision?_of_not_contract contract
          rw [refused, Option.isSome_some]

theorem ProposedDecision.encodable_ofFields_iff {fields : List (List CodePoint × JsonValue)} :
    (ofFields fields).encodable = true ↔
      ∀ name ∈ ["action", "target", "reason_code"], ∀ text, JsonValue.field? fields name = some text →
        CodePoint.encodable text = true := by
  simp only [encodable, ofFields, Bool.and_eq_true, Option.all_eq_true, List.forall_mem_cons, List.not_mem_nil,
    false_implies, implies_true, and_true, and_assoc]

/-- What is read is harmless exactly if the texts of its proposal have an encoding. -/
theorem harmless_iff_of_parsed {loaded : Except LoadsError JsonValue} {parsed : ParseResult}
    (read : parseDecision? loaded = some parsed) :
    Harmless loaded ↔ parsed.proposal.all ProposedDecision.encodable = true := by
  have decodes := (parseDecision?_isSome_iff loaded).mp (Option.isSome_iff_exists.mpr ⟨parsed, read⟩)
  by_cases contract : ∃ fields, loaded = .ok (.object fields) ∧ JsonValue.Contract fields
  · obtain ⟨fields, rfl, contract⟩ := contract
    rw [parseDecision?_of_contract contract, Option.some_inj] at read
    rw [← read, Option.all_some, ProposedDecision.encodable_ofFields_iff]
    constructor
    · intro harmless
      exact harmless.encodes fields rfl contract
    · intro encodes
      exact ⟨decodes, by rintro _ ⟨⟩ -; exact encodes⟩
  · have refused : parsed.proposal = none := by
      cases loaded with
      | error error =>
        rw [decodes error rfl] at read
        rw [← Option.some_inj.mp read]
      | ok value =>
        cases value with
        | null | bool | number | string | array => rw [← Option.some_inj.mp read]
        | object fields =>
          obtain ⟨error, same⟩ := parseDecision?_of_not_contract fun inside => contract ⟨fields, rfl, inside⟩
          rw [← Option.some_inj.mp (same.symm.trans read)]
    exact iff_of_true ⟨decodes, fun fields is inside => absurd ⟨fields, is, inside⟩ contract⟩ (by rw [refused]; rfl)

/-- A text without backslashes, shorter than the interpreter bounds integers and containers, is harmless. -/
theorem harmless_of_plain {limits : Limits} {text : String} (ordinary : ∀ c ∈ text.toList, c ≠ '\\')
    (digits : text.length ≤ limits.digits) (nesting : text.length ≤ limits.nesting) :
    Harmless (JsonDecoder.loads limits (CodePoint.ofString text)) := by
  have plain := JsonDecoder.loads_plain ordinary digits nesting
  refine ⟨?_, ?_⟩
  · intro error raised
    rw [raised] at plain
    exact plain
  · intro fields loaded _ name _ known given
    rw [loaded] at plain
    obtain ⟨value, found, text⟩ := Option.bind_eq_some_iff.mp given
    obtain ⟨field, here, rfl⟩ := Option.map_eq_some_iff.mp found
    apply plain field (List.mem_of_find?_eq_some here)
    cases read : field.2 with
    | string other =>
      rw [read] at text
      exact congrArg _ (Option.some_inj.mp text)
    | null | bool | number | array | object =>
      rw [read] at text
      cases text

namespace LLMDecisionEngine

variable {loaded : Except LoadsError JsonValue} {parsed : ParseResult} {generation : Generation}

/-- What the engine reports of a text that is read. -/
theorem reads_of_parsed (read : parseDecision? loaded = some parsed) : (report generation parsed).Reads loaded := by
  have refused : ∀ error, parseDecision? loaded = some ⟨none, some error⟩ →
      (report generation parsed).Reads loaded := by
    intro error same
    obtain rfl : parsed = ⟨none, some error⟩ := Option.some_inj.mp (read.symm.trans same)
    exact .inr ⟨rfl, error, rfl⟩
  cases loaded with
  | error error =>
    cases error with
    | jsonDecode => exact refused .invalidJson rfl
    | value | recursion => cases read
  | ok value =>
    cases value with
    | null | bool | number | string | array => exact refused .notAnObject rfl
    | object fields =>
      by_cases contract : JsonValue.Contract fields
      · rw [parseDecision?_of_contract contract, Option.some_inj] at read
        subst read
        exact .inl ⟨fields, .ofFields fields, rfl, ⟨contract, rfl, rfl, rfl⟩, rfl, rfl⟩
      · obtain ⟨error, same⟩ := parseDecision?_of_not_contract contract
        exact refused error same

theorem malformedOutput_ne_timeout (error : ParseError) : malformedOutput error ≠ llmDecisionTimeout := by
  cases error <;> decide

theorem failure_ne_timeout (generation : Generation) (parsed : ParseResult) :
    (report generation parsed).failure ≠ some llmDecisionTimeout := by
  intro timedOut
  obtain ⟨error, -, same⟩ := Option.map_eq_some_iff.mp timedOut
  exact malformedOutput_ne_timeout error same

end LLMDecisionEngine

/-! ## From the report to the record -/

namespace DecisionValidator

variable {validator : DecisionValidator} {state : SystemState}

/-- No check of a proposal finds that it is late. -/
theorem firstError_ne_timeout (validator : DecisionValidator) (proposal : Option ProposedDecision)
    (state : SystemState) : validator.firstError proposal state ≠ some .llmDecisionTimeout := by
  cases proposal with
  | none => simp [firstError]
  | some proposal =>
    simp only [firstError]
    cases proposal.action.bind Action.ofText? with
    | none => simp
    | some action =>
      intro late
      obtain ⟨check, found, same⟩ := Option.map_eq_some_iff.mp late
      have listed := List.mem_of_find?_eq_some found
      simp only [checks, List.mem_cons, List.not_mem_nil, or_false] at listed
      rcases listed with rfl | rfl | rfl | rfl | rfl | rfl | rfl | rfl | rfl | rfl | rfl | rfl | rfl | rfl <;>
        cases same

/-- The decision of an output in time is its proposal unchanged, or `INVALID_DECISION_ABORT`. -/
theorem resolve?_of_inTime {output : EngineOutput} {decision : Decision}
    (inTime : output.failure ≠ some llmDecisionTimeout)
    (resolved : validator.resolve? state output = some decision) :
    output.proposal = some decision.toProposed ∨ decision = invalidDecisionAbort := by
  rw [resolve?, decide_eq_false inTime] at resolved
  cases first : validator.firstError output.proposal state with
  | none =>
    have approved : validator.validate output.proposal state false = .ok := by
      simp only [validate, first, Bool.false_eq_true, ↓reduceIte]
    obtain ⟨proposal, given⟩ : ∃ proposal, output.proposal = some proposal := by
      apply Option.isSome_iff_exists.mp
      cases proposed : output.proposal with
      | none => simp [proposed, firstError] at first
      | some proposal => rfl
    rw [approved, given] at resolved
    exact .inl (given.trans (congrArg some (Decision.toProposed_of_modelValidate? resolved)))
  | some error =>
    have rejected : validator.validate output.proposal state false = .invalid error := by
      simp only [validate, first, Bool.false_eq_true, ↓reduceIte]
    have punctual : error ≠ .llmDecisionTimeout := by
      rintro rfl
      exact firstError_ne_timeout validator output.proposal state first
    have aborts : resolveAction? output.proposal (.invalid error) = some invalidDecisionAbort := by
      cases output.proposal <;> simp [resolveAction?, ValidationResult.invalid, punctual]
    rw [rejected, aborts] at resolved
    exact .inr (Option.some_inj.mp resolved).symm

end DecisionValidator

/-- A text breaks nothing from the snapshot on: it is read, one decision is recorded, and that decision is the
proposal unchanged or the abort of an invalid one. -/
def Surroundings.Withstands (around : Surroundings) (deployment : Deployment) (db : OrdersDb) (task : TaskId)
    (state : SystemState) (loaded : Except LoadsError JsonValue) : Prop :=
  ∃ report record, around.engine state = some report ∧ report.Reads loaded ∧
    (around.conduct deployment .llm db task state).decisions = [record] ∧
    record.proposedDecision = report.proposal ∧
    (report.proposal = some record.executedDecision.toProposed ∨ record.executedDecision = invalidDecisionAbort)

section

variable {deployment : Deployment} {loads : List CodePoint → Except LoadsError JsonValue}
  {client : SystemState → ClientAnswer} {around : Surroundings} {db : OrdersDb} {task : TaskId} {seen : Observation}
  {state : SystemState} {generation : Generation}

/-- From a snapshot on, whatever `json.loads` makes of texts, a text of the model breaks nothing exactly when what is
made of it is harmless. -/
theorem text_withstood_iff (built : db.build deployment.config task seen = .ok state)
    (asks : around.engine = LLMDecisionEngine.decide? loads client) (answers : client state = .generated generation)
    (positive : 0 ≤ around.decisionTimeMs) (writes : around.writesDecision = true) :
    around.Withstands deployment db task state (loads generation.text) ↔ Harmless (loads generation.text) := by
  have engine : around.engine state =
      (parseDecision? (loads generation.text)).map (LLMDecisionEngine.report generation) := by
    rw [asks, LLMDecisionEngine.decide?, answers]
  constructor
  · rintro ⟨report, record, reported, -, recorded, -⟩
    rw [engine] at reported
    obtain ⟨parsed, read, rfl⟩ := Option.map_eq_some_iff.mp reported
    rw [read, Option.map_some] at engine
    rw [harmless_iff_of_parsed read]
    by_contra unencodable
    rw [Surroundings.conduct_of_unencodable engine (Bool.eq_false_iff.mpr unencodable)] at recorded
    cases recorded
  · intro harmless
    obtain ⟨parsed, read⟩ := Option.isSome_iff_exists.mp ((parseDecision?_isSome_iff _).mpr harmless.decodes)
    have encodable : (LLMDecisionEngine.report generation parsed).encodable = true :=
      (harmless_iff_of_parsed read).mp harmless
    rw [read, Option.map_some] at engine
    obtain ⟨-, -, -, valid⟩ := OrdersDb.build_eq_ok built
    obtain ⟨decision, resolved⟩ := deployment.validator.exists_resolve? state encodable
    have measures : (LLMDecisionEngine.report generation parsed).Measures .llm := by
      rintro time ⟨⟩
      exact generation.wallMs_nonneg
    have recorded : (around.conduct deployment .llm db task state).decisions =
        [.of deployment.validator state (LLMDecisionEngine.report generation parsed).toEngineOutput decision
          around.decisionId (around.measured .llm (LLMDecisionEngine.report generation parsed))] := by
      rw [Surroundings.conduct_of_resolved engine resolved valid measures positive, encodable, writes]
      rfl
    exact ⟨_, _, engine, LLMDecisionEngine.reads_of_parsed read, recorded, rfl,
      DecisionValidator.resolve?_of_inTime (LLMDecisionEngine.failure_ne_timeout generation parsed) resolved⟩

end

/-- A text, generated in five milliseconds. -/
def Generation.saying (text : String) : Generation where
  text := CodePoint.ofString text
  doneReason := some "stop"
  promptEvalCount := some 350
  evalCount := some 24
  wallMs := 5
  wallMs_nonneg := by decide

/-- The surroundings of the first decision point of a model that always says the same. -/
def Surroundings.speaking (text : String) : Surroundings :=
  { Surroundings.calm (.calm 1 1) 1 ⟨10, 2⟩ with
    engine := LLMDecisionEngine.decide? (JsonDecoder.loads ⟨4300, 990⟩) fun _ => .generated (.saying text) }

/-- Half a surrogate pair for a reason, as the model may write it. -/
def halfPair : String := "\x7b\"action\": \"ABORT\", \"target\": null, \"reason_code\": \"\\ud800\"\x7d"

/-- A reason that is half a surrogate pair is read and approved, but no decision: nothing is recorded. -/
theorem not_text_withstood : ∃ s state, (ordersMachine .pilot).Reachable s ∧
    s.db.build Deployment.pilot.config 1 (.calm 1 1) = .ok state ∧
    ((Surroundings.speaking halfPair).conduct .pilot .llm s.db 1 state).decisions = [] ∧
    ¬(Surroundings.speaking halfPair).Withstands .pilot s.db 1 state
      (JsonDecoder.loads ⟨4300, 990⟩ (CodePoint.ofString halfPair)) := by
  obtain ⟨s, state, reachable, built⟩ := exists_first_snapshot
  have read : parseDecision? (JsonDecoder.loads ⟨4300, 990⟩ (CodePoint.ofString halfPair)) =
      some ⟨EngineOutput.unencodable.proposal, none⟩ := by
    decide +kernel
  have engine : (Surroundings.speaking halfPair).engine state =
      some (LLMDecisionEngine.report (.saying halfPair) ⟨EngineOutput.unencodable.proposal, none⟩) :=
    congrArg (Option.map (LLMDecisionEngine.report (.saying halfPair))) read
  have unrecorded : ((Surroundings.speaking halfPair).conduct .pilot .llm s.db 1 state).decisions = [] := by
    rw [Surroundings.conduct_of_unencodable engine (by decide)]
    rfl
  refine ⟨s, state, reachable, built, unrecorded, ?_⟩
  rintro ⟨report, record, -, -, recorded, -⟩
  cases unrecorded.symm.trans recorded

/-- A proposal to wait, and a text that is no JSON. -/
theorem text_withstood_pilot : ∃ s state, (ordersMachine .pilot).Reachable s ∧
    ∀ text ∈ ["\x7b\"action\": \"WAIT\", \"target\": null, \"reason_code\": \"LATER\"\x7d", "Sure! WAIT"],
      (Surroundings.speaking text).Withstands .pilot s.db 1 state
        (JsonDecoder.loads ⟨4300, 990⟩ (CodePoint.ofString text)) := by
  obtain ⟨s, state, reachable, built⟩ := exists_first_snapshot
  refine ⟨s, state, reachable, ?_⟩
  have plain : ∀ text ∈
      ["\x7b\"action\": \"WAIT\", \"target\": null, \"reason_code\": \"LATER\"\x7d", "Sure! WAIT"],
      '\\' ∉ text.toList ∧ text.length ≤ 990 := by
    decide +kernel
  intro text listed
  obtain ⟨ordinary, short⟩ := plain text listed
  have asks : (Surroundings.speaking text).engine =
      LLMDecisionEngine.decide? (JsonDecoder.loads ⟨4300, 990⟩) fun _ => .generated (.saying text) := rfl
  have positive : (0 : ℚ) ≤ 0 := by decide
  exact (text_withstood_iff built asks rfl positive rfl).mpr
    (harmless_of_plain (fun c member same => ordinary (same ▸ member)) (short.trans (by decide)) short)

end OrchLab
