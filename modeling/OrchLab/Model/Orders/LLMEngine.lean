import OrchLab.Model.Orders.Orchestrator
import OrchLab.Text.JsonDecoder

/-! # The engine that asks a model

`services/orders/app/llm`: the strict reading of the text of the model as a proposal, and the engine around it. The
text is a string of code points, of which `json.loads` makes a value or an exception; only `JSONDecodeError` is
caught.
-/

namespace OrchLab

/-! ## `decision_parser.py` -/

inductive ParseError where
  | invalidJson | notAnObject | unexpectedFields | invalidFieldType
deriving DecidableEq, Repr

def ParseError.value : ParseError → String
  | .invalidJson => "INVALID_JSON"
  | .notAnObject => "NOT_AN_OBJECT"
  | .unexpectedFields => "UNEXPECTED_FIELDS"
  | .invalidFieldType => "INVALID_FIELD_TYPE"

structure ParseResult where
  proposal : Option ProposedDecision
  error : Option ParseError
deriving DecidableEq, Repr

/-- `CONTRACT_FIELDS`. -/
def contractFields : List (List CodePoint) := ["action", "target", "reason_code"].map CodePoint.ofString

namespace JsonValue

/-- The value is a text or null. -/
def isField : JsonValue → Bool
  | .null | .string _ => true
  | _ => false

/-- A text, of a value that is one. -/
def text? : JsonValue → Option (List CodePoint)
  | .string text => some text
  | _ => none

/-- `value.get(name)` of an object whose values are texts or null. -/
def field? (fields : List (List CodePoint × JsonValue)) (name : String) : Option (List CodePoint) :=
  ((fields.find? (·.1 = CodePoint.ofString name)).map (·.2)).bind text?

end JsonValue

/-- `ProposedDecision(...)` of the fields of an object; a plain text field takes any string. -/
def ProposedDecision.ofFields (fields : List (List CodePoint × JsonValue)) : ProposedDecision where
  action := JsonValue.field? fields "action"
  target := JsonValue.field? fields "target"
  reasonCode := JsonValue.field? fields "reason_code"

/-- `parse_decision`, on what `json.loads` makes of the text; `none` is an exception. -/
def parseDecision? (loaded : Except LoadsError JsonValue) : Option ParseResult :=
  match loaded with
  | .error .jsonDecode => some ⟨none, some .invalidJson⟩
  | .error _ => none
  | .ok (.object fields) =>
    if !fields.all (·.1 ∈ contractFields) then some ⟨none, some .unexpectedFields⟩
    else if fields.any (!·.2.isField) then some ⟨none, some .invalidFieldType⟩
    else some ⟨some (.ofFields fields), none⟩
  | .ok _ => some ⟨none, some .notAnObject⟩

/-! ## `llm_engine.py` -/

/-- The part of a `Generation` the engine reads; the clock of the client does not run backwards. -/
structure Generation where
  text : List CodePoint
  doneReason : Option String
  promptEvalCount : Option ℤ
  evalCount : Option ℤ
  wallMs : ℚ
  wallMs_nonneg : 0 ≤ wallMs

/-- What `OllamaClient.generate` does: it returns, raises `LLMTimeout` after some time, or raises
`LLMRuntimeError`. -/
inductive ClientAnswer where
  | generated (generation : Generation)
  | timedOut (inferenceMs : ℚ)
  | failed

/-- `_total`. -/
def totalTokens : Option ℤ → Option ℤ → Option ℤ
  | some input, some output => some (input + output)
  | _, _ => none

namespace LLMDecisionEngine

/-- The failure of an output that could not be read. -/
def malformedOutput (error : ParseError) : String := "MALFORMED_OUTPUT:" ++ error.value

/-- What the engine reports about a text it has read. -/
def report (generation : Generation) (parsed : ParseResult) : EngineReport where
  proposal := parsed.proposal
  failure := parsed.error.map malformedOutput
  llmInferenceMs := some generation.wallMs
  tokenUsage := some ⟨generation.promptEvalCount, generation.evalCount,
    totalTokens generation.promptEvalCount generation.evalCount⟩
  rawResponse := some generation.text
  doneReason := generation.doneReason

/-- `LLMDecisionEngine.decide`, on what the client makes of the prompt of a state; `none` is an exception. -/
def decide? (loads : List CodePoint → Except LoadsError JsonValue) (client : SystemState → ClientAnswer)
    (state : SystemState) : Option EngineReport :=
  match client state with
  | .failed => none
  | .timedOut inferenceMs => some
    { proposal := none
      failure := some llmDecisionTimeout
      llmInferenceMs := some inferenceMs
      tokenUsage := none
      rawResponse := none
      doneReason := none }
  | .generated generation => (parseDecision? (loads generation.text)).map (report generation)

end LLMDecisionEngine

end OrchLab
