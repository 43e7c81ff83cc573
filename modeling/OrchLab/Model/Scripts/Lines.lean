import OrchLab.Model.Scripts.Traceability
import OrchLab.Model.Shared.Envelope

/-! # The lines of the collected artifacts

The dictionaries that `DecisionRecorder.record` and `export_task_events` write as lines: a dumped record, and a row
with its payload as it was read from its column, where the keys are in order. The text of a time and that of a float
are parameters.
-/

namespace OrchLab

/-! ## Literals -/

def TaskResult.value : TaskResult → String
  | .ok => "ok"
  | .timeout => "timeout"
  | .transientError => "transient_error"
  | .invalidData => "invalid_data"
  | .fallbackFailed => "fallback_failed"

def EventSource.value : EventSource → String
  | .orders => "orders"
  | .inventory => "inventory"

def EngineName.value : EngineName → String
  | .rules => "RULES"
  | .llm => "LLM"

def ValidationErrorCode.value : ValidationErrorCode → String
  | .unknownAction => "UNKNOWN_ACTION"
  | .unknownTarget => "UNKNOWN_TARGET"
  | .missingReasonCode => "MISSING_REASON_CODE"
  | .invalidContinueTarget => "INVALID_CONTINUE_TARGET"
  | .continueAfterDispatch => "CONTINUE_AFTER_DISPATCH"
  | .retryLimitExceeded => "RETRY_LIMIT_EXCEEDED"
  | .invalidRetryTarget => "INVALID_RETRY_TARGET"
  | .fallbackRetryLimit => "FALLBACK_RETRY_LIMIT"
  | .fallbackNotAvailable => "FALLBACK_NOT_AVAILABLE"
  | .fallbackAlreadyUsed => "FALLBACK_ALREADY_USED"
  | .invalidFallbackTarget => "INVALID_FALLBACK_TARGET"
  | .targetNotAllowed => "TARGET_NOT_ALLOWED"
  | .waitLimitExceeded => "WAIT_LIMIT_EXCEEDED"
  | .taskDeadlineExceeded => "TASK_DEADLINE_EXCEEDED"
  | .terminalTask => "TERMINAL_TASK"
  | .malformedDecision => "MALFORMED_DECISION"
  | .llmDecisionTimeout => "LLM_DECISION_TIMEOUT"

/-! ## Values -/

/-- A value that may be missing. -/
def Json.ofOption {α : Type} (json : α → Json) (value : Option α) : Json := value.elim .null json

def Json.ofNat (n : ℕ) : Json := .number (.ofNat n)

/-- The text of an integer. -/
def NumberText.ofInt : ℤ → NumberText
  | .ofNat n => .ofNat n
  | .negSucc n =>
    { text := '-' :: (NumberText.ofNat (n + 1)).text
      nonempty := List.cons_ne_nil _ _
      plain := List.forall_mem_cons.mpr ⟨rfl, (NumberText.ofNat (n + 1)).plain⟩ }

def Json.ofInt (n : ℤ) : Json := .number (.ofInt n)

def taskJson (task : TaskId) : Json := .string (sequentialId "TASK" task)

def messageJson (message : MessageId) : Json := .string (uniqueId "MSG" message)

def decisionJson (decision : DecisionId) : Json := .string (uniqueId "DEC" decision)

/-! ## A decision -/

/-- A text of a proposal; a record with one that has no encoding is not written. -/
def codePointsJson (text : List CodePoint) : Json := Json.ofOption .string (CodePoint.encode? text)

/-- `ProposedDecision.model_dump(mode="json")`. -/
def ProposedDecision.modelDump (proposal : ProposedDecision) : Json :=
  .object [("action", .ofOption codePointsJson proposal.action), ("target", .ofOption codePointsJson proposal.target),
    ("reason_code", .ofOption codePointsJson proposal.reasonCode)]

/-- `TokenUsage.model_dump(mode="json")`. -/
def TokenUsage.modelDump (usage : TokenUsage) : Json :=
  .object [("input_tokens", .ofOption .ofInt usage.inputTokens), ("output_tokens", .ofOption .ofInt usage.outputTokens),
    ("total_tokens", .ofOption .ofInt usage.totalTokens)]

section Lines

variable (toIso : Timestamp → String) (repr : ℚ → NumberText)

/-- `DecisionRecord.model_dump(mode="json")`. -/
def DecisionRecord.line (record : DecisionRecord) : JsonRecord :=
  [("execution_id", .string record.executionId), ("task_id", taskJson record.taskId),
    ("state_id", .string (uniqueId "STATE" record.stateId)), ("decision_id", decisionJson record.decisionId),
    ("decision_engine", .string record.decisionEngine.value),
    ("proposed_decision", .ofOption ProposedDecision.modelDump record.proposedDecision),
    ("validation", .object [("valid", .bool record.validation.valid),
      ("error", .ofOption (.string ·.value) record.validation.error)]),
    ("executed_decision", record.executedDecision.toProposed.modelDump),
    ("decision_time_ms", .number (repr record.decisionTimeMs)),
    ("llm_inference_ms", .ofOption (.number <| repr ·) record.llmInferenceMs),
    ("token_usage", .ofOption TokenUsage.modelDump record.tokenUsage), ("timestamp", .string (toIso record.timestamp))]

/-! ## A row of the trajectory -/

/-- `json.loads(row["payload_json"])`, of a column that `canonical_json` has written. -/
def EventPayload.json : EventPayload → Json
  | .message (.requested payload) => .object [("items", .array (payload.items.map OrderItem.modelDump)),
      ("order_id", .string (sequentialId "ORD" payload.orderId))]
  | .message (.succeeded payload) => .object [("order_id", .string (sequentialId "ORD" payload.orderId)),
      ("route", .string payload.route.value)]
  | .message (.failed payload) => .object [("failure_reason", .string payload.failureReason.value),
      ("order_id", .string (sequentialId "ORD" payload.orderId)), ("route", .string payload.route.value)]
  | .retryScheduled decisionId delayMs =>
    .object [("decision_id", decisionJson decisionId), ("delay_ms", .ofNat delayMs)]
  | .waitScheduled decisionId delayMs waitCount =>
    .object [("decision_id", decisionJson decisionId), ("delay_ms", .ofNat delayMs), ("wait_count", .ofNat waitCount)]
  | .waitFinished waitCount => .object [("wait_count", .ofNat waitCount)]
  | .fallbackScheduled decisionId => .object [("decision_id", decisionJson decisionId)]
  | .taskAborted decisionId reasonCode =>
    .object [("decision_id", decisionJson decisionId), ("reason_code", .string reasonCode)]
  | .inventoryTimeout requestMessageId lastResult => .object [("last_result", .string lastResult.value),
      ("request_message_id", messageJson requestMessageId)]
  | .messageDeadLettered taskName messageId eventType originQueue reason taskStateChanged =>
    .object [("event_type", .ofOption (.string ·.value) eventType), ("message_id", .ofOption messageJson messageId),
      ("origin_queue", .ofOption .string originQueue), ("reason", .ofOption .string reason),
      ("task_name", .ofOption .string taskName), ("task_state_changed", .bool taskStateChanged)]

/-- The line of a row `task_event_record` has made. -/
def TaskEventRecord.line (record : TaskEventRecord) : JsonRecord :=
  [("execution_id", .string record.executionId), ("task_id", taskJson record.taskId),
    ("message_id", .ofOption messageJson record.messageId), ("event_seq", .ofInt record.eventSeq),
    ("event_type", .string record.eventType.value), ("service", .string record.service.value),
    ("target", .ofOption (.string ·.value) record.target), ("timestamp", .string (toIso record.timestamp)),
    ("published_at", .ofOption (.string <| toIso ·) record.publishedAt), ("redelivered", .bool record.redelivered),
    ("attempt_number", .ofNat record.attemptNumber), ("payload", .ofOption EventPayload.json record.payload)]

end Lines

end OrchLab
