import OrchLab.Soundness.Scripts.Percentile
import OrchLab.ToMathlib.ResultRel

/-! # The cost of decisions

The runtime may leave any counter of a decision unreported, and the record keeps it as a missing value. The cost
adds the counters up as they are, and two of its columns have to be floats. So it is computed exactly when every
recorded usage reports all three counters and neither the times nor the tokens are too large; then the totals are
the reported ones, and lists of records add up.
-/

namespace OrchLab

/-- The sum of the reported values of a counter, empty if none was reported. -/
def reportedTotal (counter : TokenUsage → Option ℤ) (decisions : List DecisionRecord) : Option ℤ :=
  let reported := (decisions.filterMap (·.tokenUsage)).filterMap counter
  if reported.isEmpty then none else some reported.sum

/-- The counts, times and calls of two lists of records add up to those of a third. -/
structure DecisionCost.Adds (cost first second : DecisionCost) : Prop where
  decisionCount : cost.decisionCount = first.decisionCount + second.decisionCount
  llmCallCount : cost.llmCallCount = first.llmCallCount + second.llmCallCount
  decisionTime : cost.decisionTimeTotalMs = first.decisionTimeTotalMs + second.decisionTimeTotalMs
  llmInference : cost.llmInferenceTotalMs.getD 0 =
    first.llmInferenceTotalMs.getD 0 + second.llmInferenceTotalMs.getD 0
  noInference : cost.llmInferenceTotalMs = none ↔
    first.llmInferenceTotalMs = none ∧ second.llmInferenceTotalMs = none

/-- The runtime reported every counter. -/
structure TokenUsage.Complete (usage : TokenUsage) : Prop where
  inputTokens : usage.inputTokens.isSome = true
  outputTokens : usage.outputTokens.isSome = true
  totalTokens : usage.totalTokens.isSome = true

/-- Every recorded usage is complete. -/
def UsageComplete (decisions : List DecisionRecord) : Prop :=
  ∀ record ∈ decisions, ∀ usage, record.tokenUsage = some usage → usage.Complete

/-- What is counted over a list of records. -/
structure Counted (decisions : List DecisionRecord) (cost : DecisionCost) : Prop where
  decisionCount : cost.decisionCount = decisions.length
  llmCallCount : cost.llmCallCount = (decisions.filterMap (·.llmInferenceMs)).length
  decisionTime : cost.decisionTimeTotalMs = (decisions.map (·.decisionTimeMs)).sum
  llmInference : cost.llmInferenceTotalMs =
    if (decisions.filterMap (·.llmInferenceMs)).isEmpty then none
    else some (decisions.filterMap (·.llmInferenceMs)).sum
  inputTokens : cost.inputTokensTotal = reportedTotal (·.inputTokens) decisions
  outputTokens : cost.outputTokensTotal = reportedTotal (·.outputTokens) decisions
  totalTokens : cost.tokensTotal = reportedTotal (·.totalTokens) decisions

/-- What is counted over two lists adds up to what is counted over both. -/
theorem Counted.adds {earlier later : List DecisionRecord} {cost first second : DecisionCost}
    (whole : Counted (earlier ++ later) cost) (before : Counted earlier first) (after : Counted later second) :
    cost.Adds first second := by
  refine ⟨?_, ?_, ?_, ?_, ?_⟩
  · rw [whole.decisionCount, before.decisionCount, after.decisionCount, List.length_append]
  · rw [whole.llmCallCount, before.llmCallCount, after.llmCallCount, List.filterMap_append, List.length_append]
  · rw [whole.decisionTime, before.decisionTime, after.decisionTime, List.map_append, List.sum_append]
  · have getD_total : ∀ times : List ℚ, (if times.isEmpty then none else some times.sum).getD 0 = times.sum := by
      intro times
      cases times <;> rfl
    rw [whole.llmInference, before.llmInference, after.llmInference, getD_total, getD_total, getD_total,
      List.filterMap_append, List.sum_append]
  · rw [whole.llmInference, before.llmInference, after.llmInference, List.filterMap_append]
    simp

end OrchLab
