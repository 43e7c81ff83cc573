import OrchLab.Soundness.Orders.Policy
import Mathlib.Data.List.Range

/-! # The ladder of the rules

While every request of a task fails, the rules climb a ladder that only the number of attempts fixes: the first
dispatch, a retry for each attempt left, the fallback, and the abort. `Rung` says where the row of a task stands
after some requests, and the policy decides the step of that place.
-/

namespace OrchLab

/-! ## Steps and rungs -/

/-- The decisions of `n` attempts that all fail, by action and reason. -/
def ladder (n : ℕ) : List (Action × String) :=
  (.continueFlow, ReasonCode.normalFlow.value) ::
    (List.replicate (n - 1) (.retry, ReasonCode.transientRetry.value) ++
      [(.fallback, ReasonCode.primaryExhausted.value), (.abort, ReasonCode.fallbackFailed.value)])

/-- The requests these decisions publish, by route and attempt. -/
def rungs (n : ℕ) : List (Target × ℕ) :=
  (List.range' 1 n).map (Target.inventoryPrimary, ·) ++ [(.inventoryFallback, n)]

section Ladder

variable {n k : ℕ}

theorem length_ladder (positive : 1 ≤ n) : (ladder n).length = n + 2 := by
  simp only [ladder, List.length_cons, List.length_append, List.length_replicate, List.length_nil]
  omega

theorem length_rungs (n : ℕ) : (rungs n).length = n + 1 := by
  simp only [rungs, List.length_append, List.length_map, List.length_range', List.length_singleton]

theorem ladder_first (n : ℕ) : (ladder n)[0]? = some (.continueFlow, ReasonCode.normalFlow.value) := rfl

theorem ladder_retry (positive : 1 ≤ k) (below : k < n) :
    (ladder n)[k]? = some (.retry, ReasonCode.transientRetry.value) := by
  obtain ⟨k, rfl⟩ := Nat.exists_eq_add_of_le' positive
  rw [ladder, List.getElem?_cons_succ, List.getElem?_append_left, List.getElem?_replicate, if_pos]
  · omega
  · rw [List.length_replicate]
    omega

private theorem ladder_behind (positive : 1 ≤ n) : (ladder n)[n + k]? =
    [(Action.fallback, ReasonCode.primaryExhausted.value), (.abort, ReasonCode.fallbackFailed.value)][k]? := by
  obtain ⟨n, rfl⟩ := Nat.exists_eq_add_of_le' positive
  rw [ladder, Nat.add_right_comm, List.getElem?_cons_succ, Nat.add_sub_cancel, List.getElem?_append_right,
    List.length_replicate, Nat.add_sub_cancel_left]
  rw [List.length_replicate]
  omega

theorem ladder_fallback (positive : 1 ≤ n) :
    (ladder n)[n]? = some (.fallback, ReasonCode.primaryExhausted.value) :=
  ladder_behind (k := 0) positive

theorem ladder_abort (positive : 1 ≤ n) :
    (ladder n)[n + 1]? = some (.abort, ReasonCode.fallbackFailed.value) :=
  ladder_behind (k := 1) positive

theorem rungs_primary (below : k < n) : (rungs n)[k]? = some (.inventoryPrimary, k + 1) := by
  rw [rungs, List.getElem?_append_left, List.getElem?_map, List.getElem?_range' below, Option.map_some]
  · simp only [Nat.one_mul, Nat.add_comm]
  · rwa [List.length_map, List.length_range']

theorem rungs_fallback (n : ℕ) : (rungs n)[n]? = some (.inventoryFallback, n) := by
  rw [rungs, List.getElem?_append_right, List.length_map, List.length_range', Nat.sub_self]
  · rfl
  · rw [List.length_map, List.length_range']

/-- The next element extends a prefix. -/
theorem take_succ_of_getElem? {α : Type*} {l : List α} {a : α} (next : l[k]? = some a) :
    l.take (k + 1) = l.take k ++ [a] := by
  rw [List.take_add_one, next, Option.toList_some]

end Ladder

/-! ## Where a task stands -/

/-- The row of a live task after `k` of its requests were published. -/
inductive Rung (n : ℕ) : ℕ → TaskRow → Prop
  | ground {row : TaskRow} (status : row.status = .pending) (target : row.currentTarget = none)
      (attempt : row.attemptNumber = 1) : Rung n 0 row
  | primary {k : ℕ} {row : TaskRow} (positive : 1 ≤ k) (within : k ≤ n) (status : row.status = .dispatched)
      (target : row.currentTarget = some .inventoryPrimary) (attempt : row.attemptNumber = k) : Rung n k row
  | fallback {row : TaskRow} (status : row.status = .fallbackProcessing)
      (target : row.currentTarget = some .inventoryFallback) (attempt : row.attemptNumber = n) : Rung n (n + 1) row

namespace Rung

variable {n k : ℕ} {row row' : TaskRow}

theorem alive (rung : Rung n k row) : row.status.terminal = false := by
  cases rung with
  | ground status | primary _ _ status | fallback status => rw [status]; rfl

theorem idle (rung : Rung n k row) : row.status ≠ .retrying ∧ row.status ≠ .waiting := by
  cases rung with
  | ground status | primary _ _ status | fallback status => rw [status]; exact ⟨by rintro ⟨⟩, by rintro ⟨⟩⟩

theorem le (rung : Rung n k row) : k ≤ n + 1 := by
  cases rung with
  | ground => exact Nat.zero_le _
  | primary _ within => exact Nat.le_succ_of_le within
  | fallback => exact le_rfl

/-- What does not touch the place of a row leaves it there. -/
theorem congr (rung : Rung n k row) (status : row'.status = row.status)
    (target : row'.currentTarget = row.currentTarget) (attempt : row'.attemptNumber = row.attemptNumber) :
    Rung n k row' := by
  cases rung with
  | ground status' target' attempt' =>
    exact .ground (status.trans status') (target.trans target') (attempt.trans attempt')
  | primary positive within status' target' attempt' =>
    exact .primary positive within (status.trans status') (target.trans target') (attempt.trans attempt')
  | fallback status' target' attempt' =>
    exact .fallback (status.trans status') (target.trans target') (attempt.trans attempt')

end Rung

/-! ## What the policy decides there -/

/-- Nothing but the last result calls for anything else: there is time, the queue of the task is served and
short, and so is the fallback. -/
structure SystemState.Untroubled (config : ExperimentConfig) (state : SystemState) : Prop where
  early : state.task.elapsedMs < config.messaging.taskDeadlineMs
  served : state.service.status ≠ .unavailable
  short : state.messaging.queueSize < config.messaging.queueHighWatermark
  available : state.alternatives.fallbackAvailable = true

namespace RulesDecisionEngine

variable {config : ExperimentConfig} {state : SystemState} {row : TaskRow} {k : ℕ}

/-- The rule that matches is the step of the rung the task stands on. -/
theorem rule_of_rung (untroubled : state.Untroubled config) (describes : state.Describes config row)
    (rung : Rung config.messaging.maxAttempts k row) (outcome : Outcome row.currentTarget row.lastResult)
    (readable : row.lastResult ≠ some .invalidData)
    (unused : row.fallbackUsed = decide (row.currentTarget = some .inventoryFallback)) :
    (ladder config.messaging.maxAttempts)[k]? =
      some (((ofConfig config).rule state).1, ((ofConfig config).rule state).2.2.value) := by
  have positive := config.messaging.maxAttempts_pos
  simp only [rule, ofConfig, if_neg (Nat.not_le_of_lt untroubled.early), describes.lastResult, if_neg readable,
    if_neg untroubled.served, if_neg (Nat.not_le_of_lt untroubled.short), describes.attempt, describes.phase,
    describes.fallbackUsed, unused, untroubled.available]
  cases rung with
  | ground status target attempt =>
    rw [target] at outcome
    generalize row.lastResult = result at outcome
    cases outcome
    simp [degradedResult, status, ladder_first]
  | primary first within status target attempt =>
    rw [target] at outcome ⊢
    have failed : degradedResult row.lastResult = true ∧ row.lastResult ≠ some .fallbackFailed := by
      generalize row.lastResult = result at outcome readable
      cases outcome with
      | timeout | transientError => exact ⟨rfl, by rintro ⟨⟩⟩
      | invalidData => exact absurd rfl readable
    rw [if_neg failed.2, if_pos failed.1, attempt]
    rcases within.lt_or_eq with below | last
    · rw [if_pos below, ladder_retry first below]
    · rw [if_neg (by omega), last, ladder_fallback positive]
      rfl
  | fallback status target attempt =>
    rw [target] at outcome
    have failed : row.lastResult = some .fallbackFailed := by
      generalize row.lastResult = result at outcome readable
      cases outcome with
      | invalidData => exact absurd rfl readable
      | fallbackFailed => rfl
    rw [if_pos failed, ladder_abort positive]

/-- The decision the full decision point executes is the step of the rung. -/
theorem step_of_rung {validator : DecisionValidator} {output : EngineOutput} {decision : Decision}
    (accepted : DecisionValidator.ofConfig? config = some validator)
    (untroubled : state.Untroubled config) (describes : state.Describes config row)
    (rung : Rung config.messaging.maxAttempts k row) (outcome : Outcome row.currentTarget row.lastResult)
    (readable : row.lastResult ≠ some .invalidData)
    (unused : row.fallbackUsed = decide (row.currentTarget = some .inventoryFallback))
    (decides : (ofConfig config).decide? state = some output)
    (resolved : validator.resolve? state output = some decision) :
    (ladder config.messaging.maxAttempts)[k]? = some (decision.action, decision.reasonCode) := by
  obtain ⟨proposed, policy, approved⟩ := policy_approved accepted
    (by rw [describes.phase]; exact rung.alive) describes.maxAttempts describes.maxWaits
    (by rwa [describes.target, describes.lastResult])
  have is : output = ⟨some proposed.toProposed, none⟩ := by
    rw [decide?, policy, Option.map_some, Option.some_inj] at decides
    exact decides.symm
  have validated : validator.validate output.proposal state (output.failure = some llmDecisionTimeout) = .ok := by
    rw [is]
    exact approved
  obtain ⟨-, raises⟩ | ⟨other, resolved', -, read, -⟩ := DecisionValidator.resolve?_of_ok validated
  · cases raises.symm.trans resolved
  obtain rfl : other = decision := Option.some_inj.mp (resolved'.symm.trans resolved)
  rw [is] at read
  obtain rfl := Decision.toProposed_inj.mp (Decision.toProposed_of_modelValidate? read)
  have parts : Decision.ofParts? ((ofConfig config).rule state).1 ((ofConfig config).rule state).2.1
      ((ofConfig config).rule state).2.2.value = some proposed := policy
  obtain ⟨action, -, reason⟩ := Decision.ofParts?_eq_some parts
  rw [rule_of_rung untroubled describes rung outcome readable unused, ← action, ← reason]

end RulesDecisionEngine

end OrchLab
