import OrchLab.Soundness.Orders.Results

/-! # The rules policy proposes valid decisions

Of an arbitrary state the policy may propose what the validator refuses: a retry without a route, or of
the fallback route. At a decision point of the service the last result is one of the route, and then
every rule that matches passes every check.
-/

namespace OrchLab

namespace Outcome

variable {target : Option Target} {result : Option TaskResult}

/-- A transient result is one of the primary route. -/
theorem primary_of_degraded (outcome : Outcome target result) (degraded : degradedResult result = true) :
    target = some .inventoryPrimary := by
  cases outcome with
  | timeout | transientError => rfl
  | undispatched | invalidData | fallbackFailed => simp [degradedResult] at degraded

/-- A task without a result has not been dispatched. -/
theorem undispatched_of_none (outcome : Outcome target result) (invalid : result ≠ some .invalidData)
    (failed : result ≠ some .fallbackFailed) (sound : ¬degradedResult result = true) : target = none := by
  cases outcome with
  | undispatched => rfl
  | timeout | transientError => simp [degradedResult] at sound
  | invalidData => exact absurd rfl invalid
  | fallbackFailed => exact absurd rfl failed

end Outcome

namespace RulesDecisionEngine

variable {validator : DecisionValidator} {state : SystemState} {action : Action} {target : Option Target}
  {reason : ReasonCode}

/-- What the rules decide has an encoding. -/
theorem encodable_of_decide? {engine : RulesDecisionEngine} {output : EngineOutput}
    (decides : engine.decide? state = some output) : output.encodable = true := by
  obtain ⟨decision, -, rfl⟩ := Option.map_eq_some_iff.mp decides
  exact ProposedDecision.encodable_ofTexts _ _ _

/-- The parts make a decision, and the validator approves its dump. -/
private def Approved (validator : DecisionValidator) (state : SystemState)
    (parts : Action × Option Target × ReasonCode) : Prop :=
  ∃ decision, Decision.ofParts? parts.1 parts.2.1 parts.2.2.value = some decision ∧
    validator.validate (some decision.toProposed) state false = .ok

private theorem approved_of_checks (matching : targetMatchesAction action target = true)
    (passes : ∀ check ∈ validator.checks action
      ⟨some (CodePoint.ofString action.value), target.map Target.text, some (CodePoint.ofString reason.value)⟩ state,
        check.1 = false) :
    Approved validator state (action, target, reason) := by
  refine ⟨⟨action, target, reason.value, reason.value_ne_empty, matching⟩, ?_, ?_⟩
  · rw [Decision.ofParts?, dif_pos ⟨reason.value_ne_empty, matching⟩]
  · have first : validator.firstError (some (Decision.toProposed
        ⟨action, target, reason.value, reason.value_ne_empty, matching⟩)) state = none := by
      simp only [DecisionValidator.firstError, Decision.toProposed, ProposedDecision.ofTexts, Option.map_some,
        Option.map_map, Option.bind_some, Action.ofText?_value, Option.map_eq_none_iff, List.find?_eq_none]
      exact fun check member => by simp [passes check member]
    simp [DecisionValidator.validate, first]

section Branches

variable (alive : state.task.phase.terminal = false)
include alive

private theorem abort_approved (validator : DecisionValidator) (reason : ReasonCode) :
    Approved validator state (.abort, none, reason) :=
  approved_of_checks rfl (by
    simp [DecisionValidator.checks, DecisionValidator.allowedTarget, reason.text_ne_nil, alive])

variable (early : ¬validator.taskDeadlineMs ≤ state.task.elapsedMs)
include early

private theorem wait_approved (left : state.task.waitCount < state.task.maxWaits) (reason : ReasonCode) :
    Approved validator state (.wait, none, reason) :=
  approved_of_checks rfl (by
    simpa [DecisionValidator.checks, DecisionValidator.allowedTarget, reason.text_ne_nil, alive] using
      ⟨Nat.lt_of_not_le early, left⟩)

private theorem retry_approved (primary : state.task.currentTarget = some .inventoryPrimary)
    (left : state.task.attemptNumber < state.task.maxAttempts) (reason : ReasonCode) :
    Approved validator state (.retry, state.task.currentTarget, reason) := by
  rw [primary]
  refine approved_of_checks rfl ?_
  have routes : Target.inventoryPrimary.text ≠ Target.inventoryFallback.text := by decide
  simpa [DecisionValidator.checks, DecisionValidator.allowedTarget, reason.text_ne_nil, alive, primary,
    routes] using ⟨Nat.lt_of_not_le early, left⟩

private theorem fallback_approved (available : state.alternatives.fallbackAvailable = true)
    (unused : state.alternatives.fallbackUsed = false) (reason : ReasonCode) :
    Approved validator state (.fallback, some .inventoryFallback, reason) :=
  approved_of_checks rfl (by
    simpa [DecisionValidator.checks, DecisionValidator.allowedTarget, reason.text_ne_nil, alive, available,
      unused] using Nat.lt_of_not_le early)

private theorem continue_approved (undispatched : state.task.currentTarget = none) (reason : ReasonCode) :
    Approved validator state (.continueFlow, some .inventoryPrimary, reason) :=
  approved_of_checks rfl (by
    simpa [DecisionValidator.checks, DecisionValidator.allowedTarget, reason.text_ne_nil, alive,
      undispatched] using Nat.lt_of_not_le early)

end Branches

/-- On a live state whose last result is one of its route, every rule proposes a valid decision. -/
theorem policy_approved {config : ExperimentConfig}
    (accepted : DecisionValidator.ofConfig? config = some validator)
    (alive : state.task.phase.terminal = false) (attempts : state.task.maxAttempts = config.messaging.maxAttempts)
    (waits : state.task.maxWaits = config.messaging.maxWaits)
    (outcome : Outcome state.task.currentTarget state.service.lastResult) :
    ∃ decision, (ofConfig config).policy? state = some decision ∧
      validator.validate (some decision.toProposed) state false = .ok := by
  have deadline : validator.taskDeadlineMs = config.messaging.taskDeadlineMs := by
    rw [DecisionValidator.ofConfig?] at accepted
    split_ifs at accepted
    cases accepted
    rfl
  change Approved validator state ((ofConfig config).rule state)
  simp only [rule, ofConfig, ← deadline, ← attempts, ← waits]
  split_ifs with late invalid failed unavailable left pressure left degraded left alternative early
  · exact abort_approved alive validator .taskDeadlineExceeded
  · exact abort_approved alive validator .invalidData
  · exact abort_approved alive validator .fallbackFailed
  · exact wait_approved alive late left .serviceUnavailable
  · exact abort_approved alive validator .serviceUnavailableLimit
  · exact wait_approved alive late left .queuePressure
  · exact abort_approved alive validator .queuePressureLimit
  · refine retry_approved alive late ?_ left .transientRetry
    exact outcome.primary_of_degraded degraded
  · rw [Bool.and_eq_true, Bool.not_eq_true'] at alternative
    exact fallback_approved alive late alternative.1 alternative.2 .primaryExhausted
  · exact abort_approved alive validator .attemptsExhausted
  · refine continue_approved alive late ?_ .normalFlow
    exact outcome.undispatched_of_none invalid failed degraded
  · exact abort_approved alive validator .unmappedState

end RulesDecisionEngine

/-- Every decision is the one the rules engine takes. -/
def OrdersService.rulesDecide (deployment : Deployment) (s : OrdersService) : OrdersLabel → Prop
  | .decide owner output _ _ =>
    match s.points owner with
    | .built state => (RulesDecisionEngine.ofConfig deployment.config).decide? state = some output
    | _ => True
  | _ => True

instance (deployment : Deployment) (s : OrdersService) (label : OrdersLabel) :
    Decidable (s.rulesDecide deployment label) := by
  unfold OrdersService.rulesDecide
  split
  · split <;> infer_instance
  · infer_instance

/-- The service in which the rules engine takes every decision. -/
def rulesMachine (deployment : Deployment) : Machine OrdersService OrdersLabel :=
  (ordersMachine deployment).restrict (OrdersService.rulesDecide deployment)

instance (deployment : Deployment) (s : OrdersService) (label : OrdersLabel) :
    Decidable ((rulesMachine deployment).admissible s label) :=
  inferInstanceAs (Decidable (_ ∧ _))

/-- The rules engine never proposes an invalid decision at a decision point of its own runs. -/
theorem rules_policy_approved {deployment : Deployment} {s : OrdersService}
    (reachable : (rulesMachine deployment).Reachable s) {owner : DecisionOwner} {task : TaskId}
    {seen : Observation} {state : SystemState} (opened : s.points owner = .opened task)
    (built : s.db.build deployment.config task seen = .ok state)
    (alive : state.task.phase.terminal = false) :
    ∃ decision, (RulesDecisionEngine.ofConfig deployment.config).policy? state = some decision ∧
      deployment.validator.validate (some decision.toProposed) state false = .ok := by
  have reachable := reachable.of_restrict
  obtain ⟨row, found, describes, -⟩ := OrdersDb.build_eq_ok built
  obtain ⟨file, here, rfl, -, -⟩ := file?_of_task? found
  have point : file.point = .opened task := by
    rw [(file?_eq_some_iff.mp here).2.2.2.1,
      OrdersService.pointOn_of_coherent (reachable_coherent reachable) owner (by rw [opened]; rfl),
      opened]
  have outcome := reachable_outcome reachable here
    ⟨describes.phase ▸ alive, .inr (by rw [point]; exact DecisionPoint.noConfusion)⟩
  refine RulesDecisionEngine.policy_approved deployment.accepted alive describes.maxAttempts
    describes.maxWaits ?_
  rwa [describes.target, describes.lastResult]

/-- After a timeout of the first attempt the policy proposes to retry it. -/
theorem rules_policy_approved_pilot : ∃ s seen state, (rulesMachine .pilot).Reachable s ∧
    s.points .worker = .opened 1 ∧ s.db.build Deployment.pilot.config 1 seen = .ok state ∧
    state.task.phase.terminal = false ∧
    ∃ decision, (RulesDecisionEngine.ofConfig Deployment.pilot.config).policy? state = some decision ∧
      Deployment.pilot.validator.validate (some decision.toProposed) state false = .ok := by
  obtain ⟨s, reachable, passes⟩ := Machine.exists_reachable_of_replay? (m := rulesMachine .pilot)
    (firstDispatch ++ [.consume (.timeoutCheck 1 10) false ⟨11, 2002⟩])
    (p := fun s => s.points .worker = .opened 1 &&
      (s.db.build Deployment.pilot.config 1 (.calm 2003 2)).toOption.any (!·.task.phase.terminal))
    (by decide +kernel)
  rw [Bool.and_eq_true, decide_eq_true_eq] at passes
  cases built : s.db.build Deployment.pilot.config 1 (.calm 2003 2) with
  | error error => simp [built, Except.toOption] at passes
  | ok state =>
    have alive : state.task.phase.terminal = false := by simpa [built, Except.toOption] using passes.2
    exact ⟨s, _, state, reachable, passes.1, built, alive,
      rules_policy_approved reachable passes.1 built alive⟩

end OrchLab
