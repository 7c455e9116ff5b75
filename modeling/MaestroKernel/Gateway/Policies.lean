import MaestroKernel.Gateway.Qualification

/-! # Policies

The contexts of operations, the gates of the governance genome, and the decision of the policy
engine. -/

namespace MaestroKernel.Gateway

/-! ## Contexts -/

structure GovernanceRequestContext where
  requiredScopes : List String := []
  requireFactualEvidence : Bool := false
  requireExecutionEvidence : Bool := false
  requireTaskSufficiency : Bool := false

structure OperationGovernancePolicy extends GovernanceRequestContext where
  operationId : String
  requireRuntimeAttestation : Bool := false

def operationPolicies : List OperationGovernancePolicy := [
  { operationId := "response.evaluate" },
  { operationId := "workflow.create"
    requiredScopes := ["workflow:create"]
    requireTaskSufficiency := true },
  { operationId := "workflow.checkpoint"
    requiredScopes := ["workflow:checkpoint"]
    requireExecutionEvidence := true
    requireRuntimeAttestation := true },
  { operationId := "api_key.issue"
    requiredScopes := ["api_key:issue"]
    requireExecutionEvidence := true
    requireRuntimeAttestation := true },
  { operationId := "api_key.revoke"
    requiredScopes := ["api_key:revoke"]
    requireExecutionEvidence := true
    requireRuntimeAttestation := true },
  { operationId := "sandbox.activate"
    requiredScopes := ["sandbox:activate"]
    requireFactualEvidence := true
    requireExecutionEvidence := true
    requireTaskSufficiency := true
    requireRuntimeAttestation := true },
  { operationId := "integration.external_execute"
    requiredScopes := ["integration:execute"]
    requireExecutionEvidence := true
    requireTaskSufficiency := true
    requireRuntimeAttestation := true },
  { operationId := "evaluation.external_access" },
  { operationId := "evaluation.runtime.task_execute"
    requiredScopes := ["run:evaluation"]
    requireExecutionEvidence := true
    requireRuntimeAttestation := true },
  { operationId := "admin.agent_state_change"
    requiredScopes := ["admin:agent_state"]
    requireExecutionEvidence := true
    requireRuntimeAttestation := true }]

def getOperationPolicy (operationId : String) : Option OperationGovernancePolicy :=
  operationPolicies.find? fun policy => policy.operationId = operationId

def mergeGovernanceContexts (base stricter : GovernanceRequestContext) :
    GovernanceRequestContext where
  requiredScopes := sortedSet (base.requiredScopes ++ stricter.requiredScopes)
  requireFactualEvidence := base.requireFactualEvidence || stricter.requireFactualEvidence
  requireExecutionEvidence := base.requireExecutionEvidence || stricter.requireExecutionEvidence
  requireTaskSufficiency := base.requireTaskSufficiency || stricter.requireTaskSufficiency

theorem mem_sortedSet {issues : List String} {issue : String} :
    issue ∈ sortedSet issues ↔ issue ∈ issues := by
  rw [sortedSet, List.mem_insertionSort, List.mem_dedup]

@[simp] theorem mem_merge_requiredScopes {base stricter : GovernanceRequestContext}
    {scope : String} : scope ∈ (mergeGovernanceContexts base stricter).requiredScopes ↔
      scope ∈ base.requiredScopes ∨ scope ∈ stricter.requiredScopes := by
  rw [mergeGovernanceContexts, mem_sortedSet, List.mem_append]

inductive GovernanceGate where
  | constitutiveConstraint
  | authorization
  | evidence

def GovernanceGate.value : GovernanceGate → String
  | .constitutiveConstraint => "constitutive_constraint"
  | .authorization => "authorization"
  | .evidence => "evidence"

def consecutiveFailureEscalationLimit : ℕ := 3

/-- `first_failed_gate`; every threshold is one. -/
def firstFailedGate (signals : Signals) : Option GovernanceGate :=
  if 1 ≤ signals.get "constraint_failure" 0 then some .constitutiveConstraint
  else if 1 ≤ signals.get "authorization_failure" 0 then some .authorization
  else if 1 ≤ signals.get "missing_required_evidence" 0 then some .evidence
  else none

def GovernanceGate.label : GovernanceGate → String × String
  | .constitutiveConstraint =>
    ("Constitutive Constraint - Fail Closed",
      "A constitutive governance constraint was violated.")
  | .authorization =>
    ("Authorization Boundary - Fail Closed", "Required authorization was not established.")
  | .evidence => ("Evidence Gate - Fail Closed", "Required governance evidence is missing.")

/-! ## Decisions -/

structure GatewayDecision (Q : Type) where
  action : GatewayAction
  rank : String
  reward : ℚ
  policy : String
  policyLabel : String
  fateVector : Signals
  repairPrompt : Option String
  agentState : AgentState
  message : String
  signature : Option String := none
  governanceGate : Option String := none
  lifecycleRecommendation : Option String := none
  qualification : Option Q := none

/-- What `govern_answer` gives for a response, next to the scores of `analyze_cgt`. -/
structure Analysis where
  scores : Signals
  fateVector : Signals
  rank : String
  reward : ℚ
  policy : String
  repairPrompt : Option String

variable {Q : Type}

def Analysis.decision (a : Analysis) (action : GatewayAction) (policyLabel : String)
    (repairPrompt : Option String) (agentState : AgentState) (message : String) :
    GatewayDecision Q where
  action := action
  rank := a.rank
  reward := a.reward
  policy := a.policy
  policyLabel := policyLabel
  fateVector := a.fateVector
  repairPrompt := repairPrompt
  agentState := agentState
  message := message

def rankDecision (a : Analysis) : GatewayDecision Q :=
  if a.rank = "extinct" then
    a.decision .block "Extinct - Reject & Regenerate" none .active
      "Response rejected: fails to carry meaning."
  else if a.rank = "distorted" then
    a.decision .block "Distorted - Restructure" a.repairPrompt .active
      "Response structurally distorted. Blocked. Repair prompt generated."
  else if a.rank = "hybrid" then
    a.decision .repair "Hybrid - Repair & Scaffold" a.repairPrompt .active
      "Response has useful core but incomplete. Repair prompt sent to agent."
  else if a.rank = "transient" then
    a.decision .repair "Transient - Deepen or Clarify" a.repairPrompt .active
      "Response is superficial. Deepen prompt sent to agent."
  else
    a.decision .pass
      (if a.rank = "flourishing" then "Flourishing - Accept & Expand" else "Stable - Accept")
      none .active "Response approved. Agent performing well."

/-- The signal of a hallucination, from the fate vector where the signals lack it. -/
def hallucination (a : Analysis) (signals : Signals) : ℚ :=
  signals.get "hallucination" (a.fateVector.get "hallucination" 0)

def escalation (a : Analysis) (agentId : String) (failures : ℕ) : GatewayDecision Q :=
  a.decision .escalate "Escalated - Human Review Required" a.repairPrompt .escalated
    ("Agent " ++ agentId ++ " has " ++ toString failures ++ " consecutive failures. Escalated.")

def decide (agentId : String) (failures : ℕ) (a : Analysis) (signals : Signals) :
    GatewayDecision Q :=
  match firstFailedGate signals with
  | some gate =>
    { (a.decision .block gate.label.1 none .active gate.label.2 : GatewayDecision Q) with
      governanceGate := some gate.value }
  | none =>
    if a.rank = "extinct" ∧ 3 / 10 ≤ hallucination a signals then
      a.decision .block "Extinct - Reject & Regenerate" none .frozen
        "Critical failure: agent hallucinating. Frozen for review."
    else if consecutiveFailureEscalationLimit ≤ failures ∧
        (rankDecision a : GatewayDecision Q).action ≠ .escalate then
      escalation a agentId failures
    else rankDecision a

/-! ## What a decision depends on -/

/-- A response is let through, as it is or for repair. -/
def GatewayAction.Mild (action : GatewayAction) : Prop := action.fails = false

instance (action : GatewayAction) : Decidable action.Mild :=
  inferInstanceAs (Decidable (action.fails = false))

theorem rankDecision_action (a : Analysis) :
    (rankDecision a : GatewayDecision Q).action.fails =
        (a.rank = "extinct" || a.rank = "distorted") ∧
      (rankDecision a : GatewayDecision Q).action ≠ .escalate ∧
      (rankDecision a : GatewayDecision Q).agentState = .active := by
  unfold rankDecision
  split
  · rename_i h
    simp [Analysis.decision, GatewayAction.fails, h]
  · rename_i hextinct
    split
    · rename_i h
      simp [Analysis.decision, GatewayAction.fails, h]
    · rename_i hdistorted
      split
      · simp [Analysis.decision, GatewayAction.fails, hextinct, hdistorted]
      · split
        · simp [Analysis.decision, GatewayAction.fails, hextinct, hdistorted]
        · simp [Analysis.decision, GatewayAction.fails, hextinct, hdistorted]

/-- A response is let through exactly where every gate passes, the rank carries it, and the agent has
not failed too often. -/
theorem decide_mild_iff {agentId : String} {failures : ℕ} {a : Analysis} {signals : Signals} :
    (decide agentId failures a signals : GatewayDecision Q).action.Mild ↔
      firstFailedGate signals = none ∧ a.rank ≠ "extinct" ∧ a.rank ≠ "distorted" ∧
        failures < 3 := by
  unfold decide
  split
  · rename_i gate hgate
    simp [GatewayAction.Mild, Analysis.decision, GatewayAction.fails, hgate]
  · rename_i hgate
    rw [hgate]
    split
    · rename_i h
      simp [GatewayAction.Mild, Analysis.decision, GatewayAction.fails, h.1]
    · split
      · rename_i h
        simp only [consecutiveFailureEscalationLimit] at h
        simp [GatewayAction.Mild, escalation, Analysis.decision, GatewayAction.fails]
        omega
      · rename_i h
        rw [and_iff_left (rankDecision_action a).2.1, consecutiveFailureEscalationLimit,
          not_le] at h
        simp [GatewayAction.Mild, (rankDecision_action a).1, h]

theorem decide_agentState {agentId : String} {failures : ℕ} {a : Analysis} {signals : Signals} :
    (decide agentId failures a signals : GatewayDecision Q).agentState =
      if firstFailedGate signals ≠ none then .active
      else if a.rank = "extinct" ∧ 3 / 10 ≤ hallucination a signals then .frozen
      else if 3 ≤ failures then .escalated
      else .active := by
  unfold decide
  split
  · rename_i gate hgate
    rw [hgate]
    rfl
  · rename_i hgate
    rw [hgate, if_neg (not_not.mpr rfl)]
    split
    · rfl
    · simp only [and_iff_left (rankDecision_action a).2.1, consecutiveFailureEscalationLimit]
      split
      · rfl
      · exact (rankDecision_action a).2.2

end MaestroKernel.Gateway
