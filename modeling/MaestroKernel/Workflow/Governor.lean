import MaestroKernel.Workflow.Vitality
import MaestroKernel.Durable.Value

/-! # The records of the kernel and the lifecycle governor -/

namespace MaestroKernel.Workflow

/-! ## Records -/

inductive AgentState where
  | active | transitional | archived | quarantined
deriving DecidableEq

inductive AgentCriticality where
  | low | medium | high | critical
deriving DecidableEq

inductive WorkflowState where
  | draft | running | paused | degraded | completed | failed | escalated
deriving DecidableEq

inductive StepState where
  | pending | running | completed | failed | skipped
deriving DecidableEq

inductive MaestroAction where
  | delegate | handoff | parallelize | retry | reroute | merge | pause | quarantine
  | archive | reactivate | escalate | finalize | observe
deriving DecidableEq

structure AgentSpec where
  agentId : String
  role : String
  version : String := "0.2.0"
  capabilities : List String := []
  criticality : AgentCriticality := .medium
  metadata : PyVal := .dict []

structure AgentRecord (F : Type) [Number F] where
  spec : AgentSpec
  state : AgentState := .active
  psi : F := 0.0
  previousPsi : F := 0.0
  lastCoefficients : Option (Coefficients F) := none
  failureStreak : ℤ := 0
  observations : ℕ := 0

structure HandoffRecord (F : Type) [Number F] where
  sourceAgentId : String
  targetAgentId : String
  state : AgentState := .active
  psi : F := 0.0
  previousPsi : F := 0.0
  lastCoefficients : Option (Coefficients F) := none
  observations : ℕ := 0

structure WorkflowStep where
  stepId : String
  capability : String
  instruction : String
  dependsOn : List String := []
  preferredAgentId : Option String := none
  maxRetries : ℤ := 1
  metadata : PyVal := .dict []

structure WorkflowPlan (F : Type) [Number F] where
  workflowId : String
  goal : String
  steps : List WorkflowStep
  priority : F := 0.5

structure StepRecord where
  step : WorkflowStep
  state : StepState := .pending
  assignedAgentId : Option String := none
  attempts : ℕ := 0
  output : PyVal := .none
  error : Option String := none

/-- The keys of `steps` are the ids of the steps. -/
structure WorkflowRecord (F : Type) [Number F] where
  plan : WorkflowPlan F
  state : WorkflowState := .draft
  psi : F := 0.0
  previousPsi : F := 0.0
  lastCoefficients : Option (Coefficients F) := none
  steps : List StepRecord := []

structure KernelPolicy (F : Type) [Number F] where
  policyVersion : String := "core-0.3.0"
  dt : F := 1.0
  alpha : F := 0.05
  activeMinPsi : F := 0.20
  archiveMaxPsi : F := -0.10
  reactivationNeed : F := 0.72
  minRetention : F := 0.12
  maxTransitionChannel : F := 0.78
  minAftermathBalance : F := -0.05
  quarantinePolicyRisk : F := 0.85
  criticalRequiresReview : Bool := true
  maxFailureStreak : ℤ := 3
  minEdgePsi : F := -0.04
  minWorkflowPsi : F := -0.02
  maxStepAttempts : ℤ := 2
  preferHighPsiAgents : Bool := true

structure GovernanceDecision (F : Type) where
  agentId : String
  previousState : AgentState
  newState : AgentState
  psi : F
  dpsi : F
  coefficients : Coefficients F
  reason : String
  cgt : Report F
  requiresHumanReview : Bool
  confidence : F
  policyVersion : String

structure EdgeDecision (F : Type) where
  edgeId : String
  sourceAgentId : String
  targetAgentId : String
  previousState : AgentState
  newState : AgentState
  psi : F
  dpsi : F
  coefficients : Coefficients F
  reason : String
  cgt : Report F
  action : MaestroAction
  confidence : F
  policyVersion : String

structure WorkflowDecision (F : Type) where
  workflowId : String
  previousState : WorkflowState
  newState : WorkflowState
  psi : F
  dpsi : F
  coefficients : Coefficients F
  reason : String
  action : MaestroAction
  cgt : Report F
  requiresHumanReview : Bool
  confidence : F
  policyVersion : String

/-- How often a failed step may be started: `min(max_retries, max_step_attempts)`. -/
def attemptLimit {F : Type} [Number F] (p : KernelPolicy F) (step : WorkflowStep) : ℤ :=
  min step.maxRetries p.maxStepAttempts

/-! ## `LifecycleGovernor` -/

variable {F : Type} [Number F]

/-- `LifecycleGovernor._clamp` -/
def clampUnit (value : F) (lo : F := 0.0) (hi : F := 1.0) : F := pyMax lo (pyMin hi value)

def confidence (coeff : Coefficients F) (report : Report F) : F :=
  let structuralStrength :=
    (report.retention + report.compatibility + (1.0 - report.transitionChannel)) / 3.0
  let riskPenalty := pyMax coeff.C coeff.M * 0.25
  let fateAdjustment :=
    match report.fateVector with
    | none => 0.0
    | some fate => 0.12 * fate.stability + 0.10 * fate.flourishing - 0.10 * fate.distortion -
        0.14 * fate.extinction
  Number.round4 (clampUnit (structuralStrength + fateAdjustment - riskPenalty))

/-- The branches of `decide`: the new state, the reason and whether a human reviews it. -/
def judgeAgent (p : KernelPolicy F) (record : AgentRecord F) (coeff : Coefficients F) (dpsi : F)
    (report : Report F) : AgentState × String × Bool :=
  let critical : Bool := record.spec.criticality = .critical
  let guarded : Bool := record.spec.criticality = .high || critical
  let rank := report.existenceRank
  if p.quarantinePolicyRisk ≤ coeff.M ∨ p.quarantinePolicyRisk ≤ coeff.C then
    (.quarantined, "high policy/mortality risk", true)
  else if record.state = .archived then
    if p.reactivationNeed ≤ coeff.N ∧ 0.55 ≤ report.compatibility ∧
        p.minAftermathBalance ≤ report.aftermathBalance then
      (.transitional, "reactivation candidate: demand recovered", critical)
    else (.archived, "archived: demand or compatibility insufficient", false)
  else if critical ∧ p.criticalRequiresReview ∧
      (dpsi < -p.alpha ∨ p.maxTransitionChannel ≤ report.transitionChannel ∨
        report.aftermathBalance < p.minAftermathBalance) then
    (.transitional, "critical agent degraded: human review required", true)
  else if ¬ critical ∧ rank = some .extinct then
    (.archived, "CGT existence rank extinct: no viable carrier/effect", false)
  else if rank = some .distorted ∧ dpsi < (0 : ℤ) then
    (.transitional, "CGT distorted rank: repair or simplify before reuse", guarded)
  else if p.maxFailureStreak ≤ record.failureStreak then
    (.transitional, "failure streak exceeded", guarded)
  else if critical ∧ record.psi ≤ p.archiveMaxPsi then
    (.transitional, "critical agent low Ψ: human review required before archive", true)
  else if ¬ critical ∧ record.psi ≤ p.archiveMaxPsi ∧ report.retention < p.minRetention ∧
      report.aftermathBalance < p.minAftermathBalance then
    (.archived, "low Ψ with weak retention and negative aftermath", false)
  else if dpsi < -p.alpha ∨ p.maxTransitionChannel ≤ report.transitionChannel then
    (.transitional, "autophagic trigger: Ψ is decaying or transition channel is high", false)
  else if p.activeMinPsi ≤ record.psi ∧ p.minRetention ≤ report.retention then
    (.active, "healthy Ψ and acceptable retention", false)
  else (record.state, "hysteresis: no safe state change", false)

/-- `decide` -/
def decideAgent (p : KernelPolicy F) (record : AgentRecord F) (coeff : Coefficients F) (dpsi : F)
    (report : Report F) : GovernanceDecision F :=
  let (newState, reason, review) := judgeAgent p record coeff dpsi report
  { agentId := record.spec.agentId
    previousState := record.state
    newState
    psi := record.psi
    dpsi
    coefficients := coeff
    reason
    cgt := report
    requiresHumanReview := review
    confidence := confidence coeff report
    policyVersion := p.policyVersion }

/-- The branches of `decide_edge` -/
def judgeEdge (p : KernelPolicy F) (record : HandoffRecord F) (coeff : Coefficients F) (dpsi : F)
    (report : Report F) : AgentState × String × MaestroAction :=
  let rank := report.existenceRank
  if p.quarantinePolicyRisk ≤ coeff.C ∨ p.quarantinePolicyRisk ≤ coeff.M then
    (.quarantined, "handoff quarantined: high ambiguity/risk/rework", .quarantine)
  else if rank = some .extinct then
    (.archived, "handoff extinct: no viable carrier/effect", .reroute)
  else if rank = some .distorted ∧ dpsi < (0 : ℤ) then
    (.transitional, "handoff distorted: add mediator or simplify schema", .reroute)
  else if record.psi ≤ p.archiveMaxPsi ∧ report.aftermathBalance < p.minAftermathBalance then
    (.archived, "handoff archived: structurally harmful edge", .reroute)
  else if dpsi < -p.alpha ∨ p.maxTransitionChannel ≤ report.transitionChannel ∨
      record.psi < p.minEdgePsi then
    (.transitional, "handoff degraded: add mediator or reroute", .reroute)
  else if p.minRetention ≤ report.retention ∧ 0.55 ≤ report.compatibility then
    (.active, "handoff healthy", .handoff)
  else (record.state, "handoff hysteresis: keep observing", .observe)

def edgeId (sourceAgentId targetAgentId : String) : String :=
  sourceAgentId ++ "->" ++ targetAgentId

def decideEdge (p : KernelPolicy F) (record : HandoffRecord F) (coeff : Coefficients F) (dpsi : F)
    (report : Report F) : EdgeDecision F :=
  let (newState, reason, action) := judgeEdge p record coeff dpsi report
  { edgeId := edgeId record.sourceAgentId record.targetAgentId
    sourceAgentId := record.sourceAgentId
    targetAgentId := record.targetAgentId
    previousState := record.state
    newState
    psi := record.psi
    dpsi
    coefficients := coeff
    reason
    cgt := report
    action
    confidence := confidence coeff report
    policyVersion := p.policyVersion }

def WorkflowRecord.inState (record : WorkflowRecord F) (state : StepState) : List StepRecord :=
  record.steps.filter fun s => s.state = state

/-- The branches of `decide_workflow` -/
def judgeWorkflow (p : KernelPolicy F) (record : WorkflowRecord F) (coeff : Coefficients F)
    (dpsi : F) (report : Report F) : WorkflowState × String × MaestroAction × Bool :=
  let failed := record.inState .failed
  let pending := record.inState .pending
  let running := record.inState .running
  let completed := record.inState .completed
  let rank := report.existenceRank
  if p.quarantinePolicyRisk ≤ coeff.M ∨ p.quarantinePolicyRisk ≤ coeff.C then
    (.escalated, "workflow risk too high: human review required", .escalate, true)
  else if completed.length = record.steps.length ∧ record.steps ≠ [] then
    (.completed, "all workflow steps completed", .finalize, false)
  else if rank = some .extinct ∧ record.steps ≠ [] then
    (.degraded, "workflow extinct: no viable carrier/effect", .reroute, false)
  else if rank = some .distorted ∧ dpsi < (0 : ℤ) then
    (.degraded, "workflow distorted: reduce complexity before continuation", .reroute, false)
  else if failed ≠ [] ∧ failed.all fun s => attemptLimit p s.step ≤ s.attempts then
    (.degraded, "workflow degraded: failed steps exhausted retries", .reroute, false)
  else if dpsi < -p.alpha ∨ record.psi < p.minWorkflowPsi ∨
      p.maxTransitionChannel ≤ report.transitionChannel then
    (.degraded, "workflow vitality decaying: reroute or parallelize", .reroute, false)
  else if pending ≠ [] ∨ running ≠ [] then
    (.running, "workflow in progress", .delegate, false)
  else (.paused, "no executable work found", .pause, false)

def decideWorkflow (p : KernelPolicy F) (record : WorkflowRecord F) (coeff : Coefficients F)
    (dpsi : F) (report : Report F) : WorkflowDecision F :=
  let (newState, reason, action, review) := judgeWorkflow p record coeff dpsi report
  { workflowId := record.plan.workflowId
    previousState := record.state
    newState
    psi := record.psi
    dpsi
    coefficients := coeff
    reason
    action
    cgt := report
    requiresHumanReview := review
    confidence := confidence coeff report
    policyVersion := p.policyVersion }

theorem decideWorkflow_ne_failed (p : KernelPolicy F) (record : WorkflowRecord F)
    (coeff : Coefficients F) (dpsi : F) (report : Report F) :
    (decideWorkflow p record coeff dpsi report).newState ≠ .failed := by
  change (judgeWorkflow p record coeff dpsi report).1 ≠ .failed
  unfold judgeWorkflow
  dsimp only
  repeat' split
  all_goals simp

end MaestroKernel.Workflow
