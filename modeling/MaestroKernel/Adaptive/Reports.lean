import MaestroKernel.Adaptive.Types
import MaestroKernel.Workflow.Conduct

/-! # Checkpoint reports

What `CheckpointScheduler.build_report` reads off the kernel and a workflow. -/

namespace MaestroKernel.Adaptive

open Workflow

variable {W F : Type} [Number F]

structure WorkflowStatus (F : Type) where
  workflowState : WorkflowState
  workflowPsi : F
  workflowTrend : F
  completionProgress : F
  failedSteps : ℕ
  runningSteps : ℕ
  stepCount : ℕ

structure AgentFinding (F : Type) where
  state : AgentState
  psi : F
  trend : F
  failureStreak : ℤ
  status : String

structure HandoffFinding (F : Type) where
  state : AgentState
  psi : F
  trend : F
  observations : ℕ
  status : String

structure CheckpointReport (F : Type) where
  workflowId : String
  kind : CheckpointKind
  checkpointNumber : ℕ
  policyName : PolicyName
  policyVersion : String
  workflowStatus : WorkflowStatus F
  agentFindings : List (String × AgentFinding F)
  handoffFindings : List (String × HandoffFinding F)
  risks : List String
  recommendedAction : MaestroAction
  confidence : F
  createdAt : ℚ

def workflowStatus (workflow : WorkflowRecord F) : WorkflowStatus F where
  workflowState := workflow.state
  workflowPsi := workflow.psi
  workflowTrend := workflow.psi - workflow.previousPsi
  completionProgress :=
    (((workflow.inState .completed).length : ℤ) : F) / ((max 1 workflow.steps.length : ℕ) : ℤ)
  failedSteps := (workflow.inState .failed).length
  runningSteps := (workflow.inState .running).length
  stepCount := workflow.steps.length

def assignedAgents (workflow : WorkflowRecord F) : List String :=
  (workflow.steps.filterMap fun s => s.assignedAgentId.filter fun agentId => agentId ≠ "").dedup

def agentFinding (record : AgentRecord F) : AgentFinding F :=
  let trend := record.psi - record.previousPsi
  { state := record.state
    psi := record.psi
    trend
    failureStreak := record.failureStreak
    status :=
      if record.state = .transitional ∨ record.state = .quarantined ∨ trend < -0.05 then "degraded"
      else "stable" }

/-- `_agent_findings`: the agents in the order of their ids, without those that are unknown. -/
def agentFindings (kernel : Kernel W F) (workflow : WorkflowRecord F) :
    List (String × AgentFinding F) :=
  ((assignedAgents workflow).mergeSort fun a b => decide (a ≤ b)).filterMap fun agentId =>
    match kernel.getAgent agentId with
    | .ok record => some (agentId, agentFinding record)
    | .error _ => none

def handoffFinding (record : HandoffRecord F) : HandoffFinding F where
  state := record.state
  psi := record.psi
  trend := record.psi - record.previousPsi
  observations := record.observations
  status :=
    if record.state = .transitional ∨ record.state = .quarantined ∨ record.psi < 0.0 then "weak"
    else "stable"

def handoffFindings (kernel : Kernel W F) (workflow : WorkflowRecord F) :
    List (String × HandoffFinding F) :=
  (kernel.handoffs.filter fun entry => entry.2.sourceAgentId ∈ assignedAgents workflow ∨
    entry.2.targetAgentId ∈ assignedAgents workflow).map fun entry =>
      (entry.1, handoffFinding entry.2)

/-- The risk that the given items make, if there are any. -/
def listedRisk (label : String) (items : List String) : List String :=
  if items = [] then [] else [label ++ ":" ++ ",".intercalate items]

/-- `_risks` -/
def checkpointRisks (workflow : WorkflowRecord F) (agents : List (String × AgentFinding F))
    (handoffs : List (String × HandoffFinding F)) (profile : TaskProfile) : List String :=
  let named {A : Type} (status : A → String) (s : String) (findings : List (String × A)) :=
    (findings.filter fun entry => status entry.2 = s).map Prod.fst
  listedRisk "failed_steps" ((workflow.inState .failed).map fun s => s.step.stepId) ++
  listedRisk "degraded_agents" (named AgentFinding.status "degraded" agents) ++
  listedRisk "weak_handoffs" (named HandoffFinding.status "weak" handoffs) ++
  (if profile.risk = .high ∨ profile.risk = .critical then ["profile_risk:" ++ profile.risk.value]
    else []) ++
  match workflow.state with
  | .degraded => ["workflow_state:degraded"]
  | .escalated => ["workflow_state:escalated"]
  | .failed => ["workflow_state:failed"]
  | _ => []

def recommendedAction (workflow : WorkflowRecord F) (risks : List String) (profile : TaskProfile) :
    MaestroAction :=
  if profile.risk = .critical ∧ risks ≠ [] then .escalate
  else if risks.any fun r => "failed_steps".isPrefixOf r || "weak_handoffs".isPrefixOf r then .reroute
  else if workflow.state = .completed then .finalize
  else if workflow.state = .paused then .pause
  else .observe

/-- `_confidence` -/
def checkpointConfidence (status : WorkflowStatus F) (risks : List String) : F :=
  let base : F := 0.85 + pyMin 0.10 (status.completionProgress * 0.10)
  let base := base - pyMin 0.45 (0.08 * (((risks.length : ℕ) : ℤ) : F))
  Number.round4 (pyMax 0.0 (pyMin 1.0 base))

/-- `build_report`, for the checkpoint of a given number. -/
def buildReport (kernel : Kernel W F) (workflow : WorkflowRecord F) (profile : TaskProfile)
    (policy : PolicyProfile F) (kind : CheckpointKind) (checkpointNumber : ℕ) (now : ℚ) :
    CheckpointReport F :=
  let status := workflowStatus workflow
  let agents := agentFindings kernel workflow
  let handoffs := handoffFindings kernel workflow
  let risks := checkpointRisks workflow agents handoffs profile
  { workflowId := workflow.plan.workflowId
    kind
    checkpointNumber
    policyName := policy.name
    policyVersion := policy.policyVersion
    workflowStatus := status
    agentFindings := agents
    handoffFindings := handoffs
    risks
    recommendedAction := recommendedAction workflow risks profile
    confidence := checkpointConfidence status risks
    createdAt := now }

end MaestroKernel.Adaptive
