import MaestroKernel.Adaptive.Types

/-! # Quality gates, invariants and operating contracts

The read-only checks that an adaptive action passes before it is authorised. -/

namespace MaestroKernel.Adaptive

open Workflow

variable {F : Type} [Number F]

/-- A text that is given under a condition. -/
def note (p : Prop) [Decidable p] (text : String) : List String := if p then [text] else []

structure MetricsSnapshot (F : Type) where
  handoffFailureRate : F
  falseRetryRate : F
  falseRerouteRate : F
  agentBloatRatio : F
  checkpointDetectionAccuracy : F
  policyPatchSuccessRate : F
  outcomeCoverageRatio : F

/-! ## The quality gate -/

structure AdaptiveQualityGate (F : Type) [Number F] where
  minOutcomeCoverage : F := 0.95
  minPatchSuccessRate : F := 0.80
  maxFalseRetryRate : F := 0.25
  maxFalseRerouteRate : F := 0.25
  maxHandoffFailureRate : F := 0.35
  maxAgentBloatRatio : F := 0.35
  minCheckpointAccuracy : F := 0.70

structure AdaptiveQualityGateReport (F : Type) where
  workflowId : String
  runtimeMode : RuntimeMode
  passed : Bool
  violations : List String
  warnings : List String
  eligibleNextMode : Option RuntimeMode
  metrics : MetricsSnapshot F
  pendingOutcomeCount : ℕ
  pendingApprovalCount : ℕ

def AdaptiveQualityGate.evaluate (gate : AdaptiveQualityGate F) (fmt : Formatting F)
    (workflowId : String) (metrics : MetricsSnapshot F) (runtimeMode : RuntimeMode)
    (pendingOutcomeCount pendingApprovalCount : ℕ) (critical : Bool) :
    AdaptiveQualityGateReport F :=
  let below (value limit : F) (name : String) :=
    note (value < limit) (name ++ " " ++ fmt.fixed2 value ++ " below " ++ fmt.fixed2 limit)
  let above (value limit : F) (name : String) :=
    note (limit < value) (name ++ " " ++ fmt.fixed2 value ++ " is too high")
  let violations :=
    below metrics.outcomeCoverageRatio gate.minOutcomeCoverage "outcome coverage" ++
    note (pendingApprovalCount ≠ 0)
      (toString pendingApprovalCount ++ " human approval requests are still pending") ++
    below metrics.policyPatchSuccessRate gate.minPatchSuccessRate "policy patch success rate" ++
    above metrics.falseRetryRate gate.maxFalseRetryRate "false retry rate" ++
    above metrics.falseRerouteRate gate.maxFalseRerouteRate "false reroute rate" ++
    above metrics.handoffFailureRate gate.maxHandoffFailureRate "handoff failure rate" ++
    above metrics.agentBloatRatio gate.maxAgentBloatRatio "agent bloat ratio" ++
    below metrics.checkpointDetectionAccuracy gate.minCheckpointAccuracy
      "checkpoint detection accuracy" ++
    note (critical = true) "critical workflows cannot be promoted to automatic adaptive mode"
  { workflowId
    runtimeMode
    passed := violations.isEmpty
    violations
    warnings := note (pendingOutcomeCount ≠ 0)
      (toString pendingOutcomeCount ++ " important decisions still need outcomes")
    eligibleNextMode :=
      if violations.isEmpty then
        match runtimeMode with
        | .observe => some .recommend
        | .recommend => some .controlledAdaptive
        | .controlledAdaptive => some .controlledAdaptive
        | .restrictedCritical => none
      else none
    metrics
    pendingOutcomeCount
    pendingApprovalCount }

def riskyAutoActions : List MaestroAction := [.archive, .quarantine, .reactivate, .reroute]

def TaskProfile.atRisk (profile : TaskProfile) : Bool :=
  profile.risk = .high || profile.risk = .critical

def requiresHumanGate (profile : TaskProfile) (policy : PolicyProfile F)
    (action : Option MaestroAction) : Bool :=
  profile.atRisk || policy.runtimeMode = .restrictedCritical || policy.humanGateRequired ||
    action.any fun a => a ∈ riskyAutoActions

structure RuntimeInvariantReport where
  workflowId : String
  passed : Bool
  violations : List String

def runtimeInvariantReport (workflowId : String) (profile : TaskProfile) (policy : PolicyProfile F)
    (autoApplyRequested : Bool) : RuntimeInvariantReport :=
  let violations :=
    note (profile.atRisk = true ∧ requiresHumanGate profile policy none = false)
      "high/critical workflow is not protected by a human gate" ++
    note (profile.risk = .critical ∧ policy.runtimeMode ≠ .restrictedCritical)
      "critical workflow must use restricted critical runtime mode" ++
    note (autoApplyRequested = true ∧
        (policy.runtimeMode = .observe ∨ policy.runtimeMode = .restrictedCritical))
      "auto-apply requested under observe/restricted policy" ++
    note (autoApplyRequested = true ∧ requiresHumanGate profile policy none = true)
      "auto-apply requested while a human gate is required"
  { workflowId
    passed := violations.isEmpty
    violations }

/-! ## Operating contracts -/

structure OperatingContract (F : Type) where
  workflowId : String
  runtimeMode : RuntimeMode
  policyName : PolicyName
  policyVersion : String
  allowedActions : List MaestroAction
  humanGateActions : List MaestroAction
  auditRequired : Bool
  minOutcomeCoverage : F
  maxPendingOutcomes : ℕ
  maxPendingApprovals : ℕ
  criticalModeLocked : Bool

structure OperatingContractValidation (F : Type) where
  workflowId : String
  contract : OperatingContract F
  passed : Bool
  violations : List String
  warnings : List String

def buildContract (workflowId : String) (profile : TaskProfile) (policy : PolicyProfile F) :
    OperatingContract F where
  workflowId
  runtimeMode := policy.runtimeMode
  policyName := policy.name
  policyVersion := policy.policyVersion
  allowedActions := maestroActions.filter fun a => a ≠ .archive || profile.risk ≠ .critical
  humanGateActions :=
    [.archive, .quarantine, .reactivate, .reroute] ++
      if profile.atRisk || policy.humanGateRequired then [.escalate, .pause] else []
  auditRequired := profile.requiresAudit
  minOutcomeCoverage := if profile.risk = .critical then 0.98 else 0.95
  maxPendingOutcomes := 0
  maxPendingApprovals := 0
  criticalModeLocked := profile.risk = .critical

/-- The violations that the requested action has no part in, but for whether it is to be
executed. -/
def contractViolations (fmt : Formatting F) (contract : OperatingContract F)
    (qualityGate : AdaptiveQualityGateReport F) (runtimeInvariants : RuntimeInvariantReport)
    (pendingOutcomeCount pendingApprovalCount : ℕ) (autoApplyRequested : Bool) : List String :=
  note (qualityGate.metrics.outcomeCoverageRatio < contract.minOutcomeCoverage)
    ("outcome coverage " ++ fmt.fixed2 qualityGate.metrics.outcomeCoverageRatio ++
      " below contract minimum " ++ fmt.fixed2 contract.minOutcomeCoverage) ++
  note (qualityGate.passed = false ∧ autoApplyRequested = true)
    "auto-apply requested while quality gate has not passed" ++
  (if runtimeInvariants.passed then []
    else runtimeInvariants.violations.map fun item => "runtime invariant: " ++ item) ++
  note (contract.maxPendingOutcomes < pendingOutcomeCount)
    (toString pendingOutcomeCount ++ " pending outcomes exceed contract limit " ++
      toString contract.maxPendingOutcomes) ++
  note (contract.maxPendingApprovals < pendingApprovalCount)
    (toString pendingApprovalCount ++ " pending approvals exceed contract limit " ++
      toString contract.maxPendingApprovals)

def humanApprovalViolation (action : MaestroAction) : String :=
  "action " ++ actionValue action ++ " requires human approval"

/-- `validate`, without a requested patch. -/
def validate (fmt : Formatting F) (contract : OperatingContract F)
    (qualityGate : AdaptiveQualityGateReport F) (runtimeInvariants : RuntimeInvariantReport)
    (pendingOutcomeCount pendingApprovalCount : ℕ) (requestedAction : MaestroAction)
    (autoApplyRequested : Bool) : OperatingContractValidation F :=
  let violations :=
    contractViolations fmt contract qualityGate runtimeInvariants pendingOutcomeCount
      pendingApprovalCount autoApplyRequested ++
    note (requestedAction ∉ contract.allowedActions)
      ("action " ++ actionValue requestedAction ++ " is not allowed by operating contract") ++
    note (autoApplyRequested = true ∧ requestedAction ∈ contract.humanGateActions)
      (humanApprovalViolation requestedAction) ++
    note (contract.criticalModeLocked = true ∧ contract.runtimeMode ≠ .restrictedCritical)
      "critical workflow contract must remain in restricted critical runtime mode"
  { workflowId := contract.workflowId
    contract
    passed := violations.isEmpty
    violations := violations.eraseDups
    warnings := note (contract.auditRequired = false)
      "audit is disabled for this contract; adaptive evidence will be weaker" }

end MaestroKernel.Adaptive
