import MaestroKernel.Adaptive.Approval
import MaestroKernel.Adaptive.Checkpoints
import MaestroKernel.Library.Procedure

/-! # Calibration

The critic recommends patches of the kernel policy, a cycle applies those that are safe, and a
verification rolls the applied ones back. A patch carries the value that it replaces. -/

namespace MaestroKernel.Adaptive

open Workflow

/-- The value of a field; a `bool` is an `int`. -/
inductive Value (F : Type) where
  | int (n : ℤ)
  | float (x : F)
  | other (text : String)
deriving DecidableEq

structure PolicyPatch (F : Type) where
  field : String
  oldValue : Value F
  newValue : Value F
  reason : String
  policyVersionFrom : String
  policyVersionTo : String
  sampleSize : ℤ
  reversible : Bool := true
  runtimeMode : RuntimeMode := .recommend
  createdAt : ℚ
deriving DecidableEq

/-- A kernel policy whose fields may be replaced by any value. -/
structure Policy (F : Type) where
  policyVersion : String
  value : String → Value F

variable {F : Type} [Number F]

/-- `float(value)` of a number -/
def Value.float? : Value F → Option F
  | .int n => some (n : F)
  | .float x => some x
  | .other _ => none

/-- `==` -/
def Value.equal (a b : Value F) : Bool :=
  match a, b with
  | .int m, .int n => m == n
  | .other s, .other t => s == t
  | a, b =>
    match a.float?, b.float? with
    | some x, some y => x == y
    | _, _ => false

/-- `abs` -/
def pyAbs (x : F) : F := if x < 0.0 then -x else x

def policyFields (p : KernelPolicy F) : List (String × Value F) :=
  [("dt", .float p.dt),
    ("alpha", .float p.alpha),
    ("active_min_psi", .float p.activeMinPsi),
    ("archive_max_psi", .float p.archiveMaxPsi),
    ("reactivation_need", .float p.reactivationNeed),
    ("min_retention", .float p.minRetention),
    ("max_transition_channel", .float p.maxTransitionChannel),
    ("min_aftermath_balance", .float p.minAftermathBalance),
    ("quarantine_policy_risk", .float p.quarantinePolicyRisk),
    ("critical_requires_review", .int (if p.criticalRequiresReview then 1 else 0)),
    ("max_failure_streak", .int p.maxFailureStreak),
    ("min_edge_psi", .float p.minEdgePsi),
    ("min_workflow_psi", .float p.minWorkflowPsi),
    ("max_step_attempts", .int p.maxStepAttempts),
    ("prefer_high_psi_agents", .int (if p.preferHighPsiAgents then 1 else 0))]

def Policy.of (p : KernelPolicy F) : Policy F where
  policyVersion := p.policyVersion
  value field := ((policyFields p).lookup field).getD (.other "")

omit [Number F] in
/-- `replace(policy, policy_version=…, **{field: value})` -/
def Policy.replace (policy : Policy F) (policyVersion field : String) (value : Value F) :
    Policy F where
  policyVersion
  value := Function.update policy.value field value

/-! ## The critic -/

structure PolicyCritique (F : Type) where
  workflowId : String
  policyName : PolicyName
  policyVersion : String
  findings : List String
  suggestedChanges : List (PolicyPatch F)
  confidence : F

/-- What a review reads: the workflow, its checkpoint reports, the quality of the decisions, and
the clock. -/
structure ReviewEvidence (F : Type) [Number F] where
  workflow : WorkflowRecord F
  checkpoints : List (CheckpointReport F)
  outcomes : List F
  now : ℚ

/-- `_patch` -/
def criticPatch (policy : PolicyProfile F) (field : String) (oldValue newValue : Value F)
    (reason : String) (sampleSize : ℕ) (now : ℚ) : PolicyPatch F where
  field
  oldValue
  newValue
  reason
  policyVersionFrom := policy.policyVersion
  policyVersionTo := policy.policyVersion ++ "+patch"
  sampleSize
  createdAt := now

/-- `PolicyCritic.review` -/
def criticReview (policy : PolicyProfile F) (evidence : ReviewEvidence F) : PolicyCritique F :=
  let failed := evidence.workflow.inState .failed
  let exhaustedFailures := failed.filter fun s => s.step.maxRetries ≤ s.attempts
  let repeatedRetry := failed.filter fun s => 1 < s.attempts
  let weakHandoffReports := evidence.checkpoints.filter fun r =>
    r.risks.any fun x => "weak_handoffs".isPrefixOf x
  let lowQualityOutcomes := evidence.outcomes.filter fun q => q < 0.45
  let findings :=
    note (exhaustedFailures ≠ [])
      "failed steps exhausted retries; reroute or mediator should be considered" ++
    note (repeatedRetry ≠ []) "retry was repeated without recovery on at least one step" ++
    note (weakHandoffReports ≠ []) "handoff degraded during checkpoint review" ++
    note (lowQualityOutcomes ≠ [])
      "one or more governance decisions scored below quality threshold"
  let patches :=
    (if repeatedRetry ≠ [] then
      [criticPatch policy "max_step_attempts" (.int policy.kernelPolicy.maxStepAttempts)
        (.int (max 1 (policy.kernelPolicy.maxStepAttempts - 1)))
        "reduce ineffective retry pressure" repeatedRetry.length evidence.now]
    else []) ++
    (if weakHandoffReports ≠ [] then
      [criticPatch policy "min_edge_psi" (.float policy.kernelPolicy.minEdgePsi)
        (.float (pyMax 0.0 policy.kernelPolicy.minEdgePsi))
        "tighten weak handoff monitoring" weakHandoffReports.length evidence.now]
    else [])
  let confidence : F := pyMax 0.35 (pyMin 0.9
    (0.55 + 0.08 * (((evidence.checkpoints.length : ℕ) : ℤ) : F) +
      0.03 * (((evidence.outcomes.length : ℕ) : ℤ) : F)))
  { workflowId := evidence.workflow.plan.workflowId
    policyName := policy.name
    policyVersion := policy.policyVersion
    findings :=
      if findings = [] then ["policy behavior was stable; no patch recommended"] else findings
    suggestedChanges := patches.filter fun p => !p.oldValue.equal p.newValue
    confidence := Number.round4 confidence }

def adjustableFields : List String :=
  ["max_step_attempts", "min_edge_psi", "min_workflow_psi", "quarantine_policy_risk",
    "archive_max_psi", "reactivation_need"]

def forbiddenFields : List String :=
  ["dt", "alpha", "critical_requires_review", "active_min_psi", "min_retention",
    "max_transition_channel", "min_aftermath_balance"]

def adjustable (field : String) : Bool := field ∉ forbiddenFields && field ∈ adjustableFields

def isSmallChange (field : String) (oldValue newValue : Value F) : Bool :=
  if field = "max_step_attempts" then
    match oldValue, newValue with
    | .int m, .int n => |n - m| ≤ 1 ∧ 1 ≤ n ∧ n ≤ 5
    | _, _ => false
  else
    match oldValue.float?, newValue.float? with
    | some x, some y =>
      if (field = "quarantine_policy_risk" ∨ field = "reactivation_need") ∧
          ¬ (0.0 ≤ y ∧ y ≤ 1.0) then false
      else if (field = "min_edge_psi" ∨ field = "min_workflow_psi" ∨ field = "archive_max_psi") ∧
          ¬ (-1.0 ≤ y ∧ y ≤ 1.0) then false
      else pyAbs (y - x) ≤ 0.15
    | _, _ => !oldValue.equal newValue

def isSafe (patch : PolicyPatch F) (minSampleSize : ℤ) : Bool :=
  adjustable patch.field && minSampleSize ≤ patch.sampleSize && patch.reversible &&
    isSmallChange patch.field patch.oldValue patch.newValue

/-- The sample that a call asks for; the default is the one of the calibrator. -/
def sampleGate (minSampleSize : Option ℤ) : ℤ := (minSampleSize.map (max 1)).getD 20

def canAutoApplyPatch (profile : TaskProfile) (policy : PolicyProfile F) (patch : PolicyPatch F)
    (toolkitMode : RuntimeMode) : Bool :=
  toolkitMode = .controlledAdaptive &&
    !(policy.runtimeMode = .restrictedCritical || policy.runtimeMode = .observe) &&
    !requiresHumanGate profile policy none && policy.minSampleSize ≤ patch.sampleSize

/-! ## The toolkit -/

/-- A patch that was applied to the policy in force, and the place in the recommendations of a
workflow that a cycle took it from. -/
structure Application (F : Type) where
  patch : PolicyPatch F
  source : Option (String × ℕ)
  before : Policy F
  after : Policy F

/-- `policy` is the one of the kernel and of its governor, which are set together, and `mode`
that of the toolkit and of its calibrator. The code does not keep `applications`. -/
structure Calibration (F : Type) where
  policy : Policy F
  mode : RuntimeMode
  patchHistory : List (PolicyPatch F) := []
  appliedPatches : List (PolicyPatch F) := []
  rollbackHistory : List (PolicyPatch F) := []
  checkpointCritiques : String → List (PolicyCritique F) := fun _ => []
  checkpointPatches : String → List (PolicyPatch F) := fun _ => []
  successfulPatchVersions : List String := []
  requests : List HumanApprovalRequest := []
  applications : List (Application F) := []

/-- The arguments of `run_adaptive_cycle`, with what it finds: the profile and the policy of the
workflow, an exception of the budget guard or of the kernel, and the review of a checkpoint. -/
structure CycleCall (F : Type) [Number F] where
  workflowId : String
  profile : TaskProfile
  policy : PolicyProfile F
  applySelectedPolicy : Bool := true
  autoApplySafePatches : Bool := false
  interruption : Option String := none
  review : Option (ReviewEvidence F) := none

/-- The arguments of `verify_applied_patches`, with the metrics that it collects. -/
structure VerificationCall (F : Type) [Number F] where
  workflowId : String
  rollbackOnRegression : Bool := false
  minDecisionQuality : F := 0.55
  recentDecisionQuality : Option F
  metrics : MetricsSnapshot F

structure PatchVerificationResult (F : Type) where
  workflowId : String
  patch : PolicyPatch F
  status : String
  rollbackRecommended : Bool
  reason : String
  metrics : MetricsSnapshot F
  confidence : F

/-- The regressions that a verification finds, whatever the patch. -/
def regressions (fmt : Formatting F) (call : VerificationCall F) : List String :=
  let metrics := call.metrics
  (match call.recentDecisionQuality with
  | none => []
  | some quality =>
    note (quality < call.minDecisionQuality)
      ("recent decision quality " ++ fmt.fixed2 quality ++ " below " ++
        fmt.fixed2 call.minDecisionQuality)) ++
  note (0.30 < metrics.falseRetryRate)
    ("false retry rate " ++ fmt.fixed2 metrics.falseRetryRate ++ " above 0.30") ++
  note (0.30 < metrics.falseRerouteRate)
    ("false reroute rate " ++ fmt.fixed2 metrics.falseRerouteRate ++ " above 0.30") ++
  note (0.45 < metrics.handoffFailureRate)
    ("handoff failure rate " ++ fmt.fixed2 metrics.handoffFailureRate ++ " above 0.45") ++
  note (metrics.outcomeCoverageRatio < 0.80)
    ("outcome coverage " ++ fmt.fixed2 metrics.outcomeCoverageRatio ++ " below 0.80")

def verifyPatches (fmt : Formatting F) (call : VerificationCall F)
    (patches : List (PolicyPatch F)) : List (PatchVerificationResult F) :=
  let found := regressions fmt call
  let confidence : F :=
    match call.recentDecisionQuality with
    | none => 0.55
    | some quality => pyMax 0.35 (pyMin 0.95 quality)
  patches.map fun patch =>
    let rollbackRecommended := !found.isEmpty && patch.reversible
    let (status, reason) :=
      if found = [] ∧ 0.80 ≤ call.metrics.policyPatchSuccessRate then
        ("verified", "post-patch evidence remains within safety limits")
      else if rollbackRecommended then ("rollback_recommended", "; ".intercalate found)
      else
        ("needs_more_evidence",
          "insufficient or mixed evidence; keep observing without further expansion")
    { workflowId := call.workflowId
      patch
      status
      rollbackRecommended
      reason
      metrics := call.metrics
      confidence := Number.round4 confidence }

namespace Calibration

def applyPolicyProfile (policy : PolicyProfile F) (σ : Calibration F) : Calibration F :=
  { σ with policy := Policy.of policy.kernelPolicy }

/-- `suggest_policy_patches`, by `suggest_patch` -/
def suggestPolicyPatches (critique : PolicyCritique F) (minSampleSize : Option ℤ)
    (σ : Calibration F) : List (PolicyPatch F) × Calibration F :=
  let accepted :=
    (critique.suggestedChanges.filter fun patch => isSafe patch (sampleGate minSampleSize)).map
      fun patch => { patch with runtimeMode := σ.mode }
  (accepted, { σ with patchHistory := σ.patchHistory ++ accepted })

/-- What `_analyze_checkpoint` makes of the policy. -/
def analyzeCheckpoint (workflowId : String) (policy : PolicyProfile F)
    (evidence : ReviewEvidence F) (σ : Calibration F) : Calibration F :=
  let critique := criticReview policy evidence
  let (patches, σ) := σ.suggestPolicyPatches critique (some policy.minSampleSize)
  { σ with
    checkpointCritiques := extend σ.checkpointCritiques workflowId critique
    checkpointPatches := Function.update σ.checkpointPatches workflowId
      (σ.checkpointPatches workflowId ++ patches) }

/-- The patch is written to the policy and filed as applied. -/
def withPatch (patch : PolicyPatch F) (source : Option (String × ℕ)) (σ : Calibration F) :
    Calibration F :=
  let updated := σ.policy.replace patch.policyVersionTo patch.field patch.newValue
  { σ with
    policy := updated
    appliedPatches := σ.appliedPatches ++ [{ patch with runtimeMode := σ.mode }]
    successfulPatchVersions := σ.successfulPatchVersions.insert patch.policyVersionTo
    applications := σ.applications ++ [⟨patch, source, σ.policy, updated⟩] }

/-- `apply_policy_patch`, by `apply_patch` -/
def applyPolicyPatch (patch : PolicyPatch F) (minSampleSize : Option ℤ)
    (source : Option (String × ℕ)) : Proc String (Calibration F) Unit := do
  let σ ← Proc.read
  if σ.mode ≠ .controlledAdaptive then
    Proc.raise "patch application requires controlled adaptive mode"
  else if isSafe patch (sampleGate minSampleSize) = false then
    Proc.raise ("unsafe or forbidden patch: " ++ patch.field)
  else Proc.modify (withPatch patch source)

/-- The old value of the patch is written to the policy, and the patch filed as rolled back. -/
def withoutPatch (patch : PolicyPatch F) (σ : Calibration F) : Calibration F :=
  { σ with
    policy := σ.policy.replace (patch.policyVersionFrom ++ "+rollback") patch.field patch.oldValue
    rollbackHistory := σ.rollbackHistory ++ [{ patch with runtimeMode := σ.mode }]
    successfulPatchVersions := σ.successfulPatchVersions.erase patch.policyVersionTo }

/-- `rollback_policy_patch`, by `rollback_patch` -/
def rollbackPolicyPatch (patch : PolicyPatch F) : Proc String (Calibration F) Unit :=
  if patch.reversible = false then Proc.raise "cannot roll back irreversible patch"
  else if adjustable patch.field = false then
    Proc.raise ("unsafe or forbidden rollback field: " ++ patch.field)
  else Proc.modify (withoutPatch patch)

/-- `request_human_approval` for a patch -/
def requestPatchApproval (workflowId : String) (patch : PolicyPatch F) (σ : Calibration F) :
    Calibration F :=
  { σ with
    requests := σ.requests ++
      [{ requestId := σ.requests.length
         workflowId
         action := "policy_patch"
         reason :=
          "policy patch requires human approval or is not eligible for automatic application"
         policyVersion := patch.policyVersionFrom }] }

/-- A patch of the workflow, with its place there, is applied or an approval asked for. -/
def handleCyclePatch (call : CycleCall F) (patch : PolicyPatch F) (place : ℕ) :
    Proc String (Calibration F) Unit := do
  let σ ← Proc.read
  if canAutoApplyPatch call.profile call.policy patch σ.mode then
    applyPolicyPatch patch (some call.policy.minSampleSize) (some (call.workflowId, place))
  else Proc.modify (requestPatchApproval call.workflowId patch)

/-- The loop of `_handle_cycle_patches`. -/
def handleCyclePatches (call : CycleCall F) :
    List (PolicyPatch F × ℕ) → Proc String (Calibration F) Unit
  | [] => pure ()
  | (patch, place) :: rest => do
      handleCyclePatch call patch place
      handleCyclePatches call rest

/-- A cycle installs the policy of the workflow, -/
def installed (call : CycleCall F) (σ : Calibration F) : Calibration F :=
  if call.applySelectedPolicy then σ.applyPolicyProfile call.policy else σ

/-- and then reviews it, if it makes a checkpoint. -/
def reviewed (call : CycleCall F) (σ : Calibration F) : Calibration F :=
  match call.review with
  | none => σ
  | some evidence => σ.analyzeCheckpoint call.workflowId call.policy evidence

def runAdaptiveCycle (call : CycleCall F) : Proc String (Calibration F) Unit := do
  Proc.modify (installed call)
  match call.interruption with
  | some reason => Proc.raise reason
  | none => do
      Proc.modify (reviewed call)
      let σ ← Proc.read
      if call.autoApplySafePatches then
        handleCyclePatches call (σ.checkpointPatches call.workflowId).zipIdx
      else pure ()

def rollBackRegression (rollbackOnRegression : Bool) (result : PatchVerificationResult F) :
    Proc String (Calibration F) Unit :=
  if rollbackOnRegression && result.rollbackRecommended then rollbackPolicyPatch result.patch
  else pure ()

/-- The loop of `verify_applied_patches`. -/
def rollBackRegressions (rollbackOnRegression : Bool) :
    List (PatchVerificationResult F) → Proc String (Calibration F) Unit
  | [] => pure ()
  | result :: rest => do
      rollBackRegression rollbackOnRegression result
      rollBackRegressions rollbackOnRegression rest

def verifyAppliedPatches (fmt : Formatting F) (call : VerificationCall F) :
    Proc String (Calibration F) (List (PatchVerificationResult F)) := do
  let σ ← Proc.read
  let results := verifyPatches fmt call σ.appliedPatches
  rollBackRegressions call.rollbackOnRegression results
  return results

end Calibration

inductive CalibrationCall (F : Type) [Number F] where
  | cycle (call : CycleCall F)
  | profile (policy : PolicyProfile F)
  | patch (patch : PolicyPatch F) (minSampleSize : Option ℤ := none)
  | rollback (patch : PolicyPatch F)
  | verify (call : VerificationCall F)
  | suggest (critique : PolicyCritique F) (minSampleSize : Option ℤ := none)
  /-- A checkpoint that is made outside of a cycle. -/
  | checkpoint (workflowId : String) (policy : PolicyProfile F) (evidence : ReviewEvidence F)
  /-- A mode transition that is allowed. -/
  | transition (requestedMode : RuntimeMode)

namespace Calibration

def perform (fmt : Formatting F) : CalibrationCall F → Proc String (Calibration F) Unit
  | .cycle call => runAdaptiveCycle call
  | .profile policy => Proc.modify (applyPolicyProfile policy)
  | .patch patch minSampleSize => applyPolicyPatch patch minSampleSize none
  | .rollback patch => rollbackPolicyPatch patch
  | .verify call => do
      let _ ← verifyAppliedPatches fmt call
      pure ()
  | .suggest critique minSampleSize =>
    Proc.modify fun σ => (σ.suggestPolicyPatches critique minSampleSize).2
  | .checkpoint workflowId policy evidence =>
    Proc.modify (analyzeCheckpoint workflowId policy evidence)
  | .transition requestedMode => Proc.modify fun σ => { σ with mode := requestedMode }

def start (policy : KernelPolicy F) (mode : RuntimeMode) : Calibration F where
  policy := Policy.of policy
  mode

/-- A call that raises keeps what it did before. -/
def run (fmt : Formatting F) (policy : KernelPolicy F) (mode : RuntimeMode)
    (calls : List (CalibrationCall F)) : Calibration F :=
  calls.foldl (fun σ call => (perform fmt call σ).2) (start policy mode)

end Calibration

end MaestroKernel.Adaptive
