import MaestroKernel.Gateway.Policies

/-! # The gateway engine

`GatewayEngine.evaluate` on the agent that the registry finds. The analyzer is an argument: what it
gives for the response is any analysis. -/

namespace MaestroKernel.Gateway

open Checked

inductive LifecycleAction where
  | freeze
  | escalate
  | upgrade
  | rehabilitate
deriving DecidableEq

def LifecycleAction.value : LifecycleAction → String
  | .freeze => "freeze"
  | .escalate => "escalate"
  | .upgrade => "upgrade"
  | .rehabilitate => "rehabilitate"

variable {Q : Type}

/-- `LifecycleEngine.evaluate_agent` -/
def evaluateLifecycle (agent : Agent ℚ Q) : Option LifecycleAction :=
  if agent.state ≠ .active then none
  else if agent.evaluationHistory.length < 3 then none
  else if agent.averageReward < -1 / 2 then some .freeze
  else if 5 ≤ agent.consecutiveFailures then some .freeze
  else if agent.trend = .declining ∧ agent.averageReward < 0 then some .escalate
  else if 6 / 5 ≤ agent.averageReward ∧ agent.trend = .improving then some .upgrade
  else if agent.averageReward < 0 then some .rehabilitate
  else none

/-! ## Requests -/

structure Request (env : Platform) where
  clientQuery : String
  agentResponse : String
  language : String := "en"
  verificationEvidence : Option VerificationEvidence := none
  sufficiencyEvidence : Option TaskSufficiencyEvidence := none
  governanceContext : Option GovernanceRequestContext := none
  operationId : String := "response.evaluate"
  trustedEvidenceProjection : Option TrustedEvidenceProjection := none
  trustedEvidenceBinding : Option TrustedEvidenceBinding := none
  runtimeExecutionAttestation : Option (RuntimeExecutionAttestation env) := none

/-- The readings of the clock in one evaluation. -/
structure Clock where
  evaluated : ℤ
  signed : ℤ
  recorded : ℤ
  policyChange : ℤ
  lifecycleChange : ℤ

/-- What an evaluation records of its evidence. -/
structure QualificationPayload where
  envelope : QualificationEnvelope
  governanceGate : Option String := none
  trustedEvidence : Option (String × String × List String) := none
  runtimeExecutionAttestation : Option (AttestationFields × List String) := none
deriving DecidableEq

variable {env : Platform}

namespace Request

variable (r : Request env)

/-- The issues of the trusted projection. -/
def bindingIssues : Except Error (List String) :=
  match r.trustedEvidenceProjection, r.trustedEvidenceBinding with
  | none, _ => .ok []
  | some _, none => .ok ["trusted_evidence_binding_required"]
  | some projection, some binding => do
      let issues ← trustedEvidenceBindingIssues env projection binding
      pure (if binding.operationId ≠ r.operationId then
        sortedSet (issues ++ ["trusted_evidence_operation_id_mismatch"]) else issues)

/-- The verification before an attestation: a projection with issues counts as contradicted. -/
def boundVerification (bindingIssues : List String) : Option VerificationEvidence :=
  if bindingIssues ≠ [] then some { factual := .contradicted, execution := .unverified }
  else match r.trustedEvidenceProjection with
    | some projection => some projection.verification
    | none => r.verificationEvidence

def runtimeIssues (evaluated : ℤ) : Except Error (List String) :=
  match r.runtimeExecutionAttestation with
  | none => .ok []
  | some attestation => do
      let issues ← runtimeAttestationIssues attestation r.operationId evaluated
      pure (match r.trustedEvidenceProjection with
        | some projection =>
          if attestation.sourceDigest ≠ projection.sourceDigest then
            sortedSet (issues ++ ["runtime_attestation_source_digest_mismatch"])
          else issues
        | none => issues)

/-- An attestation without issues replaces the execution evidence. -/
def effectiveVerification (bindingIssues runtimeIssues : List String) : VerificationEvidence :=
  let base := (r.boundVerification bindingIssues).getD {}
  match r.runtimeExecutionAttestation with
  | some attestation =>
    if runtimeIssues = [] then
      { factual := base.factual, execution := attestation.verification.execution }
    else base
  | none => base

def callerContext : GovernanceRequestContext := r.governanceContext.getD {}

/-- The requirements of the server, made stricter by the caller. An unknown operation asks for a scope
of its own. -/
def context : GovernanceRequestContext :=
  match getOperationPolicy r.operationId with
  | none => mergeGovernanceContexts r.callerContext { requiredScopes := ["__unknown_operation__"] }
  | some policy => mergeGovernanceContexts policy.toGovernanceRequestContext r.callerContext

def sufficiency : TaskSufficiencyEvidence := r.sufficiencyEvidence.getD {}

end Request

/-- `{tag.removeprefix("scope:") for tag in tags if tag.startswith("scope:")}` -/
def grantedScopes (tags : List String) : List String :=
  tags.filterMap fun tag =>
    if "scope:".toList.isPrefixOf tag.toList then some (String.ofList (tag.toList.drop 6)) else none

/-- A scope that is required and not granted. -/
def missesScope (tags : List String) (context : GovernanceRequestContext) : Bool :=
  context.requiredScopes.any fun scope => scope ∉ grantedScopes tags

/-- `missing_required_evidence` -/
def missesEvidence (r : Request env) (verification : VerificationEvidence)
    (runtimeIssues : List String) : Bool :=
  (r.context.requireFactualEvidence && verification.factual ≠ .verified) ||
    (r.context.requireExecutionEvidence && verification.execution ≠ .verified) ||
    (r.context.requireTaskSufficiency && r.sufficiency.status ≠ .sufficient) ||
    match getOperationPolicy r.operationId with
    | some policy => policy.requireRuntimeAttestation &&
        (r.runtimeExecutionAttestation.isNone || runtimeIssues ≠ [])
    | none => false

/-- The signals that the policy engine sees; a later one hides an earlier one of its name. -/
def policySignals (scores feedback : Signals) (missesScope missesEvidence : Bool) : Signals :=
  (if missesEvidence then [("missing_required_evidence", 1)] else []) ++
    (if missesScope then [("authorization_failure", 1)] else []) ++ (feedback ++ scores)

/-! ## Evaluation -/

/-- The answer for an agent that is not available. -/
def unavailable (agent : Agent ℚ QualificationPayload) : GatewayDecision QualificationPayload where
  action := .block
  rank := ""
  reward := 0
  policy := ""
  policyLabel := "Agent Not Available"
  fateVector := []
  repairPrompt := none
  agentState := agent.state
  message := "Agent is " ++ agent.state.value ++ ". Cannot process requests."

/-- The envelope of the evaluation before. -/
def previousEnvelope (agent : Agent ℚ QualificationPayload) : Option QualificationEnvelope :=
  agent.evaluationHistory.getLast?.bind fun record => record.qualification.map (·.envelope)

def envelopeOf (agent : Agent ℚ QualificationPayload) (a : Analysis) (r : Request env)
    (verification : VerificationEvidence) : QualificationEnvelope :=
  qualify a.rank a.scores verification r.sufficiency
    ((previousEnvelope agent).map (·.distanceToViability))
    (((previousEnvelope agent).map (·.componentRisks)).getD [])

/-- The decision, before it is recorded and signed. -/
def decisionOf (agent : Agent ℚ QualificationPayload) (a : Analysis) (r : Request env)
    (verification : VerificationEvidence) (runtimeIssues : List String) :
    GatewayDecision QualificationPayload :=
  decide agent.agentId agent.consecutiveFailures a
    (policySignals a.scores (envelopeOf agent a r verification).feedbackSignals
      (missesScope agent.tags r.context) (missesEvidence r verification runtimeIssues))

def payloadOf (envelope : QualificationEnvelope) (governanceGate : Option String) (r : Request env)
    (bindingIssues runtimeIssues : List String) : QualificationPayload where
  envelope := envelope
  governanceGate := governanceGate
  trustedEvidence := r.trustedEvidenceProjection.map fun projection =>
    (projection.sourceKind, projection.sourceDigest, bindingIssues)
  runtimeExecutionAttestation := r.runtimeExecutionAttestation.map fun attestation =>
    (attestation.toAttestationFields, runtimeIssues)

def recordOf (env : Platform) (clock : Clock) (a : Analysis) (r : Request env)
    (decision : GatewayDecision QualificationPayload) (payload : QualificationPayload) :
    EvaluationRecord ℚ QualificationPayload where
  timestamp := env.isoformat clock.recorded
  clientQuery := r.clientQuery
  agentResponse := r.agentResponse
  rank := a.rank
  reward := a.reward
  policy := a.policy
  policyLabel := decision.policyLabel
  fateVector := a.fateVector
  repairPrompt := decision.repairPrompt
  actionTaken := decision.action
  language := r.language
  qualification := some payload

/-- The state that the lifecycle recommends, with its reason. -/
def applyLifecycle (env : Platform) (clock : Clock) (agent : Agent ℚ QualificationPayload) :
    Agent ℚ QualificationPayload :=
  let now := env.isoformat clock.lifecycleChange
  match evaluateLifecycle agent with
  | some .freeze => agent.changeState .frozen
      ("Lifecycle: sustained low performance (avg " ++ env.fixed2 agent.averageReward ++ ")") now
  | some .escalate => agent.changeState .escalated "Lifecycle: declining performance trend" now
  | some .rehabilitate => agent.changeState .rehabilitating
      ("Lifecycle: low recoverable performance (avg " ++ env.fixed2 agent.averageReward ++ ")") now
  | _ => agent

def recordedAgent (env : Platform) (clock : Clock) (agent : Agent ℚ QualificationPayload)
    (decision : GatewayDecision QualificationPayload)
    (record : EvaluationRecord ℚ QualificationPayload) : Agent ℚ QualificationPayload :=
  let recorded := agent.addEvaluation record
  if decision.agentState ≠ recorded.state then
    recorded.changeState decision.agentState
      ("Gateway policy: " ++ decision.action.value ++ " — " ++ decision.message)
      (env.isoformat clock.policyChange)
  else recorded

/-- `GatewayEngine.evaluate`, of the agent that is found: the decision and the agent after it. -/
def Agent.evaluate (agent : Agent ℚ QualificationPayload) (clock : Clock) (a : Analysis)
    (r : Request env) :
    Except Error (GatewayDecision QualificationPayload × Agent ℚ QualificationPayload) :=
  if agent.available = false then .ok (unavailable agent, agent)
  else do
    raiseIf (r.trustedEvidenceProjection.isSome ∧ r.verificationEvidence.isSome)
      (.valueError "verification_evidence_conflicts_with_trusted_evidence_projection")
    let bindingIssues ← r.bindingIssues
    let runtimeIssues ← r.runtimeIssues clock.evaluated
    let verification := r.effectiveVerification bindingIssues runtimeIssues
    let decision := decisionOf agent a r verification runtimeIssues
    let payload := payloadOf (envelopeOf agent a r verification) decision.governanceGate r
      bindingIssues runtimeIssues
    let recorded := recordedAgent env clock agent decision
      (recordOf env clock a r decision payload)
    let lifecycle := evaluateLifecycle recorded
    pure ({ decision with
      qualification := some payload
      signature := some (env.signResponse agent.agentId decision.action.value decision.rank
        decision.reward (env.isoformat clock.signed))
      lifecycleRecommendation := lifecycle.map (·.value)
      message := if lifecycle = some .upgrade then
          decision.message ++ " Lifecycle recommendation: upgrade."
        else decision.message }, applyLifecycle env clock recorded)

end MaestroKernel.Gateway
