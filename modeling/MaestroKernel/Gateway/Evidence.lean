import Mathlib.Data.List.Dedup
import MaestroKernel.Gateway.Models
import MaestroKernel.Library.Records
import MaestroKernel.Market.Catalog

/-! # Evidence

Verification and sufficiency evidence, the projections of trusted sources with their bindings, and
runtime attestations. The confidences that evidence may carry are not read by the gateway. -/

namespace MaestroKernel.Gateway

open Checked Records
open Market (strip)

inductive Error where
  | valueError (message : String)
  | overflowError

/-- A point in time, in microseconds since the start of year 1 in UTC. -/
structure Instant where
  microseconds : ℤ
  aware : Bool

/-- The functions of the standard library on text, and the signature of a response. -/
structure Platform where
  fromisoformat : String → Option Instant
  /-- `.isoformat()` of a time in UTC. -/
  isoformat : ℤ → String
  lower : String → String
  sha256 : String → String
  /-- `f"{value:.2f}"` -/
  fixed2 : ℚ → String
  signResponse : (agentId action rank : String) → (reward : ℚ) → (ts : String) → String

/-- The microseconds from the start of year 1 to the end of year 9999. -/
def maxInstant : ℤ := 315537897600 * 1000000

/-- `.astimezone(UTC)` -/
def astimezone (parsed : Instant) : Except Error ℤ := do
  raiseIf (parsed.microseconds < 0 ∨ maxInstant ≤ parsed.microseconds) .overflowError
  pure parsed.microseconds

inductive VerificationStatus where
  | notRequired
  | verified
  | unverified
  | contradicted
deriving DecidableEq

def VerificationStatus.value : VerificationStatus → String
  | .notRequired => "not_required"
  | .verified => "verified"
  | .unverified => "unverified"
  | .contradicted => "contradicted"

inductive SufficiencyStatus where
  | notRequired
  | sufficient
  | unverified
  | insufficient
deriving DecidableEq

def SufficiencyStatus.value : SufficiencyStatus → String
  | .notRequired => "not_required"
  | .sufficient => "sufficient"
  | .unverified => "unverified"
  | .insufficient => "insufficient"

/-- Named numbers. -/
abbrev Signals := List (String × ℚ)

def Signals.get (signals : Signals) (key : String) (default : ℚ) : ℚ :=
  (signals.lookup key).getD default

structure VerificationEvidence where
  factual : VerificationStatus := .notRequired
  execution : VerificationStatus := .notRequired

def VerificationStatus.asRiskSignals (kind : String) : VerificationStatus → Signals
  | .contradicted => [(kind ++ "_contradiction", 1)]
  | .unverified => [(kind ++ "_unverified", 1)]
  | _ => []

def VerificationEvidence.asRiskSignals (evidence : VerificationEvidence) : Signals :=
  evidence.factual.asRiskSignals "factual" ++ evidence.execution.asRiskSignals "execution"

structure TaskSufficiencyEvidence where
  status : SufficiencyStatus := .notRequired

def TaskSufficiencyEvidence.asRiskSignals (evidence : TaskSufficiencyEvidence) : Signals :=
  match evidence.status with
  | .insufficient => [("task_insufficient", 1)]
  | .unverified => [("task_sufficiency_unverified", 1)]
  | _ => []

/-! ## Trusted projections -/

structure TrustedEvidenceProjection where
  sourceKind : String
  sourceDigest : String
  verification : VerificationEvidence
  releaseCommitSha : Option String := none
  artifactDigest : Option String := none
  caseRevision : Option String := none
  scopeDigest : Option String := none
  observedAt : Option String := none
  expiresAt : Option String := none

structure TrustedEvidenceBinding where
  operationId : String
  releaseCommitSha : Option String := none
  artifactDigest : Option String := none
  caseRevision : Option String := none
  scopeDigest : Option String := none
  evaluatedAt : Option String := none
  consumedSourceDigests : List String := []

def parseAware (env : Platform) (value : String) : Except Error ℤ := do
  let parsed ← demand (env.fromisoformat value) (.valueError "Invalid isoformat string")
  raiseIf (parsed.aware = false)
    (.valueError "trusted_evidence_timestamp_must_be_timezone_aware")
  astimezone parsed

/-- `tuple(sorted(set(issues)))` -/
def sortedSet (issues : List String) : List String := issues.dedup.insertionSort (· ≤ ·)

def mismatch (fieldName : String) (expected actual : Option String) : List String :=
  if expected.isSome ∧ actual ≠ expected then
    ["trusted_evidence_" ++ fieldName ++ "_mismatch"]
  else []

/-- `try: parsed = _parse_aware(value) except ValueError: issue`, and otherwise the issue that the
time raises. -/
def timeIssue (env : Platform) (value invalid : String) (issue : ℤ → List String) :
    Except Error (List String) :=
  match parseAware env value with
  | .ok parsed => .ok (issue parsed)
  | .error (.valueError _) => .ok [invalid]
  | .error .overflowError => .error .overflowError

def observationIssues (env : Platform) (projection : TrustedEvidenceProjection) (evaluated : ℤ) :
    Except Error (List String) :=
  match projection.observedAt with
  | none => .ok ["trusted_evidence_observed_at_missing"]
  | some value => timeIssue env value "trusted_evidence_observed_at_invalid" fun observed =>
    if observed > evaluated then ["trusted_evidence_observed_in_future"] else []

def expiryIssues (env : Platform) (projection : TrustedEvidenceProjection) (evaluated : ℤ) :
    Except Error (List String) :=
  match projection.expiresAt with
  | none => .ok []
  | some value => timeIssue env value "trusted_evidence_expires_at_invalid" fun expires =>
    if expires ≤ evaluated then ["trusted_evidence_expired"] else []

def agingIssues (env : Platform) (projection : TrustedEvidenceProjection)
    (binding : TrustedEvidenceBinding) : Except Error (List String) :=
  match binding.evaluatedAt with
  | none => .ok []
  | some value => do
      let evaluated ← parseAware env value
      let observation ← observationIssues env projection evaluated
      let expiry ← expiryIssues env projection evaluated
      pure (observation ++ expiry)

def trustedEvidenceBindingIssues (env : Platform) (projection : TrustedEvidenceProjection)
    (binding : TrustedEvidenceBinding) : Except Error (List String) := do
  let aging ← agingIssues env projection binding
  pure (sortedSet (
    mismatch "release_commit_sha" binding.releaseCommitSha projection.releaseCommitSha ++
    mismatch "artifact_digest" binding.artifactDigest projection.artifactDigest ++
    mismatch "case_revision" binding.caseRevision projection.caseRevision ++
    mismatch "scope_digest" binding.scopeDigest projection.scopeDigest ++
    (if projection.sourceDigest ∈ binding.consumedSourceDigests then
      ["trusted_evidence_replay_detected"] else []) ++ aging))

/-! ## Runtime attestations -/

def aware (env : Platform) (name value : String) : Except Error ℤ := do
  let parsed ← demand (env.fromisoformat value) (.valueError (name ++ "_must_be_iso_datetime"))
  raiseIf (parsed.aware = false) (.valueError (name ++ "_must_be_timezone_aware"))
  astimezone parsed

/-- `_SAFE_ID` -/
def isSafeId (value : String) : Bool :=
  match value.toList with
  | [] => false
  | c :: cs =>
    c.isAlphanum && cs.length ≤ 239 && cs.all fun c =>
      c.isAlphanum || c = '.' || c = '_' || c = ':' || c = '/' || c = '-'

/-- `_SHA256`; the pattern is matched in full. -/
def isSha256 (value : String) : Bool :=
  value.toList.length = 64 && value.toList.all fun c => c.isDigit || ('a' ≤ c && c ≤ 'f')

structure AttestationFields where
  operationId : String
  actorRef : String
  executionReferenceId : String
  sourceDigest : String
  performedAt : String
  attestedAt : String
  succeeded : Bool
  attestationDigest : String
deriving DecidableEq

/-- A field of the payload, whose text `json.dumps` puts between quotes as it is: identifiers,
digests and times hold no character that is escaped. -/
def payloadField (name value : String) : String := "\"" ++ name ++ "\":" ++ value

def quoted (value : String) : String := "\"" ++ value ++ "\""

def runtimeExecutionAttestationDigest (env : Platform) (a : AttestationFields) :
    Except Error String := do
  let attestedAt ← aware env "attested_at" a.attestedAt
  let performedAt ← aware env "performed_at" a.performedAt
  pure (env.sha256 ("\x7b" ++ ",".intercalate [
    payloadField "actor_ref" (quoted (env.lower (strip a.actorRef))),
    payloadField "attested_at" (quoted (env.isoformat attestedAt)),
    payloadField "execution_reference_id" (quoted (env.lower (strip a.executionReferenceId))),
    payloadField "operation_id" (quoted (env.lower (strip a.operationId))),
    payloadField "performed_at" (quoted (env.isoformat performedAt)),
    payloadField "source_digest" (quoted a.sourceDigest),
    payloadField "succeeded" (if a.succeeded then "true" else "false")] ++ "\x7d"))

def requireSafeId (name value : String) : Except Error Unit :=
  raiseIf (isSafeId (strip value) = false) (.valueError (name ++ "_invalid"))

def AttestationFields.postInit (env : Platform) (a : AttestationFields) : Except Error Unit := do
  requireSafeId "operation_id" a.operationId
  requireSafeId "actor_ref" a.actorRef
  requireSafeId "execution_reference_id" a.executionReferenceId
  raiseIf (isSha256 a.sourceDigest = false) (.valueError "source_digest_must_be_sha256")
  raiseIf (isSha256 a.attestationDigest = false) (.valueError "attestation_digest_must_be_sha256")
  let attested ← aware env "attested_at" a.attestedAt
  let performed ← aware env "performed_at" a.performedAt
  raiseIf (attested < performed) (.valueError "attestation_cannot_predate_execution")
  let digest ← runtimeExecutionAttestationDigest env a
  raiseIf (a.attestationDigest ≠ digest)
    (.valueError "runtime_execution_attestation_digest_mismatch")

structure RuntimeExecutionAttestation (env : Platform) extends AttestationFields where
  checked : toAttestationFields.postInit env = .ok ()

/-- `runtime_attestation_issues`; the time of the evaluation is a reading of the clock. -/
def runtimeAttestationIssues {env : Platform} (a : RuntimeExecutionAttestation env)
    (operationId : String) (evaluated : ℤ) : Except Error (List String) := do
  let performed ← aware env "performed_at" a.performedAt
  let attested ← aware env "attested_at" a.attestedAt
  pure (sortedSet (
    (if a.operationId ≠ operationId then ["runtime_attestation_operation_mismatch"] else []) ++
    (if performed > evaluated then ["runtime_attestation_execution_from_future"] else []) ++
    (if attested > evaluated then ["runtime_attestation_attested_from_future"] else []) ++
    (if a.succeeded then [] else ["runtime_attestation_execution_failed"])))

/-- The verification that `from_runtime_execution_attestation` projects. -/
def AttestationFields.verification (a : AttestationFields) : VerificationEvidence where
  execution := if a.succeeded then .verified else .contradicted

@[simp] theorem sortedSet_eq_nil {issues : List String} : sortedSet issues = [] ↔ issues = [] := by
  rw [sortedSet, ← List.length_eq_zero_iff, List.length_insertionSort, List.length_eq_zero_iff]
  cases issues with
  | nil => simp
  | cons x xs =>
    have hmem : x ∈ (x :: xs).dedup := List.mem_dedup.mpr List.mem_cons_self
    constructor
    · intro h
      rw [h] at hmem
      cases hmem
    · intro h
      cases h

theorem attestation_of_no_issues {env : Platform} {a : RuntimeExecutionAttestation env}
    {operationId : String} {evaluated : ℤ}
    (h : runtimeAttestationIssues a operationId evaluated = .ok []) :
    a.operationId = operationId ∧ a.succeeded = true := by
  simp only [runtimeAttestationIssues, bind_ok, pure_ok, sortedSet_eq_nil,
    List.append_eq_nil_iff] at h
  obtain ⟨_, -, _, -, ⟨⟨hoperation, -⟩, -⟩, hsucceeded⟩ := h
  constructor
  · by_contra hne
    rw [if_pos hne] at hoperation
    cases hoperation
  · by_contra hne
    rw [if_neg hne] at hsucceeded
    cases hsucceeded

end MaestroKernel.Gateway
