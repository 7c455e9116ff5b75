import MaestroKernel.Connectivity.Lifecycle
import MaestroKernel.Library.JsonRoundTrip

/-! # Runs of the lifecycle

Every store that calls reach keeps the invariant. A call that passes its own checks saves, unless it
issues a key under an id that another case's key has: the issue services look at the keys of their
own case only, while a save holds the ids of all keys apart. -/

namespace MaestroKernel.Connectivity

open Checked JsonText Records

variable {env : Environment} {s s' : CaseStoreSnapshot env} {call : Call} {outcome : Outcome env}

def Call.FreshKey (s : CaseStoreSnapshot env) : Call → Prop
  | .issueQualificationKey _ keyId .. => ∀ k ∈ s.qualificationKeys, k.qualificationKeyId ≠ keyId
  | .issueSandboxApiKey _ keyId .. => ∀ k ∈ s.sandboxApiKeys, k.sandboxApiKeyId ≠ keyId
  | _ => True

/-! ## One call -/

theorem forCase_eq_nil {α : Type} {xs : List α} {caseId : α → String} {id : String}
    (h : ∀ x ∈ xs, caseId x ≠ id) : (xs.filter fun x => caseId x = id) = [] := by
  rw [List.filter_eq_nil_iff]
  exact fun x hx heq => h x hx (of_decide_eq_true heq)

theorem Move.good (hs : s.Distinct) (h : Good s) (hmove : Move s call s' outcome) :
    Good s' ∧ Touches s s' outcome.caseId := by
  cases hmove with
  | create c hnew hstate hpapers hrevision => exact h.create hnew hstate hpapers hrevision
  | submit old new p hold _ hmoved _ hidentity hpapers =>
    rw [Outcome.caseId, hmoved.caseId]
    exact h.submit hs hold hmoved hidentity hpapers
  | review old new a state hold _ hmoved hstate _ hcase _ hknown hpapers =>
    have hnot : state.isApproved = false := by
      rcases hstate with rfl | rfl
      · rfl
      · rfl
    rw [Outcome.caseId, hcase]
    exact h.review hs hold hmoved hnot hcase hknown hpapers
  | decide old new a t hold _ hmoved ha hpapers hready _ hcase hassessment hfingerprint hsame =>
    rw [Outcome.caseId, hcase]
    exact h.decide hs hold hmoved ha hpapers hready hcase hassessment hfingerprint hsame
  | issueQualificationKey old new t k raw hold _ hmoved hstate hnone ht htcase _ hcase hclient
      hattestation hassessment hfingerprint hstatus hsame =>
    rw [Outcome.caseId, hmoved.caseId]
    exact h.issueQualificationKey hs hold hmoved hstate hnone ht htcase hcase hclient
      hattestation hassessment hfingerprint hstatus hsame
  | redeemQualificationKey old new k redeemed hold _ hmoved hstate hk hcase _ hfields hsame =>
    have hmatch := (h.cases old hold).keys.keys
    rw [hstate] at hmatch
    have happroved : old.state.isApproved = true := by
      rw [hstate]
      rfl
    have hkeys : KeysMatch .qualificationRedeemed [redeemed.status] [] := by
      rw [hfields]
      exact ⟨rfl, rfl⟩
    rw [Outcome.caseId, hmoved.caseId]
    exact h.replaceQualificationKey hs hold hmoved happroved hk hcase (by rw [hfields])
      (by rw [hfields]) (by rw [hfields]) (by rw [hfields]) (by rw [hfields]) (by rw [hfields])
      (List.map_eq_nil_iff.mp hmatch.2) hkeys hsame
  | revokeQualificationKey old new k revoked hold _ hmoved hallowed hk hcase _ hnone hfields
      hsame =>
    rw [Outcome.caseId, hmoved.caseId]
    exact h.replaceQualificationKey hs hold hmoved (isApproved_of_revocable hallowed) hk hcase
      (by rw [hfields]) (by rw [hfields]) (by rw [hfields]) (by rw [hfields]) (by rw [hfields])
      (by rw [hfields]) (forCase_eq_nil hnone) trivial hsame
  | issueSandboxApiKey old new q k raw hold _ hmoved hstate _ hq hqcase hqstatus _ hidentity
      hqualification hstatus hsame =>
    rw [Outcome.caseId, hmoved.caseId]
    exact h.issueSandboxApiKey hs hold hmoved hstate hq hqcase hqstatus hidentity
      hqualification hstatus hsame
  | suspendSandboxApiKey old new k suspended hold _ hmoved hk hcase hstatus hfields hsame =>
    have hidentity : suspended.identity = k.identity := by
      rw [SandboxApiKeyFields.identity, hfields]
      rfl
    rw [Outcome.caseId, hmoved.caseId]
    refine h.replaceSandboxApiKey hs hold hmoved (fun happroved => happroved) hk hcase
      (by rw [hfields]) hidentity (by rw [hfields]) ?_ hsame
    intro _ hmatch
    cases hstate : old.state with
    | qualificationKeyIssued =>
      rw [hstate] at hmatch
      cases hmatch.2
    | qualificationRedeemed =>
      rw [hstate] at hmatch
      cases hmatch.2
    | sandboxApiKeyIssued =>
      rw [hstate] at hmatch
      refine ⟨hmatch.1, .inr ?_⟩
      rw [hfields]
    | _ => trivial
  | revokeSandboxApiKey old new k revoked hold _ hmoved hallowed hk hcase _ hfields hsame =>
    have hidentity : revoked.identity = k.identity := by
      rw [SandboxApiKeyFields.identity, hfields]
      rfl
    rw [Outcome.caseId, hmoved.caseId]
    exact h.replaceSandboxApiKey hs hold hmoved (fun _ => isApproved_of_revocable hallowed) hk
      hcase (by rw [hfields]) hidentity (by rw [hfields]) (fun _ _ => trivial) hsame

theorem nodup_map_append_iff {α : Type} {xs : List α} {x : α} {key : α → String}
    (h : (xs.map key).Nodup) :
    ((xs ++ [x]).map key).Nodup ↔ ∀ y ∈ xs, key y ≠ key x := by
  constructor
  · intro hnodup y hy heq
    exact Table.not_mem_of_nodup_append hnodup (heq ▸ List.mem_map_of_mem hy)
  · intro hne
    refine Table.nodup_map_append h fun hmem => ?_
    obtain ⟨y, hy, heq⟩ := List.mem_map.mp hmem
    exact hne y hy heq

theorem nodup_map_put {α : Type} {xs : List α} {x : α} {key : α → String}
    (h : (xs.map key).Nodup) : ((Table.put key xs x).map key).Nodup := by
  rw [Table.map_key_put]
  exact h

theorem Move.distinct_iff (hs : s.Distinct) (hmove : Move s call s' outcome) :
    s'.Distinct ↔ call.FreshKey s := by
  obtain ⟨hcases, hpackages, hassessments, hattestations, hqualification, hsandbox⟩ := hs
  cases hmove with
  | create c hnew _ _ _ =>
    exact iff_of_true ⟨(nodup_map_append_iff hcases).mpr hnew, hpackages, hassessments,
      hattestations, hqualification, hsandbox⟩ trivial
  | submit old new p _ _ _ hnew _ _ =>
    exact iff_of_true ⟨nodup_map_put hcases, (nodup_map_append_iff hpackages).mpr hnew,
      hassessments, hattestations, hqualification, hsandbox⟩ trivial
  | review old new a _ _ _ _ _ hnew _ _ _ _ =>
    exact iff_of_true ⟨nodup_map_put hcases, hpackages,
      (nodup_map_append_iff hassessments).mpr hnew, hattestations, hqualification, hsandbox⟩
      trivial
  | decide old new a t _ _ _ _ _ _ hnew _ _ _ _ =>
    exact iff_of_true ⟨nodup_map_put hcases, hpackages, hassessments,
      (nodup_map_append_iff hattestations).mpr hnew, hqualification, hsandbox⟩ trivial
  | issueQualificationKey old new t k _ _ _ _ _ _ _ _ hid _ _ _ _ _ _ _ =>
    constructor
    · intro h
      have hfresh := (nodup_map_append_iff hqualification).mp h.qualificationKeys
      rw [hid] at hfresh
      exact hfresh
    · intro hfresh
      refine ⟨nodup_map_put hcases, hpackages, hassessments, hattestations, ?_, hsandbox⟩
      rw [nodup_map_append_iff hqualification, hid]
      exact hfresh
  | redeemQualificationKey old new k redeemed _ _ _ _ _ _ _ _ _ =>
    exact iff_of_true ⟨nodup_map_put hcases, hpackages, hassessments, hattestations,
      nodup_map_put hqualification, hsandbox⟩ trivial
  | revokeQualificationKey old new k revoked _ _ _ _ _ _ _ _ _ _ =>
    exact iff_of_true ⟨nodup_map_put hcases, hpackages, hassessments, hattestations,
      nodup_map_put hqualification, hsandbox⟩ trivial
  | issueSandboxApiKey old new q k _ _ _ _ _ _ _ _ _ hid _ _ _ _ =>
    constructor
    · intro h
      have hfresh := (nodup_map_append_iff hsandbox).mp h.sandboxApiKeys
      rw [hid] at hfresh
      exact hfresh
    · intro hfresh
      refine ⟨nodup_map_put hcases, hpackages, hassessments, hattestations, hqualification, ?_⟩
      rw [nodup_map_append_iff hsandbox, hid]
      exact hfresh
  | suspendSandboxApiKey old new k suspended _ _ _ _ _ _ _ _ =>
    exact iff_of_true ⟨nodup_map_put hcases, hpackages, hassessments, hattestations,
      hqualification, nodup_map_put hsandbox⟩ trivial
  | revokeSandboxApiKey old new k revoked _ _ _ _ _ _ _ _ _ =>
    exact iff_of_true ⟨nodup_map_put hcases, hpackages, hassessments, hattestations,
      hqualification, nodup_map_put hsandbox⟩ trivial

theorem perform_ok :
    s.perform call = .ok (s', outcome) ↔
      s.prepare call = .ok (s', outcome) ∧ s'.validate = .ok () := by
  simp only [CaseStoreSnapshot.perform, bind_ok, pure_ok, Prod.mk.injEq]
  constructor
  · rintro ⟨⟨next, result⟩, hprepare, ⟨⟩, hvalid, rfl, rfl⟩
    exact ⟨hprepare, hvalid⟩
  · rintro ⟨hprepare, hvalid⟩
    exact ⟨(s', outcome), hprepare, (), hvalid, rfl, rfl⟩

theorem after_of_perform (h : s.perform call = .ok (s', outcome)) : s.after call = s' := by
  rw [CaseStoreSnapshot.after, h]

theorem perform_good (hs : s.Distinct) (h : Good s)
    (hperform : s.perform call = .ok (s', outcome)) :
    s'.Distinct ∧ Good s' ∧ Touches s s' outcome.caseId := by
  obtain ⟨hprepare, hvalid⟩ := perform_ok.mp hperform
  obtain ⟨hgood, htouches⟩ := (prepare_move hprepare).good hs h
  exact ⟨hgood.validate_iff.mp hvalid, hgood, htouches⟩

/-! ## Every run -/

theorem CaseStoreSnapshot.Reachable.good (h : s.Reachable) : s.Distinct ∧ Good s := by
  induction h with
  | empty =>
    refine ⟨⟨?_, ?_, ?_, ?_, ?_, ?_⟩, ⟨⟨?_, ?_, ?_, ?_, ?_⟩, ?_⟩⟩ <;> simp
  | step call _ ih =>
    rename_i s₀ _
    cases hperform : s₀.perform call with
    | error e =>
      rw [CaseStoreSnapshot.after, hperform]
      exact ih
    | ok result =>
      rw [after_of_perform hperform]
      obtain ⟨hdistinct, hgood, -⟩ := perform_good ih.1 ih.2 hperform
      exact ⟨hdistinct, hgood⟩

/-- What holds of the cases of a store and of their keys. -/
structure Lifecycle (s : CaseStoreSnapshot env) : Prop where
  one_qualification_key : (s.qualificationKeys.map (·.caseId)).Nodup
  one_sandbox_key : (s.sandboxApiKeys.map (·.caseId)).Nodup
  redeemed : ∀ k ∈ s.sandboxApiKeys, ∃ q ∈ s.qualificationKeys, q.caseId = k.caseId ∧
    q.qualificationKeyId = k.qualificationKeyId ∧ q.status = .redeemed
  approved : ∀ c ∈ s.cases, c.state.isApproved = true → Approved (s.forCase c.caseId) c
  keys : ∀ c ∈ s.cases, KeysMatch c.state ((s.forCase c.caseId).qualificationKeys.map (·.status))
    ((s.forCase c.caseId).sandboxApiKeys.map (·.status))

theorem nodup_caseIds {α : Type} {xs : List α} {caseId : α → String}
    (h : ∀ x ∈ xs, (xs.filter fun y => caseId y = caseId x).length ≤ 1) :
    (xs.map caseId).Nodup := by
  rw [List.nodup_iff_count_le_one]
  intro id
  by_cases hmem : id ∈ xs.map caseId
  · obtain ⟨x, hx, rfl⟩ := List.mem_map.mp hmem
    have hlength := h x hx
    rw [← List.countP_eq_length_filter] at hlength
    rw [List.count, List.countP_map]
    exact hlength
  · rw [List.count_eq_zero_of_not_mem hmem]
    exact Nat.zero_le 1

theorem Good.lifecycle (h : Good s) : Lifecycle s where
  one_qualification_key := by
    apply nodup_caseIds
    intro k hk
    obtain ⟨c, hc, hid⟩ := List.mem_map.mp (h.owned.qualificationKey k hk)
    rw [← hid]
    exact (h.cases c hc).keys.one
  one_sandbox_key := by
    apply nodup_caseIds
    intro k hk
    obtain ⟨c, hc, hid⟩ := List.mem_map.mp (h.owned.sandboxApiKey k hk)
    rw [← hid]
    exact (h.cases c hc).keys.one_sandbox
  redeemed k hk := by
    obtain ⟨c, hc, hid⟩ := List.mem_map.mp (h.owned.sandboxApiKey k hk)
    obtain ⟨-, q, hq, hqid, hstatus⟩ :=
      (h.cases c hc).keys.sandboxApiKey k (mem_forCase hk hid.symm)
    obtain ⟨hmem, hcase⟩ := of_mem_forCase hq
    exact ⟨q, hmem, hcase.trans hid, hqid, hstatus⟩
  approved c hc := (h.cases c hc).papers.approved
  keys c hc := (h.cases c hc).keys.keys

/-- Calls keep the lifecycle of every case, and of the calls that pass their own checks exactly those
save that issue no key under an id in use. -/
theorem reachable_lifecycle (h : s.Reachable) :
    Lifecycle s ∧ ∀ call next outcome, s.prepare call = .ok (next, outcome) →
      (s.perform call = .ok (next, outcome) ↔ call.FreshKey s) ∧
      (call.FreshKey s → s.after call = next ∧ Touches s next outcome.caseId) := by
  obtain ⟨hs, hgood⟩ := h.good
  refine ⟨hgood.lifecycle, fun call next outcome hprepare => ?_⟩
  have hmove := prepare_move hprepare
  obtain ⟨hnext, htouches⟩ := hmove.good hs hgood
  have hsaves : s.perform call = .ok (next, outcome) ↔ call.FreshKey s := by
    rw [perform_ok, hnext.validate_iff, hmove.distinct_iff hs]
    exact and_iff_right hprepare
  exact ⟨hsaves, fun hfresh => ⟨after_of_perform (hsaves.mpr hfresh), htouches⟩⟩

/-! ## Two of the services, check by check -/

section Services

open Intake

variable {env : Environment} {s next : CaseStoreSnapshot env} {c u : ConnectivityCase}
  {p : CustomerReferencePackage} {caseId actor occurredAt : String} {revision : ℤ}

theorem ConnectivityCase.advance_of_fields {target : CaseState} {changes : CaseChanges}
    (htarget : target ∈ c.state.allowedTransitions)
    (hfields : u.toCaseFields = { c.toCaseFields with
      state := target
      updatedAt := occurredAt
      revision := c.revision + 1
      customerPackageFingerprint :=
        changes.customerPackageFingerprint.getD c.customerPackageFingerprint
      readinessAssessmentId :=
        (changes.readinessAssessmentId.map Value.str).getD c.readinessAssessmentId
      integrationTaskId := (changes.integrationTaskId.map Value.str).getD c.integrationTaskId }) :
    c.advance target occurredAt changes = .ok u := by
  simp only [ConnectivityCase.advance, raiseIf_bind_ok, not_not]
  exact ⟨htarget, ConnectivityCase.make_ok.mpr hfields⟩

/-- A draft takes a package that passes the checks. -/
theorem CaseStoreSnapshot.prepare_submit_draft {request : PackageSubmissionRequest}
    (hactor : requireActor actor = .ok ()) (hc : Intake.caseById s caseId = .ok c)
    (hrevision : requireRevision c revision = .ok ()) (hstate : c.state = .draft)
    (hnew : (s.customerReferencePackages.any fun p => p.packageId = request.packageId) = false)
    (hcaseId : Market.strip caseId ≠ "") (hp : p.toPackageFields = {
      packageId := request.packageId
      caseId := caseId
      clientId := request.clientId
      schemaVersion := request.schemaVersion
      connectorId := request.connectorId
      credentialProfileId := request.credentialProfileId
      targetEnvironment := request.targetEnvironment
      targetReferenceId := request.targetReferenceId
      secretReferenceIds := request.secretReferenceIds
      dnsReference := request.dnsReference
      tlsPolicyReference := request.tlsPolicyReference
      certificateReference := request.certificateReference
      outboundAllowlistReference := request.outboundAllowlistReference
      submittedAt := request.submittedAt })
    (hidentity : validatePackageIdentity c p = .ok ()) {fingerprint : String}
    (hfingerprint : customerReferencePackageFingerprint env p = fingerprint)
    (hupdated : c.advance .customerPackageSubmitted occurredAt
      { customerPackageFingerprint := some fingerprint, readinessAssessmentId := some "" } =
        .ok u)
    (hnext : { s.replaceCase u with
      customerReferencePackages := s.customerReferencePackages ++ [p] } = next) :
    (s.prepare (.submit caseId request revision actor occurredAt)).map Prod.fst = .ok next := by
  have hdraft : ¬ c.state ∉ [CaseState.draft, .needsRemediation, .readinessApproved] := by
    simp [hstate]
  have hkept : withdrawApproval c occurredAt = .ok c := by
    simp [withdrawApproval, hstate]
  have hpackage : packageFromSubmission caseId request = .ok p := by
    simp only [packageFromSubmission, raiseIf_bind_ok]
    exact ⟨hcaseId, CustomerReferencePackage.make_ok.mpr hp⟩
  have hsubmitted : submitPackage s caseId request revision actor occurredAt =
      .ok (next, u) := by
    simp only [submitPackage, bind_ok, raiseIf_eq_ok, pure_ok]
    refine ⟨(), hactor, c, hc, (), hrevision, (), hdraft, (), by simp [hnew], p, hpackage, (),
      hidentity, c, hkept, u, ?_, by rw [hnext]⟩
    rw [hfingerprint]
    exact hupdated
  rw [CaseStoreSnapshot.prepare, hsubmitted]
  rfl

theorem CaseStoreSnapshot.prepare_review_ready {assessmentId : String} {a : ReadinessAssessment}
    {r : ConnectivityCase} (hactor : requireActor actor = .ok ()) (hc : Intake.caseById s caseId = .ok c)
    (hrevision : requireRevision c revision = .ok ())
    (hstate : c.state = .customerPackageSubmitted)
    (hnew : (s.readinessAssessments.any fun a => a.assessmentId = assessmentId) = false)
    (hp : packageForCurrentFingerprint s c = .ok p)
    (hevaluation : ((evaluateBinding env c p).blockers, (evaluateBinding env c p).remediation,
      (evaluateBinding env c p).completeness) = ([], [], completenessOf 3))
    (ha : a.toAssessmentFields = {
      assessmentId := assessmentId
      caseId := c.caseId
      customerPackageFingerprint := c.customerPackageFingerprint
      assessmentSchemaVersion := "external-connectivity-intake/v1"
      readinessStatus := "ready_for_supervisor_approval"
      missingInputCodes := []
      missingControlCodes := []
      blockerCodes := []
      remediationCodes := []
      evidenceCompleteness := .float (completenessOf 3)
      readyForSupervisorApproval := .bool true
      assessedAt := occurredAt })
    (hunder : c.advance .underAutomatedReview occurredAt = .ok r)
    (hupdated : r.advance .readyForSupervisorApproval occurredAt
      { readinessAssessmentId := some a.assessmentId } = .ok u)
    (hnext : { s.replaceCase u with
      readinessAssessments := s.readinessAssessments ++ [a] } = next) :
    (s.prepare (.review caseId assessmentId revision actor occurredAt)).map Prod.fst =
      .ok next := by
  have hreview : reviewPackage s caseId assessmentId revision actor occurredAt =
      .ok (next, a) := by
    simp only [reviewPackage, bind_ok, raiseIf_eq_ok, pure_ok]
    refine ⟨(), hactor, c, hc, (), hrevision, (), by simp [hstate], (), by simp [hnew], p, hp, ?_⟩
    obtain ⟨hblockers, hrest⟩ := Prod.mk.inj hevaluation
    obtain ⟨hremediation, hcompleteness⟩ := Prod.mk.inj hrest
    rw [hblockers, hremediation, hcompleteness]
    exact ⟨a, ReadinessAssessment.make_ok.mpr ha, r, hunder, u, hupdated, by rw [hnext]⟩
  rw [CaseStoreSnapshot.prepare, hreview]
  rfl

theorem CaseStoreSnapshot.prepare_decide {request : DecisionRequest} {a : ReadinessAssessment}
    {t : SupervisorReadinessAttestation env}
    (hactor : requireActor actor = .ok ()) (hc : Intake.caseById s caseId = .ok c)
    (hrevision : requireRevision c revision = .ok ())
    (hstate : c.state = .readyForSupervisorApproval)
    (hpackage : c.customerPackageFingerprint = request.expectedPackageFingerprint)
    (ha : currentAssessment s c = .ok a)
    (hassessed : a.customerPackageFingerprint = request.expectedPackageFingerprint)
    (hready : a.readyForSupervisorApproval.truthy = true)
    (hnew : (s.supervisorReadinessAttestations.any
      fun t => t.attestationId = request.attestationId) = false)
    (hattestation : t.toAttestationFields = {
      attestationId := request.attestationId
      caseId := c.caseId
      readinessAssessmentId := a.assessmentId
      customerPackageFingerprint := request.expectedPackageFingerprint
      decision := request.decision
      supervisorActor := actor
      reasonCode := request.reasonCode
      issuedAt := occurredAt
      expiresAt := request.expiresAt })
    (hupdated : c.advance (targetState request.decision) occurredAt = .ok u)
    (hnext : { s.replaceCase u with
      supervisorReadinessAttestations := s.supervisorReadinessAttestations ++ [t] } = next) :
    (s.prepare (.decide caseId request revision actor occurredAt)).map Prod.fst = .ok next := by
  have hdecision : recordDecision s caseId request revision actor occurredAt =
      .ok (next, t) := by
    simp only [recordDecision, bind_ok, raiseIf_eq_ok, pure_ok]
    exact ⟨(), hactor, c, hc, (), hrevision, (), by simp [hstate], (), by simp [hpackage], a, ha, (),
      by simp [hassessed, hready], (), by simp [hnew], t,
      SupervisorReadinessAttestation.make_ok.mpr hattestation, u, hupdated, by rw [hnext]⟩
  rw [CaseStoreSnapshot.prepare, hdecision]
  rfl

theorem CaseStoreSnapshot.prepare_create {request : CaseCreateRequest}
    (hactor : requireActor actor = .ok ()) (hbinding : validateCreateBinding env request = .ok ())
    (hnew : (s.cases.any fun existing => existing.caseId = caseId) = false)
    (hc : c.toCaseFields = {
      caseId := caseId
      clientId := request.clientId
      readinessCaseId := request.readinessCaseId
      integrationTaskId := .str request.integrationTaskId
      connectorId := request.connectorId
      credentialProfileId := request.credentialProfileId
      targetEnvironment := request.targetEnvironment
      state := .draft
      customerPackageFingerprint := ""
      readinessAssessmentId := .str ""
      revision := 1
      createdAt := occurredAt
      updatedAt := occurredAt }) :
    (s.prepare (.create request caseId actor occurredAt)).map Prod.fst =
      .ok { s with cases := s.cases ++ [c] } := by
  have hcreated : createCase s request caseId actor occurredAt =
      .ok ({ s with cases := s.cases ++ [c] }, c) := by
    simp only [createCase, bind_ok, raiseIf_eq_ok, pure_ok]
    exact ⟨(), hactor, (), hbinding, (), by simp [hnew], c, ConnectivityCase.make_ok.mpr hc, rfl⟩
  rw [CaseStoreSnapshot.prepare, hcreated]
  rfl

end Services

/-! ## Two keys under one id -/

theorem CaseStoreSnapshot.Reachable.next {next : CaseStoreSnapshot env} (h : s.Reachable)
    (call : Call) (hprepare : (s.prepare call).map Prod.fst = .ok next) (hfresh : call.FreshKey s) :
    next.Reachable := by
  cases hresult : s.prepare call with
  | error e =>
    rw [hresult] at hprepare
    cases hprepare
  | ok result =>
    rw [hresult] at hprepare
    obtain rfl := Except.ok.inj hprepare
    have hafter := (reachable_lifecycle h).2 call result.1 result.2 hresult
    exact (hafter.2 hfresh).1 ▸ .step call h

namespace Sample

def fromisoformat (text : String) : Option Datetime :=
  if text = "2026-01-05T09:00:00+00:00" then some ⟨63903200400000000, true⟩
  else if text = "2026-01-06T00:00:00+00:00" then some ⟨63903254400000000, true⟩
  else none

/-- The texts of the run begin differently. -/
def digests : List (String × String) :=
  [("\x7b\"case_id\":\"case-a\"",
      "e8caaa5ff54d79936ec3ceb1e6c373b7a2082acaba75f892522dddb60eaa29ee"),
    ("\x7b\"case_id\":\"case-b\"",
      "cf4af9610d6f40034ca44ddd225754df73d94fc4a0dbb9635a4ad1b6e142df53"),
    ("key-1.token-a", "9efbcad1684518467d3160f94df74ee4e1bcb2890933776c0abb7432e67a215b"),
    ("key-1.token-b", "cd6abe42758f96f693e81531600c3263e8c62feebd771a45830df05cdc92d91b")]

def startsWith (text start : String) : Bool :=
  start.toByteArray.data.toList.isPrefixOf text.toByteArray.data.toList

def environment : Environment where
  fromisoformat := fromisoformat
  lower text := String.ofList (text.toList.map Char.toLower)
  sha256 text := ((digests.find? fun entry => startsWith text entry.1).map Prod.snd).getD ""
  floats := bitFloats
  registry := [{
    connectorId := "telecom_crm_reference"
    supportedEnvironments := ["sandbox", "production"]
    scopeIds := ["crm:read", "customer:update", "customer_record:update"]
    authenticationProfileIds := ["telecom_operations_api_reference"] }]

def now : String := "2026-01-05T09:00:00+00:00"

def later : String := "2026-01-06T00:00:00+00:00"

/-- The ids of the two cases and of their records. -/
structure Names where
  caseId : String
  packageId : String
  assessmentId : String
  attestationId : String
  fingerprint : String

def first : Names :=
  ⟨"case-a", "package-a", "assessment-a", "attestation-a",
    "e8caaa5ff54d79936ec3ceb1e6c373b7a2082acaba75f892522dddb60eaa29ee"⟩

def second : Names :=
  ⟨"case-b", "package-b", "assessment-b", "attestation-b",
    "cf4af9610d6f40034ca44ddd225754df73d94fc4a0dbb9635a4ad1b6e142df53"⟩

def create (n : Names) : Call :=
  .create {
    clientId := "client-1"
    readinessCaseId := "readiness-1"
    connectorId := "telecom_crm_reference"
    credentialProfileId := "telecom_operations_api_reference" }
    n.caseId "supervisor" now

def submit (n : Names) : Call :=
  .submit n.caseId {
    packageId := n.packageId
    clientId := "client-1"
    schemaVersion := "v1"
    connectorId := "telecom_crm_reference"
    credentialProfileId := "telecom_operations_api_reference"
    targetReferenceId := "telecom_crm_reference_sandbox_target_reference"
    secretReferenceIds := ["telecom_operations_api_reference_secret_reference"]
    dnsReference := "dns-1"
    tlsPolicyReference := "tls-1"
    certificateReference := "cert-1"
    outboundAllowlistReference := "allow-1"
    submittedAt := now } 1 "supervisor" now

def review (n : Names) : Call := .review n.caseId n.assessmentId 2 "supervisor" now

def approve (n : Names) : Call :=
  .decide n.caseId {
    decision := .approved
    attestationId := n.attestationId
    expectedPackageFingerprint := n.fingerprint
    reasonCode := "reviewed"
    expiresAt := later } 4 "supervisor" now

def issue (n : Names) (token : String) : Call :=
  .issueQualificationKey n.caseId "key-1" 5 "supervisor" now later token

/-! ### The records, as the calls leave them -/

def caseFields (n : Names) (state : CaseState) (fingerprint assessmentId : String)
    (revision : ℤ) : CaseFields where
  caseId := n.caseId
  clientId := "client-1"
  readinessCaseId := "readiness-1"
  integrationTaskId := .str ""
  connectorId := "telecom_crm_reference"
  credentialProfileId := "telecom_operations_api_reference"
  targetEnvironment := "sandbox"
  state := state
  customerPackageFingerprint := fingerprint
  readinessAssessmentId := .str assessmentId
  revision := revision
  createdAt := now
  updatedAt := now

def packageFields (n : Names) : PackageFields where
  packageId := n.packageId
  caseId := n.caseId
  clientId := "client-1"
  schemaVersion := "v1"
  connectorId := "telecom_crm_reference"
  credentialProfileId := "telecom_operations_api_reference"
  targetEnvironment := "sandbox"
  targetReferenceId := "telecom_crm_reference_sandbox_target_reference"
  secretReferenceIds := ["telecom_operations_api_reference_secret_reference"]
  dnsReference := "dns-1"
  tlsPolicyReference := "tls-1"
  certificateReference := "cert-1"
  outboundAllowlistReference := "allow-1"
  submittedAt := now

def assessmentFields (n : Names) : AssessmentFields where
  assessmentId := n.assessmentId
  caseId := n.caseId
  customerPackageFingerprint := n.fingerprint
  assessmentSchemaVersion := "external-connectivity-intake/v1"
  readinessStatus := "ready_for_supervisor_approval"
  missingInputCodes := []
  missingControlCodes := []
  blockerCodes := []
  remediationCodes := []
  evidenceCompleteness := .float (.finite false oneBits)
  readyForSupervisorApproval := .bool true
  assessedAt := now

def attestationFields (n : Names) : AttestationFields where
  attestationId := n.attestationId
  caseId := n.caseId
  readinessAssessmentId := n.assessmentId
  customerPackageFingerprint := n.fingerprint
  decision := .approved
  supervisorActor := "supervisor"
  reasonCode := "reviewed"
  issuedAt := now
  expiresAt := later

def keyFields : QualificationKeyFields where
  qualificationKeyId := "key-1"
  caseId := "case-a"
  clientId := "client-1"
  attestationId := "attestation-a"
  readinessAssessmentId := "assessment-a"
  customerPackageFingerprint := first.fingerprint
  keyHash := "9efbcad1684518467d3160f94df74ee4e1bcb2890933776c0abb7432e67a215b"
  status := .issued
  issuedAt := now
  expiresAt := later
  issuedBy := "supervisor"

theorem sha256_ofList (cs : List Char) : environment.sha256 (String.ofList cs) =
    ((digests.find? fun entry => entry.1.toByteArray.data.toList.isPrefixOf
      (cs.flatMap String.utf8EncodeChar)).map Prod.snd).getD "" := by
  have hbytes : (String.ofList cs).toByteArray.data.toList = cs.flatMap String.utf8EncodeChar := by
    simp [List.utf8Encode]
  simp only [environment, startsWith, hbytes]

/-! ### The run -/

def packageA : CustomerReferencePackage := ⟨packageFields first, by decide +kernel⟩

def packageB : CustomerReferencePackage := ⟨packageFields second, by decide +kernel⟩

theorem fingerprints :
    customerReferencePackageFingerprint environment packageA = first.fingerprint ∧
      customerReferencePackageFingerprint environment packageB = second.fingerprint :=
  ⟨(sha256_ofList _).trans (by decide +kernel), (sha256_ofList _).trans (by decide +kernel)⟩

def draftA : ConnectivityCase := ⟨caseFields first .draft "" "" 1, by decide +kernel⟩

def draftB : ConnectivityCase := ⟨caseFields second .draft "" "" 1, by decide +kernel⟩

def submittedA : ConnectivityCase :=
  ⟨caseFields first .customerPackageSubmitted first.fingerprint "" 2, by decide +kernel⟩

def submittedB : ConnectivityCase :=
  ⟨caseFields second .customerPackageSubmitted second.fingerprint "" 2, by decide +kernel⟩

def drafts : CaseStoreSnapshot environment where
  cases := [draftA, draftB]

def submitted : CaseStoreSnapshot environment where
  cases := [submittedA, submittedB]
  customerReferencePackages := [packageA, packageB]

theorem reachable_submitted : submitted.Reachable := by
  have hbinding : Intake.validateCreateBinding environment {
      clientId := "client-1"
      readinessCaseId := "readiness-1"
      connectorId := "telecom_crm_reference"
      credentialProfileId := "telecom_operations_api_reference" } = .ok () := by
    decide +kernel
  have h₁ : CaseStoreSnapshot.Reachable { drafts with cases := [draftA] } := by
    refine CaseStoreSnapshot.Reachable.empty.next (create first) ?_ trivial
    exact CaseStoreSnapshot.prepare_create (c := draftA) (by decide +kernel) hbinding rfl rfl
  have h₂ : drafts.Reachable := by
    refine h₁.next (create second) ?_ trivial
    exact CaseStoreSnapshot.prepare_create (c := draftB) (by decide +kernel) hbinding
      (by decide +kernel) rfl
  have h₃ : CaseStoreSnapshot.Reachable { submitted with
      cases := [submittedA, draftB], customerReferencePackages := [packageA] } := by
    refine h₂.next (submit first) ?_ trivial
    exact CaseStoreSnapshot.prepare_submit_draft (c := draftA) (p := packageA)
      (u := submittedA) (by decide +kernel) (by decide +kernel) rfl rfl rfl
      (by decide +kernel) rfl (by decide +kernel) fingerprints.1
      (ConnectivityCase.advance_of_fields (by decide) rfl) (by decide +kernel)
  refine h₃.next (submit second) ?_ trivial
  exact CaseStoreSnapshot.prepare_submit_draft (c := draftB) (p := packageB)
    (u := submittedB) (by decide +kernel) (by decide +kernel) rfl rfl (by decide +kernel)
    (by decide +kernel) rfl (by decide +kernel) fingerprints.2
    (ConnectivityCase.advance_of_fields (by decide) rfl) (by decide +kernel)

theorem current_package {s : CaseStoreSnapshot environment} {c : ConnectivityCase}
    (hpackages : s.customerReferencePackages = [packageA, packageB])
    (hc : c.caseId = "case-a" ∧ c.customerPackageFingerprint = first.fingerprint ∨
      c.caseId = "case-b" ∧ c.customerPackageFingerprint = second.fingerprint) :
    Intake.packageForCurrentFingerprint s c =
      .ok (if c.caseId = "case-a" then packageA else packageB) := by
  have hA : packageA.caseId = "case-a" := rfl
  have hB : packageB.caseId = "case-b" := rfl
  rcases hc with ⟨hid, hfingerprint⟩ | ⟨hid, hfingerprint⟩
  · simp [Intake.packageForCurrentFingerprint, hpackages, hA, hB, hid,
      hfingerprint, fingerprints.1]
  · simp [Intake.packageForCurrentFingerprint, hpackages, hA, hB, hid,
      hfingerprint, fingerprints.2]

def underReviewA : ConnectivityCase :=
  ⟨caseFields first .underAutomatedReview first.fingerprint "" 3, by decide +kernel⟩

def underReviewB : ConnectivityCase :=
  ⟨caseFields second .underAutomatedReview second.fingerprint "" 3, by decide +kernel⟩

def reviewedA : ConnectivityCase :=
  ⟨caseFields first .readyForSupervisorApproval first.fingerprint first.assessmentId 4,
    by decide +kernel⟩

def reviewedB : ConnectivityCase :=
  ⟨caseFields second .readyForSupervisorApproval second.fingerprint second.assessmentId 4,
    by decide +kernel⟩

def assessmentA : ReadinessAssessment := ⟨assessmentFields first, by decide +kernel⟩

def assessmentB : ReadinessAssessment := ⟨assessmentFields second, by decide +kernel⟩

def reviewed : CaseStoreSnapshot environment where
  cases := [reviewedA, reviewedB]
  customerReferencePackages := [packageA, packageB]
  readinessAssessments := [assessmentA, assessmentB]

def reviewing : CaseStoreSnapshot environment :=
  { reviewed with cases := [reviewedA, submittedB], readinessAssessments := [assessmentA] }

theorem reachable_reviewed : reviewed.Reachable := by
  have h₁ : reviewing.Reachable := by
    refine reachable_submitted.next (review first) ?_ trivial
    exact CaseStoreSnapshot.prepare_review_ready (c := submittedA) (p := packageA)
      (a := assessmentA) (r := underReviewA) (u := reviewedA) (by decide +kernel)
      (by decide +kernel) rfl rfl (by decide +kernel) (current_package rfl (.inl ⟨rfl, rfl⟩))
      (by decide +kernel) rfl (ConnectivityCase.advance_of_fields (by decide) rfl)
      (ConnectivityCase.advance_of_fields (by decide) rfl) (by decide +kernel)
  refine h₁.next (review second) ?_ trivial
  exact CaseStoreSnapshot.prepare_review_ready (c := submittedB) (p := packageB)
    (a := assessmentB) (r := underReviewB) (u := reviewedB) (by decide +kernel)
    (by decide +kernel) rfl rfl (by decide +kernel) (current_package rfl (.inr ⟨rfl, rfl⟩))
    (by decide +kernel) rfl (ConnectivityCase.advance_of_fields (by decide) rfl)
    (ConnectivityCase.advance_of_fields (by decide) rfl) (by decide +kernel)

theorem later_parsed (fieldName : String) :
    Qualification.parseTime environment fieldName later = .ok 63903254400000000 := by
  rfl

theorem prepare_issue (token : String) {s : CaseStoreSnapshot environment}
    {n : Names} {c u : ConnectivityCase} {t : SupervisorReadinessAttestation environment}
    {k : QualificationKey environment} (hcaseId : Market.strip n.caseId ≠ "")
    (hc : Qualification.caseById s n.caseId = .ok c) (hrevision : c.revision = 5)
    (hstate : c.state = .readinessApproved)
    (hnone : (s.qualificationKeys.any fun k => k.caseId = c.caseId) = false)
    (ht : Qualification.currentAttestation s c now = .ok t) (hexpires : t.expiresAt = later)
    (hk : k.toQualificationKeyFields = {
      qualificationKeyId := "key-1"
      caseId := c.caseId
      clientId := c.clientId
      attestationId := t.attestationId
      readinessAssessmentId := t.readinessAssessmentId
      customerPackageFingerprint := t.customerPackageFingerprint
      keyHash := Qualification.keyHash environment (Qualification.newRawKey "key-1" token)
      status := .issued
      issuedAt := now
      expiresAt := later
      issuedBy := "supervisor" })
    (hupdated : c.advance .qualificationKeyIssued now = .ok u) :
    (s.prepare (issue n token)).map Prod.fst =
      .ok { s.replaceCase u with qualificationKeys := s.qualificationKeys ++ [k] } := by
  have hstripped : ∀ fieldName value, Market.strip value ≠ "" →
      Qualification.requireIdentifier fieldName value = .ok (Market.strip value) := by
    intro fieldName value hvalue
    simp only [Qualification.requireIdentifier, raiseIf_bind_ok, pure_ok, and_true]
    exact hvalue
  have hwindow : Qualification.requireTimeWindow environment now later = .ok () := by
    decide +kernel
  have hcase := hstripped "case_id" _ hcaseId
  have hkeyId := hstripped "qualification_key_id" "key-1" (by decide +kernel)
  have hlater := later_parsed "expires_at"
  have hattested : Qualification.parseTime environment "attestation_expires_at" t.expiresAt =
      .ok 63903254400000000 := by
    rw [hexpires]
    exact later_parsed "attestation_expires_at"
  have hactor : Qualification.requireIdentifier "actor" "supervisor" = .ok "supervisor" := by
    decide +kernel
  have hissued : Qualification.issueQualificationKey s n.caseId "key-1" 5 "supervisor" now later
      token = .ok ({ s.replaceCase u with
        qualificationKeys := s.qualificationKeys ++ [k] },
        ⟨some (Qualification.newRawKey "key-1" token), k, u⟩) := by
    simp only [Qualification.issueQualificationKey, bind_ok, raiseIf_eq_ok, pure_ok,
      Qualification.requireRevision]
    refine ⟨_, hcase, _, hkeyId, _, hactor, (), hwindow, c, hc, (), by simp [hrevision], (),
      by simp [hstate], (), by simp [hnone], t, ht, _, hlater, _, hattested, (), ?_⟩
    exact ⟨lt_irrefl _, k, QualificationKey.make_ok.mpr hk, u, hupdated, rfl⟩
  rw [issue, CaseStoreSnapshot.prepare, hissued]
  rfl

def approvedA : ConnectivityCase :=
  ⟨caseFields first .readinessApproved first.fingerprint first.assessmentId 5, by decide +kernel⟩

def approvedB : ConnectivityCase :=
  ⟨caseFields second .readinessApproved second.fingerprint second.assessmentId 5,
    by decide +kernel⟩

def attestationA : SupervisorReadinessAttestation environment :=
  ⟨attestationFields first, by decide +kernel⟩

def attestationB : SupervisorReadinessAttestation environment :=
  ⟨attestationFields second, by decide +kernel⟩

def issuedA : ConnectivityCase :=
  ⟨caseFields first .qualificationKeyIssued first.fingerprint first.assessmentId 6,
    by decide +kernel⟩

def keyA : QualificationKey environment := ⟨keyFields, by decide +kernel⟩

/-- Two cases are approved and the first of them has its key. -/
def issued : CaseStoreSnapshot environment where
  cases := [issuedA, approvedB]
  customerReferencePackages := [packageA, packageB]
  readinessAssessments := [assessmentA, assessmentB]
  supervisorReadinessAttestations := [attestationA, attestationB]
  qualificationKeys := [keyA]

theorem reachable_issued : issued.Reachable := by
  have h₁ : CaseStoreSnapshot.Reachable { reviewed with
      cases := [approvedA, reviewedB], supervisorReadinessAttestations := [attestationA] } := by
    refine reachable_reviewed.next (approve first) ?_ trivial
    exact CaseStoreSnapshot.prepare_decide (c := reviewedA) (a := assessmentA)
      (t := attestationA) (u := approvedA) (by decide +kernel) (by decide +kernel)
      rfl rfl rfl (by decide +kernel) rfl rfl rfl rfl
      (ConnectivityCase.advance_of_fields (by decide) rfl) (by decide +kernel)
  have h₂ : CaseStoreSnapshot.Reachable { issued with
      cases := [approvedA, approvedB], qualificationKeys := [] } := by
    refine h₁.next (approve second) ?_ trivial
    exact CaseStoreSnapshot.prepare_decide (c := reviewedB) (a := assessmentB)
      (t := attestationB) (u := approvedB) (by decide +kernel) (by decide +kernel)
      rfl rfl rfl (by decide +kernel) rfl rfl (by decide +kernel) rfl
      (ConnectivityCase.advance_of_fields (by decide) rfl) (by decide +kernel)
  refine h₂.next (issue first "token-a") ?_ fun _ hk => absurd hk List.not_mem_nil
  have hissued := prepare_issue "token-a" (s := { issued with
      cases := [approvedA, approvedB], qualificationKeys := [] }) (n := first)
    (c := approvedA) (t := attestationA) (k := keyA) (u := issuedA)
    (by decide +kernel) rfl rfl rfl rfl (by decide +kernel) rfl (by decide +kernel)
    (ConnectivityCase.advance_of_fields (by decide) rfl)
  exact hissued.trans (by decide +kernel)

def issuedB : ConnectivityCase :=
  ⟨caseFields second .qualificationKeyIssued second.fingerprint second.assessmentId 6,
    by decide +kernel⟩

/-- The key that the second case would get. -/
def keyB : QualificationKey environment :=
  ⟨{ keyFields with
      caseId := "case-b"
      attestationId := "attestation-b"
      readinessAssessmentId := "assessment-b"
      customerPackageFingerprint := second.fingerprint
      keyHash := "cd6abe42758f96f693e81531600c3263e8c62feebd771a45830df05cdc92d91b" },
    by decide +kernel⟩

end Sample

/-- The second case passes every check of its service and is not saved. -/
theorem not_every_call_saves :
    ¬ ∀ (env : Environment) (s : CaseStoreSnapshot env), s.Reachable →
      ∀ call next outcome, s.prepare call = .ok (next, outcome) →
        s.perform call = .ok (next, outcome) := by
  intro hclaim
  have hprepared := Sample.prepare_issue "token-b" (s := Sample.issued)
    (n := Sample.second) (c := Sample.approvedB) (t := Sample.attestationB) (k := Sample.keyB)
    (u := Sample.issuedB) (by decide +kernel) (by decide +kernel) rfl rfl (by decide +kernel)
    (by decide +kernel) rfl (by decide +kernel)
    (ConnectivityCase.advance_of_fields (by decide) rfl)
  cases hprepare : Sample.issued.prepare (Sample.issue Sample.second "token-b") with
  | error e =>
    rw [hprepare] at hprepared
    cases hprepared
  | ok result =>
    have hsaves := ((reachable_lifecycle Sample.reachable_issued).2 _ _ _ hprepare).1
    have hfresh := hsaves.mp (hclaim _ _ Sample.reachable_issued _ _ _ hprepare)
    exact hfresh Sample.keyA List.mem_cons_self rfl

/-- The store that refuses the second key keeps the lifecycle of both cases. -/
theorem issued_lifecycle :
    Lifecycle Sample.issued ∧ ∀ call next outcome,
      Sample.issued.prepare call = .ok (next, outcome) →
      (Sample.issued.perform call = .ok (next, outcome) ↔ call.FreshKey Sample.issued) ∧
      (call.FreshKey Sample.issued →
        Sample.issued.after call = next ∧ Touches Sample.issued next outcome.caseId) :=
  reachable_lifecycle Sample.reachable_issued

end MaestroKernel.Connectivity
