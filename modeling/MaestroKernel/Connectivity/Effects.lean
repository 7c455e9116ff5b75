import MaestroKernel.Connectivity.Calls

/-! # What the services prepare

One inversion for each service: where its checks pass, the next snapshot is a move of one case. -/

namespace MaestroKernel.Connectivity

open Checked JsonText Records

variable {env : Environment} {s s' : CaseStoreSnapshot env}

section Cases

variable {c new : ConnectivityCase} {target : CaseState} {updatedAt : String}
  {changes : CaseChanges}

theorem advance_allowed (h : c.advance target updatedAt changes = .ok new) :
    target ∈ c.state.allowedTransitions := by
  simp only [ConnectivityCase.advance, raiseIf_bind_ok, not_not] at h
  exact h.1

theorem moved_of_advance (h : c.advance target updatedAt changes = .ok new) :
    Moved c new target := by
  simp only [ConnectivityCase.advance, raiseIf_bind_ok, ConnectivityCase.make_ok] at h
  refine ⟨?_, ?_, ?_⟩
  · rw [h.2]
    rfl
  · rw [h.2]
    exact Int.lt_succ _
  · rw [h.2]

theorem papers_of_advance (h : c.advance target updatedAt changes = .ok new) :
    new.papers = (changes.customerPackageFingerprint.getD c.customerPackageFingerprint,
      (changes.readinessAssessmentId.map Value.str).getD c.readinessAssessmentId) := by
  simp only [ConnectivityCase.advance, raiseIf_bind_ok, ConnectivityCase.make_ok] at h
  rw [ConnectivityCase.papers, h.2]

theorem Moved.trans {c₀ c₁ c₂ : ConnectivityCase} {state₁ state₂ : CaseState}
    (h₁ : Moved c₀ c₁ state₁) (h₂ : Moved c₁ c₂ state₂) : Moved c₀ c₂ state₂ :=
  ⟨h₂.identity.trans h₁.identity, h₁.revision.trans h₂.revision, h₂.state⟩

theorem moved_of_touch {occurredAt : String} (h : Qualification.touchCase c occurredAt = .ok new) :
    Moved c new c.state ∧ new.papers = c.papers := by
  rw [Qualification.touchCase, ConnectivityCase.make_ok] at h
  refine ⟨⟨?_, ?_, ?_⟩, ?_⟩
  · rw [h]
    rfl
  · rw [h]
    exact Int.lt_succ _
  · rw [h]
  · rw [ConnectivityCase.papers, h]
    rfl

theorem Moved.caseId {old : ConnectivityCase} (h : Moved old new target) :
    new.caseId = old.caseId :=
  congrArg Identity.caseId h.identity

end Cases

/-! ## Intake -/

theorem not_any {α : Type} {xs : List α} {p : α → Bool} (h : ¬ xs.any p = true) :
    ∀ x ∈ xs, p x = false := by
  intro x hx
  rw [Bool.eq_false_iff]
  exact fun hp => h (List.any_eq_true.mpr ⟨x, hx, hp⟩)

theorem caseById_ok {caseId : String} {c : ConnectivityCase}
    (h : Intake.caseById s caseId = .ok c) : c ∈ s.cases ∧ c.caseId = caseId := by
  rw [Intake.caseById, demand_eq_ok] at h
  have hkey := Table.key_of_get? h
  exact ⟨Table.mem_of_get? h, hkey⟩

theorem create_move {request : Intake.CaseCreateRequest} {caseId actor occurredAt : String}
    {c : ConnectivityCase}
    (h : Intake.createCase s request caseId actor occurredAt = .ok (s', c)) :
    Move s (.create request caseId actor occurredAt) s' (.created c) := by
  simp only [Intake.createCase, bind_ok, raiseIf_eq_ok, pure_ok, Prod.mk.injEq,
    ConnectivityCase.make_ok] at h
  obtain ⟨_, -, _, -, _, hnew, c', hfields, rfl, rfl⟩ := h
  refine .create c' ?_ ?_ ?_ ?_
  · intro existing hmem heq
    have hne := not_any hnew existing hmem
    rw [heq, hfields] at hne
    simp at hne
  · rw [hfields]
  · rw [ConnectivityCase.papers, hfields]
  · rw [hfields]

theorem packageIdentity_ok {c : ConnectivityCase} {p : CustomerReferencePackage} {u : Unit}
    (h : Intake.validatePackageIdentity c p = .ok u) (hcase : p.caseId = c.caseId) :
    p.identity = c.identity := by
  simp only [Intake.validatePackageIdentity, raiseIf_bind_ok, raiseIf_eq_ok, ne_eq, not_not] at h
  obtain ⟨hclient, hconnector, hprofile, henvironment⟩ := h
  simp [PackageFields.identity, CaseFields.identity, hcase, hclient, hconnector, hprofile,
    henvironment]

theorem submit_move {caseId : String} {request : Intake.PackageSubmissionRequest}
    {expectedRevision : ℤ} {actor occurredAt : String} {c : ConnectivityCase}
    (h : Intake.submitPackage s caseId request expectedRevision actor occurredAt = .ok (s', c)) :
    Move s (.submit caseId request expectedRevision actor occurredAt) s' (.submitted c) := by
  simp only [Intake.submitPackage, Intake.requireRevision, Intake.packageFromSubmission, bind_ok,
    raiseIf_eq_ok, pure_ok, Prod.mk.injEq, CustomerReferencePackage.make_ok,
    ne_eq, not_not] at h
  obtain ⟨_, -, old, hfound, _, hrevision, _, -, _, hnew, p, ⟨_, -, hp⟩, _, hidentity, working,
    hworking, updated, hupdated, rfl, rfl⟩ := h
  obtain ⟨hold, hid⟩ := caseById_ok hfound
  have hpid : p.packageId = request.packageId := by rw [hp]
  have hpcase : p.caseId = old.caseId := by rw [hp, hid]
  have hmoved : Moved old updated .customerPackageSubmitted := by
    unfold Intake.withdrawApproval at hworking
    split at hworking
    · exact (moved_of_advance hworking).trans (moved_of_advance hupdated)
    · obtain rfl := Except.ok.inj hworking
      exact moved_of_advance hupdated
  refine .submit old updated p hold hrevision hmoved ?_ (packageIdentity_ok hidentity hpcase) ?_
  · intro p' hmem
    have hne := not_any hnew p' hmem
    rw [hpid]
    simpa using hne
  · exact papers_of_advance hupdated

theorem review_move {caseId assessmentId : String} {expectedRevision : ℤ}
    {actor occurredAt : String} {a : ReadinessAssessment}
    (h : Intake.reviewPackage s caseId assessmentId expectedRevision actor occurredAt =
      .ok (s', a)) :
    Move s (.review caseId assessmentId expectedRevision actor occurredAt) s' (.reviewed a) := by
  simp only [Intake.reviewPackage, Intake.requireRevision, bind_ok,
    raiseIf_eq_ok, pure_ok, Prod.mk.injEq, ReadinessAssessment.make_ok, ne_eq, not_not] at h
  obtain ⟨_, -, old, hfound, _, hrevision, _, -, _, hnew, p, hp, a, ha, underReview, hunder,
    reviewed, hreviewed, rfl, rfl⟩ := h
  obtain ⟨hold, -⟩ := caseById_ok hfound
  have hknown : old.customerPackageFingerprint ∈ s.knownFingerprints old.caseId := by
    unfold Intake.packageForCurrentFingerprint at hp
    split at hp
    · rename_i q hq
      have hmem : q ∈ [q] := List.mem_singleton_self q
      rw [← hq, List.mem_filter, Bool.and_eq_true, decide_eq_true_eq, decide_eq_true_eq] at hmem
      obtain ⟨hmem, hcase, hfingerprint⟩ := hmem
      exact List.mem_map.mpr
        ⟨q, List.mem_filter.mpr ⟨hmem, decide_eq_true hcase⟩, hfingerprint⟩
    · cases hp
  have hfingerprint : a.customerPackageFingerprint = old.customerPackageFingerprint := by rw [ha]
  have hid : a.assessmentId = assessmentId := by rw [ha]
  have hpapers := papers_of_advance hreviewed
  have hunderPapers := papers_of_advance hunder
  simp only [ConnectivityCase.papers, Option.getD_none, Option.map_none, Prod.mk.injEq]
    at hunderPapers
  refine .review old reviewed a _ hold hrevision
    ((moved_of_advance hunder).trans (moved_of_advance hreviewed)) ?_ ?_ ?_ hfingerprint ?_ ?_
  · split
    · exact .inl rfl
    · exact .inr rfl
  · intro a' hmem
    have hne := not_any hnew a' hmem
    rw [hid]
    simpa using hne
  · rw [ha]
  · rw [hfingerprint]
    exact hknown
  · rw [hpapers]
    simp [hunderPapers.1]

theorem decide_move {caseId : String} {request : Intake.DecisionRequest} {expectedRevision : ℤ}
    {actor occurredAt : String} {t : SupervisorReadinessAttestation env}
    (h : Intake.recordDecision s caseId request expectedRevision actor occurredAt = .ok (s', t)) :
    Move s (.decide caseId request expectedRevision actor occurredAt) s' (.decided t) := by
  simp only [Intake.recordDecision, Intake.requireRevision, Intake.currentAssessment, bind_ok,
    raiseIf_eq_ok, demand_eq_ok, pure_ok, Prod.mk.injEq,
    SupervisorReadinessAttestation.make_ok, ne_eq, not_not, not_or, Bool.not_eq_false] at h
  obtain ⟨_, -, old, hfound, _, hrevision, _, -, _, hexpected, a, hfind, _, ⟨hassessed, hready⟩, _,
    hnew, t, ht, decided, hdecided, rfl, rfl⟩ := h
  obtain ⟨hold, -⟩ := caseById_ok hfound
  have hlink : Value.str a.assessmentId = old.readinessAssessmentId := by
    simpa using List.find?_some hfind
  have hdecision : t.decision = request.decision := by rw [ht]
  have hid : t.attestationId = request.attestationId := by rw [ht]
  refine .decide old decided a t hold hrevision ?_ (List.mem_of_find?_eq_some hfind) ?_ hready ?_
    (by rw [ht]) (by rw [ht]) ?_ (papers_of_advance hdecided)
  · rw [hdecision]
    exact moved_of_advance hdecided
  · rw [ConnectivityCase.papers, hexpected, hassessed, hlink]
  · intro t' hmem
    have hne := not_any hnew t' hmem
    rw [hid]
    simpa using hne
  · rw [ht, hassessed]

/-! ## Qualification keys -/

theorem qualificationCase_ok {caseId : String} {c : ConnectivityCase}
    (h : Qualification.caseById s caseId = .ok c) : c ∈ s.cases ∧ c.caseId = caseId := by
  rw [Qualification.caseById, demand_eq_ok] at h
  have hkey := Table.key_of_get? h
  exact ⟨Table.mem_of_get? h, hkey⟩

theorem currentAttestation_ok {c : ConnectivityCase} {checkedAt : String}
    {t : SupervisorReadinessAttestation env}
    (h : Qualification.currentAttestation s c checkedAt = .ok t) :
    t ∈ s.supervisorReadinessAttestations ∧ t.caseId = c.caseId := by
  simp only [Qualification.currentAttestation, bind_ok, demand_eq_ok] at h
  obtain ⟨found, hselect, hlast⟩ := h
  have hmem : t ∈ found := by
    rw [← List.mem_insertionSort fun a b => a.issuedAt ≤ b.issuedAt]
    exact List.mem_of_getLast? hlast
  obtain ⟨ht, hcurrent⟩ := mem_of_select hselect hmem
  simp only [isAttestationCurrent, bind_ok, pure_ok] at hcurrent
  obtain ⟨checked, -, issued, -, expires, -, hall⟩ := hcurrent
  simp only [Bool.and_eq_true, decide_eq_true_eq] at hall
  exact ⟨ht, hall.1.1.1.1.2⟩

theorem issueQualificationKey_move {caseId keyId : String} {expectedRevision : ℤ}
    {actor occurredAt expiresAt token : String} {result : Qualification.QualificationResult env}
    (h : Qualification.issueQualificationKey s caseId keyId expectedRevision actor occurredAt
      expiresAt token = .ok (s', result)) :
    Move s (.issueQualificationKey caseId keyId expectedRevision actor occurredAt expiresAt token)
      s' (.qualification result) := by
  simp only [Qualification.issueQualificationKey, Qualification.requireRevision, bind_ok,
    raiseIf_eq_ok, pure_ok, Prod.mk.injEq, QualificationKey.make_ok, ne_eq,
    not_not, not_or] at h
  obtain ⟨_, -, _, -, actor', -, _, -, old, hfound, _, ⟨-, hrevision⟩, _, hstate, _, hnone, t, ht,
    _, -, _, -, _, -, k, hk, new, hadvance, rfl, rfl⟩ := h
  obtain ⟨hold, -⟩ := qualificationCase_ok hfound
  obtain ⟨htmem, htcase⟩ := currentAttestation_ok ht
  refine .issueQualificationKey old new t k _ hold hrevision (moved_of_advance hadvance) hstate ?_
    htmem htcase ?_ ?_ ?_ ?_ ?_ ?_ ?_ (papers_of_advance hadvance)
  · intro k' hmem
    simpa using not_any hnone k' hmem
  all_goals rw [hk]

theorem redeemQualificationKey_move {rawKey clientId redeemedBy : String} {expectedRevision : ℤ}
    {occurredAt : String} {result : Qualification.QualificationResult env}
    (h : Qualification.redeemQualificationKey s rawKey clientId redeemedBy expectedRevision
      occurredAt = .ok (s', result)) :
    Move s (.redeemQualificationKey rawKey clientId redeemedBy expectedRevision occurredAt) s'
      (.qualification result) := by
  simp only [Qualification.redeemQualificationKey, Qualification.requireRevision,
    Qualification.qualificationKeyByRawValue, bind_ok, raiseIf_eq_ok,
    demand_eq_ok, pure_ok, Prod.mk.injEq, QualificationKey.make_ok, ne_eq, not_not, not_or] at h
  obtain ⟨_, -, _, -, _, -, _, -, k, hfind, old, hfound, _, ⟨-, hrevision⟩, _, -, _, hrevoked,
    _, hredeemed, _, hexpired, _, -, _, -, _, hstate, redeemed, hfields, new, hadvance, rfl, rfl⟩ := h
  obtain ⟨hold, hid⟩ := qualificationCase_ok hfound
  have hstatus : k.status = .issued := by
    cases hk : k.status with
    | issued => rfl
    | redeemed => exact absurd hk hredeemed
    | revoked => exact absurd hk hrevoked
    | expired => exact absurd hk hexpired
  refine .redeemQualificationKey old new k redeemed hold hrevision (moved_of_advance hadvance)
    hstate (List.mem_of_find?_eq_some hfind) hid.symm hstatus ?_ (papers_of_advance hadvance)
  rw [hfields]

theorem revokeQualificationKey_move {keyId caseId : String} {expectedRevision : ℤ}
    {actor occurredAt : String} {result : Qualification.QualificationResult env}
    (h : Qualification.revokeQualificationKey s keyId caseId expectedRevision actor occurredAt =
      .ok (s', result)) :
    Move s (.revokeQualificationKey keyId caseId expectedRevision actor occurredAt) s'
      (.qualification result) := by
  simp only [Qualification.revokeQualificationKey, Qualification.requireRevision,
    Qualification.qualificationKeyById, bind_ok, raiseIf_eq_ok, demand_eq_ok,
    pure_ok, Prod.mk.injEq, QualificationKey.make_ok, ne_eq, not_not, not_or] at h
  obtain ⟨_, -, _, -, _, -, k, hfind, _, -, old, hfound, _, ⟨-, hrevision⟩, _, hstatus, _, hnone,
    revoked, hfields, new, hadvance, rfl, rfl⟩ := h
  obtain ⟨hold, hid⟩ := qualificationCase_ok hfound
  refine .revokeQualificationKey old new k revoked hold hrevision (moved_of_advance hadvance)
    (advance_allowed hadvance) (Table.mem_of_get? hfind) hid.symm hstatus ?_ ?_
    (papers_of_advance hadvance)
  · intro k' hmem
    simpa using not_any hnone k' hmem
  · rw [hfields]

/-! ## Sandbox keys -/

theorem issueSandboxApiKey_move {caseId keyId : String} {scopeIds : List String}
    {expectedRevision : ℤ} {actor occurredAt expiresAt token : String}
    {result : Qualification.SandboxResult env}
    (h : Qualification.issueSandboxApiKey s caseId keyId scopeIds expectedRevision actor occurredAt
      expiresAt token = .ok (s', result)) :
    Move s (.issueSandboxApiKey caseId keyId scopeIds expectedRevision actor occurredAt expiresAt
      token) s' (.sandbox result) := by
  simp only [Qualification.issueSandboxApiKey, Qualification.requireRevision, bind_ok,
    raiseIf_eq_ok, pure_ok, Prod.mk.injEq, SandboxApiKey.make_ok, ne_eq, not_not,
    not_or] at h
  obtain ⟨_, -, _, -, actor', -, _, -, old, hfound, _, ⟨-, hrevision⟩, _, hstate, _, hnone, q, hq,
    scopes, -, k, hk, new, hadvance, rfl, rfl⟩ := h
  obtain ⟨hold, -⟩ := qualificationCase_ok hfound
  have hqmem : q ∈ s.qualificationKeys ∧ q.caseId = old.caseId ∧ q.status = .redeemed := by
    unfold Qualification.redeemedQualificationKey at hq
    split at hq
    · rename_i q' hfilter
      obtain rfl := Except.ok.inj hq
      have hmem : q' ∈ [q'] := List.mem_singleton_self q'
      rw [← hfilter, List.mem_filter, Bool.and_eq_true, decide_eq_true_eq, decide_eq_true_eq]
        at hmem
      exact ⟨hmem.1, hmem.2.1, hmem.2.2⟩
    · cases hq
  refine .issueSandboxApiKey old new q k _ hold hrevision (moved_of_advance hadvance) hstate ?_
    hqmem.1 hqmem.2.1 hqmem.2.2 ?_ ?_ ?_ ?_ (papers_of_advance hadvance)
  · intro k' hmem
    simpa using not_any hnone k' hmem
  · rw [hk]
  · rw [hk]
    rfl
  · rw [hk]
  · rw [hk]

theorem suspendSandboxApiKey_move {keyId caseId : String} {expectedRevision : ℤ}
    {actor occurredAt : String} {result : Qualification.SandboxResult env}
    (h : Qualification.suspendSandboxApiKey s keyId caseId expectedRevision actor occurredAt =
      .ok (s', result)) :
    Move s (.suspendSandboxApiKey keyId caseId expectedRevision actor occurredAt) s'
      (.sandbox result) := by
  simp only [Qualification.suspendSandboxApiKey, Qualification.requireRevision,
    Qualification.sandboxApiKeyById, bind_ok, raiseIf_eq_ok, demand_eq_ok,
    pure_ok, Prod.mk.injEq, SandboxApiKey.make_ok, ne_eq, not_not, not_or] at h
  obtain ⟨_, -, _, -, _, -, k, hfind, _, -, old, hfound, _, ⟨-, hrevision⟩, _, hstatus, suspended,
    hfields, new, htouch, rfl, rfl⟩ := h
  obtain ⟨hold, hid⟩ := qualificationCase_ok hfound
  obtain ⟨hmoved, hsame⟩ := moved_of_touch htouch
  refine .suspendSandboxApiKey old new k suspended hold hrevision hmoved
    (Table.mem_of_get? hfind) hid.symm hstatus ?_ hsame
  rw [hfields]

theorem revokeSandboxApiKey_move {keyId caseId : String} {expectedRevision : ℤ}
    {actor occurredAt : String} {result : Qualification.SandboxResult env}
    (h : Qualification.revokeSandboxApiKey s keyId caseId expectedRevision actor occurredAt =
      .ok (s', result)) :
    Move s (.revokeSandboxApiKey keyId caseId expectedRevision actor occurredAt) s'
      (.sandbox result) := by
  simp only [Qualification.revokeSandboxApiKey, Qualification.requireRevision,
    Qualification.sandboxApiKeyById, bind_ok, raiseIf_eq_ok, demand_eq_ok,
    pure_ok, Prod.mk.injEq, SandboxApiKey.make_ok, ne_eq, not_not, not_or] at h
  obtain ⟨_, -, _, -, _, -, k, hfind, _, -, old, hfound, _, ⟨-, hrevision⟩, _, hstatus, revoked,
    hfields, new, hadvance, rfl, rfl⟩ := h
  obtain ⟨hold, hid⟩ := qualificationCase_ok hfound
  refine .revokeSandboxApiKey old new k revoked hold hrevision (moved_of_advance hadvance)
    (advance_allowed hadvance) (Table.mem_of_get? hfind) hid.symm hstatus ?_
    (papers_of_advance hadvance)
  rw [hfields]

theorem prepare_move {call : Call} {outcome : Outcome env}
    (h : s.prepare call = .ok (s', outcome)) : Move s call s' outcome := by
  cases call with
  | create request caseId actor occurredAt =>
    simp only [CaseStoreSnapshot.prepare, bind_ok, pure_ok, Prod.mk.injEq] at h
    obtain ⟨⟨_, _⟩, hservice, rfl, rfl⟩ := h
    exact create_move hservice
  | submit caseId request expectedRevision actor occurredAt =>
    simp only [CaseStoreSnapshot.prepare, bind_ok, pure_ok, Prod.mk.injEq] at h
    obtain ⟨⟨_, _⟩, hservice, rfl, rfl⟩ := h
    exact submit_move hservice
  | review caseId assessmentId expectedRevision actor occurredAt =>
    simp only [CaseStoreSnapshot.prepare, bind_ok, pure_ok, Prod.mk.injEq] at h
    obtain ⟨⟨_, _⟩, hservice, rfl, rfl⟩ := h
    exact review_move hservice
  | decide caseId request expectedRevision actor occurredAt =>
    simp only [CaseStoreSnapshot.prepare, bind_ok, pure_ok, Prod.mk.injEq] at h
    obtain ⟨⟨_, _⟩, hservice, rfl, rfl⟩ := h
    exact decide_move hservice
  | issueQualificationKey caseId keyId expectedRevision actor occurredAt expiresAt token =>
    simp only [CaseStoreSnapshot.prepare, bind_ok, pure_ok, Prod.mk.injEq] at h
    obtain ⟨⟨_, _⟩, hservice, rfl, rfl⟩ := h
    exact issueQualificationKey_move hservice
  | redeemQualificationKey rawKey clientId redeemedBy expectedRevision occurredAt =>
    simp only [CaseStoreSnapshot.prepare, bind_ok, pure_ok, Prod.mk.injEq] at h
    obtain ⟨⟨_, _⟩, hservice, rfl, rfl⟩ := h
    exact redeemQualificationKey_move hservice
  | revokeQualificationKey keyId caseId expectedRevision actor occurredAt =>
    simp only [CaseStoreSnapshot.prepare, bind_ok, pure_ok, Prod.mk.injEq] at h
    obtain ⟨⟨_, _⟩, hservice, rfl, rfl⟩ := h
    exact revokeQualificationKey_move hservice
  | issueSandboxApiKey caseId keyId scopeIds expectedRevision actor occurredAt expiresAt token =>
    simp only [CaseStoreSnapshot.prepare, bind_ok, pure_ok, Prod.mk.injEq] at h
    obtain ⟨⟨_, _⟩, hservice, rfl, rfl⟩ := h
    exact issueSandboxApiKey_move hservice
  | suspendSandboxApiKey keyId caseId expectedRevision actor occurredAt =>
    simp only [CaseStoreSnapshot.prepare, bind_ok, pure_ok, Prod.mk.injEq] at h
    obtain ⟨⟨_, _⟩, hservice, rfl, rfl⟩ := h
    exact suspendSandboxApiKey_move hservice
  | revokeSandboxApiKey keyId caseId expectedRevision actor occurredAt =>
    simp only [CaseStoreSnapshot.prepare, bind_ok, pure_ok, Prod.mk.injEq] at h
    obtain ⟨⟨_, _⟩, hservice, rfl, rfl⟩ := h
    exact revokeSandboxApiKey_move hservice

end MaestroKernel.Connectivity
