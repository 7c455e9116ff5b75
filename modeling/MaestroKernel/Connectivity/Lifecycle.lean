import MaestroKernel.Connectivity.Effects

/-! # The lifecycle of a case

A call touches the records of one case only, so the invariant is stated of a case and its records. It
gives all that a save asks for, up to the identifiers of new keys. -/

namespace MaestroKernel.Connectivity

open Checked JsonText Records

variable {env : Environment}

namespace CaseStoreSnapshot

def forCase (s : CaseStoreSnapshot env) (caseId : String) : CaseStoreSnapshot env where
  cases := s.cases.filter (·.caseId = caseId)
  customerReferencePackages := s.customerReferencePackages.filter (·.caseId = caseId)
  readinessAssessments := s.readinessAssessments.filter (·.caseId = caseId)
  supervisorReadinessAttestations := s.supervisorReadinessAttestations.filter (·.caseId = caseId)
  qualificationKeys := s.qualificationKeys.filter (·.caseId = caseId)
  sandboxApiKeys := s.sandboxApiKeys.filter (·.caseId = caseId)

/-- The revision of a case, zero before it is created. -/
def revisionOf (s : CaseStoreSnapshot env) (caseId : String) : ℤ :=
  ((s.forCase caseId).cases.head?.map (·.revision)).getD 0

def fingerprints (s : CaseStoreSnapshot env) : List String :=
  s.customerReferencePackages.map (customerReferencePackageFingerprint env)

end CaseStoreSnapshot

/-- At or past readiness approval; only a rejection closes a case. -/
def CaseState.isApproved : CaseState → Bool
  | .readinessApproved => true
  | .qualificationKeyIssued => true
  | .qualificationRedeemed => true
  | .sandboxApiKeyIssued => true
  | .sandboxAuthorized => true
  | .sandboxSuspended => true
  | .sandboxRevoked => true
  | _ => false

def KeysMatch (state : CaseState) (qualification : List QualificationKeyStatus)
    (sandbox : List SandboxApiKeyStatus) : Prop :=
  match state with
  | .qualificationKeyIssued => qualification = [.issued] ∧ sandbox = []
  | .qualificationRedeemed => qualification = [.redeemed] ∧ sandbox = []
  | .sandboxApiKeyIssued =>
    qualification = [.redeemed] ∧ (sandbox = [.issued] ∨ sandbox = [.suspended])
  | _ => True

/-- An approval of the papers of a case among its records. -/
def Approved (v : CaseStoreSnapshot env) (c : ConnectivityCase) : Prop :=
  ∃ a ∈ v.readinessAssessments, c.papers = (a.customerPackageFingerprint, .str a.assessmentId) ∧
    a.readyForSupervisorApproval.truthy = true ∧
    ∃ t ∈ v.supervisorReadinessAttestations, t.decision = .approved ∧
      t.readinessAssessmentId = a.assessmentId ∧
      t.customerPackageFingerprint = a.customerPackageFingerprint

/-- The papers among the records of a case. -/
structure PapersGood (v : CaseStoreSnapshot env) (c : ConnectivityCase) : Prop where
  package : ∀ p ∈ v.customerReferencePackages, p.identity = c.identity
  assessment : ∀ a ∈ v.readinessAssessments, a.customerPackageFingerprint ∈ v.fingerprints
  attestation : ∀ t ∈ v.supervisorReadinessAttestations, ∃ a ∈ v.readinessAssessments,
    a.assessmentId = t.readinessAssessmentId ∧
      a.customerPackageFingerprint = t.customerPackageFingerprint
  fingerprint : c.customerPackageFingerprint ≠ "" →
    c.customerPackageFingerprint ∈ v.fingerprints
  link : c.readinessAssessmentId.truthy = true → ∃ a ∈ v.readinessAssessments,
    c.readinessAssessmentId = .str a.assessmentId
  approved : c.state.isApproved = true → Approved v c

/-- The keys among the records of a case. -/
structure KeysGood (v : CaseStoreSnapshot env) (c : ConnectivityCase) : Prop where
  one : v.qualificationKeys.length ≤ 1
  qualificationKey : ∀ k ∈ v.qualificationKeys, k.clientId = c.clientId ∧
    ∃ t ∈ v.supervisorReadinessAttestations, t.attestationId = k.attestationId ∧
      t.readinessAssessmentId = k.readinessAssessmentId ∧
      t.customerPackageFingerprint = k.customerPackageFingerprint
  one_sandbox : v.sandboxApiKeys.length ≤ 1
  sandboxApiKey : ∀ k ∈ v.sandboxApiKeys, k.identity = c.identity ∧
    ∃ q ∈ v.qualificationKeys, q.qualificationKeyId = k.qualificationKeyId ∧
      q.status = .redeemed
  keys : KeysMatch c.state (v.qualificationKeys.map (·.status)) (v.sandboxApiKeys.map (·.status))

structure CaseGood (v : CaseStoreSnapshot env) (c : ConnectivityCase) : Prop where
  papers : PapersGood v c
  keys : KeysGood v c

/-- Every record belongs to a case. -/
structure Owned (s : CaseStoreSnapshot env) : Prop where
  package : ∀ p ∈ s.customerReferencePackages, p.caseId ∈ s.cases.map (·.caseId)
  assessment : ∀ a ∈ s.readinessAssessments, a.caseId ∈ s.cases.map (·.caseId)
  attestation : ∀ t ∈ s.supervisorReadinessAttestations, t.caseId ∈ s.cases.map (·.caseId)
  qualificationKey : ∀ k ∈ s.qualificationKeys, k.caseId ∈ s.cases.map (·.caseId)
  sandboxApiKey : ∀ k ∈ s.sandboxApiKeys, k.caseId ∈ s.cases.map (·.caseId)

/-- The invariant of the store, next to distinct identifiers. -/
structure Good (s : CaseStoreSnapshot env) : Prop where
  owned : Owned s
  cases : ∀ c ∈ s.cases, CaseGood (s.forCase c.caseId) c

/-! ## The invariant and validation -/

section Linked

variable {s : CaseStoreSnapshot env}

theorem mem_forCase {α : Type} {xs : List α} {caseId : α → String} {x : α} (h : x ∈ xs) {id : String}
    (hid : caseId x = id) : x ∈ xs.filter fun y => caseId y = id :=
  List.mem_filter.mpr ⟨h, decide_eq_true hid⟩

theorem of_mem_forCase {α : Type} {xs : List α} {caseId : α → String} {x : α} {id : String}
    (h : x ∈ xs.filter fun y => caseId y = id) : x ∈ xs ∧ caseId x = id := by
  obtain ⟨hmem, hid⟩ := List.mem_filter.mp h
  exact ⟨hmem, of_decide_eq_true hid⟩

theorem Good.linked (h : Good s) : s.Linked where
  package p hp := by
    obtain ⟨c, hc, hid⟩ := List.mem_map.mp (h.owned.package p hp)
    have hidentity := (h.cases c hc).papers.package p (mem_forCase hp hid.symm)
    simp only [PackageFields.identity, CaseFields.identity, Identity.mk.injEq] at hidentity
    obtain ⟨-, hclient, hconnector, hprofile, henvironment⟩ := hidentity
    exact ⟨c, hc, hid, hclient, hconnector, hprofile, henvironment⟩
  assessment a ha := by
    obtain ⟨c, hc, hid⟩ := List.mem_map.mp (h.owned.assessment a ha)
    refine ⟨⟨c, hc, hid⟩, ?_⟩
    rw [← hid]
    exact (h.cases c hc).papers.assessment a (mem_forCase ha hid.symm)
  attestation t ht := by
    obtain ⟨c, hc, hid⟩ := List.mem_map.mp (h.owned.attestation t ht)
    obtain ⟨a, ha, hassessment, hfingerprint⟩ :=
      (h.cases c hc).papers.attestation t (mem_forCase ht hid.symm)
    have hknown := (h.cases c hc).papers.assessment a ha
    obtain ⟨hmem, hcase⟩ := of_mem_forCase ha
    refine ⟨⟨c, hc, hid⟩, ⟨a, hmem, hassessment, hcase.trans hid, hfingerprint⟩, ?_⟩
    rw [← hid, ← hfingerprint]
    exact hknown
  package_known c hc hne := (h.cases c hc).papers.fingerprint hne
  assessment_known c hc hset := by
    obtain ⟨a, ha, hlink⟩ := (h.cases c hc).papers.link hset
    obtain ⟨hmem, hcase⟩ := of_mem_forCase ha
    exact ⟨a, hmem, hlink, hcase⟩
  qualificationKey k hk := by
    obtain ⟨c, hc, hid⟩ := List.mem_map.mp (h.owned.qualificationKey k hk)
    obtain ⟨hclient, t, ht, hattestation, hassessment, hfingerprint⟩ :=
      (h.cases c hc).keys.qualificationKey k (mem_forCase hk hid.symm)
    obtain ⟨hmem, hcase⟩ := of_mem_forCase ht
    exact ⟨⟨c, hc, hid, hclient⟩, t, hmem, hattestation, hcase.trans hid, hassessment,
      hfingerprint⟩
  sandboxApiKey k hk := by
    obtain ⟨c, hc, hid⟩ := List.mem_map.mp (h.owned.sandboxApiKey k hk)
    obtain ⟨hidentity, q, hq, hqid, -⟩ :=
      (h.cases c hc).keys.sandboxApiKey k (mem_forCase hk hid.symm)
    simp only [SandboxApiKeyFields.identity, CaseFields.identity, Identity.mk.injEq] at hidentity
    obtain ⟨-, hclient, hconnector, hprofile, henvironment⟩ := hidentity
    obtain ⟨hmem, hcase⟩ := of_mem_forCase hq
    exact ⟨⟨c, hc, hid, hclient, hconnector, hprofile, henvironment⟩, q, hmem, hqid,
      hcase.trans hid⟩

theorem Good.validate_iff (h : Good s) : s.validate = .ok () ↔ s.Distinct := by
  rw [CaseStoreSnapshot.validate_eq_ok]
  exact and_iff_left h.linked

end Linked

section Frame

variable {s s' : CaseStoreSnapshot env} {old new : ConnectivityCase} {id : String}

theorem filter_append_of_ne {α : Type} {xs : List α} {x : α} {caseId : α → String}
    (h : caseId x ≠ id) :
    ((xs ++ [x]).filter fun y => caseId y = id) = xs.filter fun y => caseId y = id := by
  rw [List.filter_append, List.filter_cons_of_neg (by simpa using h), List.filter_nil,
    List.append_nil]

theorem filter_append_of_eq {α : Type} {xs : List α} {x : α} {caseId : α → String}
    (h : caseId x = id) :
    ((xs ++ [x]).filter fun y => caseId y = id) = (xs.filter fun y => caseId y = id) ++ [x] := by
  rw [List.filter_append, List.filter_cons_of_pos (by simpa using h), List.filter_nil]

theorem cases_of_ne (hid : new.caseId ≠ id) :
    ((s.replaceCase new).cases.filter fun c => c.caseId = id) =
      s.cases.filter fun c => c.caseId = id := by
  apply filter_put_of_false
  · intro c _ hc
    rw [decide_eq_false_iff_not]
    exact fun heq => hid (hc.symm.trans heq)
  · rw [decide_eq_false_iff_not]
    exact hid

theorem cases_of_eq (hs : s.Distinct) (hold : old ∈ s.cases) (hid : new.caseId = old.caseId) :
    ((s.replaceCase new).cases.filter fun c => c.caseId = old.caseId) = [new] := by
  have hput : ((s.replaceCase new).cases.filter fun c => c.caseId = old.caseId) =
      Table.put (·.caseId) (s.cases.filter fun c => c.caseId = old.caseId) new := by
    apply filter_put
    intro c _ hc
    rw [hc, hid]
  rw [hput, filter_key_eq_singleton hs.cases hold]
  exact put_singleton hid.symm

end Frame

/-! ## What a move keeps -/

section Kept

variable {v v' : CaseStoreSnapshot env} {old new : ConnectivityCase}

theorem Approved.of_same (h : Approved v old)
    (hassessments : v'.readinessAssessments = v.readinessAssessments)
    (hattestations : ∀ t ∈ v.supervisorReadinessAttestations,
      t ∈ v'.supervisorReadinessAttestations) (hpapers : new.papers = old.papers) :
    Approved v' new := by
  obtain ⟨a, ha, hcase, hready, t, ht, hrest⟩ := h
  exact ⟨a, hassessments ▸ ha, hpapers.trans hcase, hready, t, hattestations t ht, hrest⟩

theorem PapersGood.of_same (h : PapersGood v old)
    (hpackages : v'.customerReferencePackages = v.customerReferencePackages)
    (hassessments : v'.readinessAssessments = v.readinessAssessments)
    (hattestations : v'.supervisorReadinessAttestations = v.supervisorReadinessAttestations)
    (hidentity : new.identity = old.identity) (hpapers : new.papers = old.papers)
    (happroved : new.state.isApproved = true → old.state.isApproved = true) :
    PapersGood v' new := by
  obtain ⟨hfingerprint, hlink⟩ := Prod.mk.inj hpapers
  have hknown : v'.fingerprints = v.fingerprints := by
    rw [CaseStoreSnapshot.fingerprints, hpackages, CaseStoreSnapshot.fingerprints]
  refine ⟨?_, ?_, ?_, ?_, ?_, ?_⟩
  · intro p hp
    rw [hidentity]
    exact h.package p (hpackages ▸ hp)
  · intro a ha
    rw [hknown]
    exact h.assessment a (hassessments ▸ ha)
  · intro t ht
    rw [hassessments]
    exact h.attestation t (hattestations ▸ ht)
  · rw [hfingerprint, hknown]
    exact h.fingerprint
  · rw [hlink, hassessments]
    exact h.link
  · intro hstate
    exact (h.approved (happroved hstate)).of_same hassessments (fun t ht => hattestations ▸ ht)
      hpapers

theorem KeysGood.of_same (h : KeysGood v old)
    (hqualification : v'.qualificationKeys = v.qualificationKeys)
    (hsandbox : v'.sandboxApiKeys = v.sandboxApiKeys)
    (hattestations : ∀ t ∈ v.supervisorReadinessAttestations,
      t ∈ v'.supervisorReadinessAttestations) (hidentity : new.identity = old.identity)
    (hkeys : KeysMatch new.state (v.qualificationKeys.map (·.status))
      (v.sandboxApiKeys.map (·.status))) : KeysGood v' new := by
  have hclient : new.clientId = old.clientId := congrArg Identity.clientId hidentity
  refine ⟨?_, ?_, ?_, ?_, ?_⟩
  · rw [hqualification]
    exact h.one
  · intro k hk
    obtain ⟨hkclient, t, ht, hrest⟩ := h.qualificationKey k (hqualification ▸ hk)
    exact ⟨hkclient.trans hclient.symm, t, hattestations t ht, hrest⟩
  · rw [hsandbox]
    exact h.one_sandbox
  · intro k hk
    rw [hidentity, hqualification]
    exact h.sandboxApiKey k (hsandbox ▸ hk)
  · rw [hqualification, hsandbox]
    exact hkeys

theorem KeysGood.of_qualificationKey {k new' : QualificationKey env} (h : KeysGood v old)
    (hold : v.qualificationKeys = [k]) (hnew : v'.qualificationKeys = [new'])
    (hsandbox : v'.sandboxApiKeys = [])
    (hattestations : v'.supervisorReadinessAttestations = v.supervisorReadinessAttestations)
    (hidentity : new.identity = old.identity) (hclient : new'.clientId = k.clientId)
    (hattestation : new'.attestationId = k.attestationId)
    (hassessment : new'.readinessAssessmentId = k.readinessAssessmentId)
    (hfingerprint : new'.customerPackageFingerprint = k.customerPackageFingerprint)
    (hkeys : KeysMatch new.state [new'.status] []) : KeysGood v' new := by
  have hcase : new.clientId = old.clientId := congrArg Identity.clientId hidentity
  refine ⟨?_, ?_, ?_, ?_, ?_⟩
  · rw [hnew]
    exact le_rfl
  · intro key hkey
    rw [hnew, List.mem_singleton] at hkey
    subst hkey
    rw [hclient, hattestation, hassessment, hfingerprint, hcase, hattestations]
    exact h.qualificationKey k (by rw [hold]; exact List.mem_singleton_self k)
  · rw [hsandbox]
    exact Nat.zero_le 1
  · rw [hsandbox]
    intro key hkey
    cases hkey
  · rw [hnew, hsandbox]
    exact hkeys

/-- The sandbox key of the case is replaced by one of the same terms. -/
theorem KeysGood.of_sandboxApiKey {k new' : SandboxApiKey env} (h : KeysGood v old)
    (hold : v.sandboxApiKeys = [k]) (hnew : v'.sandboxApiKeys = [new'])
    (hqualification : v'.qualificationKeys = v.qualificationKeys)
    (hattestations : v'.supervisorReadinessAttestations = v.supervisorReadinessAttestations)
    (hidentity : new.identity = old.identity) (hterms : new'.identity = k.identity)
    (hlink : new'.qualificationKeyId = k.qualificationKeyId)
    (hkeys : KeysMatch new.state (v.qualificationKeys.map (·.status)) [new'.status]) :
    KeysGood v' new := by
  have hcase : new.clientId = old.clientId := congrArg Identity.clientId hidentity
  refine ⟨?_, ?_, ?_, ?_, ?_⟩
  · rw [hqualification]
    exact h.one
  · intro key hkey
    rw [hqualification] at hkey
    rw [hcase, hattestations]
    exact h.qualificationKey key hkey
  · rw [hnew]
    exact le_rfl
  · intro key hkey
    rw [hnew, List.mem_singleton] at hkey
    subst hkey
    rw [hterms, hlink, hidentity, hqualification]
    exact h.sandboxApiKey k (by rw [hold]; exact List.mem_singleton_self k)
  · rw [hnew, hqualification]
    exact hkeys

end Kept

/-! ## One move -/

/-- One case moves to a later revision; the other cases and their records stay. -/
structure Touches (s s' : CaseStoreSnapshot env) (caseId : String) : Prop where
  other : ∀ id, id ≠ caseId → s'.forCase id = s.forCase id
  revision : s.revisionOf caseId < s'.revisionOf caseId

section Steps

variable {s s' : CaseStoreSnapshot env} {old new : ConnectivityCase}

theorem forCase_congr {id : String}
    (hcases : (s'.cases.filter fun c => c.caseId = id) = s.cases.filter fun c => c.caseId = id)
    (hpackages : (s'.customerReferencePackages.filter fun p => p.caseId = id) =
      s.customerReferencePackages.filter fun p => p.caseId = id)
    (hassessments : (s'.readinessAssessments.filter fun a => a.caseId = id) =
      s.readinessAssessments.filter fun a => a.caseId = id)
    (hattestations : (s'.supervisorReadinessAttestations.filter fun t => t.caseId = id) =
      s.supervisorReadinessAttestations.filter fun t => t.caseId = id)
    (hqualification : (s'.qualificationKeys.filter fun k => k.caseId = id) =
      s.qualificationKeys.filter fun k => k.caseId = id)
    (hsandbox : (s'.sandboxApiKeys.filter fun k => k.caseId = id) =
      s.sandboxApiKeys.filter fun k => k.caseId = id) : s'.forCase id = s.forCase id := by
  rw [CaseStoreSnapshot.forCase, hcases, hpackages, hassessments, hattestations, hqualification,
    hsandbox, CaseStoreSnapshot.forCase]

theorem Owned.of_tables (hcases : s'.cases.map (·.caseId) = s.cases.map (·.caseId))
    (hpackages : ∀ p ∈ s'.customerReferencePackages, p.caseId ∈ s.cases.map (·.caseId))
    (hassessments : ∀ a ∈ s'.readinessAssessments, a.caseId ∈ s.cases.map (·.caseId))
    (hattestations : ∀ t ∈ s'.supervisorReadinessAttestations,
      t.caseId ∈ s.cases.map (·.caseId))
    (hqualification : ∀ k ∈ s'.qualificationKeys, k.caseId ∈ s.cases.map (·.caseId))
    (hsandbox : ∀ k ∈ s'.sandboxApiKeys, k.caseId ∈ s.cases.map (·.caseId)) : Owned s' := by
  rw [← hcases] at hpackages hassessments hattestations hqualification hsandbox
  exact ⟨hpackages, hassessments, hattestations, hqualification, hsandbox⟩

/-- A move of a case that exists. -/
theorem Good.replace {state : CaseState} (hs : s.Distinct) (h : Good s) (hold : old ∈ s.cases)
    (hmoved : Moved old new state) (hcases : s'.cases = (s.replaceCase new).cases)
    (hother : ∀ id, id ≠ old.caseId → s'.forCase id = s.forCase id)
    (hpapers : PapersGood (s'.forCase old.caseId) new)
    (hkeys : KeysGood (s'.forCase old.caseId) new)
    (howned : s'.cases.map (·.caseId) = s.cases.map (·.caseId) → Owned s') :
    Good s' ∧ Touches s s' old.caseId := by
  have hid := hmoved.caseId
  have hmap : s'.cases.map (·.caseId) = s.cases.map (·.caseId) := by
    rw [hcases]
    exact Table.map_key_put _ _
  refine ⟨⟨howned hmap, ?_⟩, hother, ?_⟩
  · intro c hc
    rw [hcases] at hc
    rcases Table.mem_put_cases hc with rfl | ⟨hmem, hne⟩
    · rw [hid]
      exact ⟨hpapers, hkeys⟩
    · rw [hother c.caseId (hid ▸ hne)]
      exact h.cases c hmem
  · have hbefore : (s.forCase old.caseId).cases = [old] := filter_key_eq_singleton hs.cases hold
    have hafter : (s'.forCase old.caseId).cases = [new] := by
      rw [CaseStoreSnapshot.forCase, hcases]
      exact cases_of_eq hs hold hid
    rw [CaseStoreSnapshot.revisionOf, CaseStoreSnapshot.revisionOf, hbefore, hafter]
    exact hmoved.revision

theorem mem_caseIds (hold : old ∈ s.cases) {id : String} (hid : id = old.caseId) :
    id ∈ s.cases.map (·.caseId) :=
  List.mem_map.mpr ⟨old, hold, hid.symm⟩

theorem Good.create {c : ConnectivityCase} (h : Good s)
    (hnew : ∀ c' ∈ s.cases, c'.caseId ≠ c.caseId) (hstate : c.state = .draft)
    (hpapers : c.papers = ("", .str "")) (hrevision : c.revision = 1) :
    Good { s with cases := s.cases ++ [c] } ∧
      Touches s { s with cases := s.cases ++ [c] } c.caseId := by
  have hunused : c.caseId ∉ s.cases.map (·.caseId) := by
    intro hmem
    obtain ⟨c', hc', hid⟩ := List.mem_map.mp hmem
    exact hnew c' hc' hid
  have hother : ∀ id, id ≠ c.caseId →
      CaseStoreSnapshot.forCase { s with cases := s.cases ++ [c] } id = s.forCase id :=
    fun id hne => forCase_congr (filter_append_of_ne hne.symm) rfl rfl rfl rfl rfl
  have hempty : ∀ {α : Type} {xs : List α} {caseId : α → String},
      (∀ x ∈ xs, caseId x ∈ s.cases.map (·.caseId)) →
        (xs.filter fun x => caseId x = c.caseId) = [] := by
    intro α xs caseId hxs
    rw [List.filter_eq_nil_iff]
    intro x hx heq
    exact hunused (of_decide_eq_true heq ▸ hxs x hx)
  obtain ⟨hfingerprint, hlink⟩ := Prod.mk.inj hpapers
  have hbefore : (s.cases.filter fun c' => c'.caseId = c.caseId) = [] :=
    hempty fun c' hc' => List.mem_map_of_mem hc'
  have hcase : CaseGood (CaseStoreSnapshot.forCase { s with cases := s.cases ++ [c] } c.caseId)
      c := by
    have hp := hempty h.owned.package
    have ha := hempty h.owned.assessment
    have ht := hempty h.owned.attestation
    have hq := hempty h.owned.qualificationKey
    have hk := hempty h.owned.sandboxApiKey
    refine ⟨⟨?_, ?_, ?_, ?_, ?_, ?_⟩, ⟨?_, ?_, ?_, ?_, ?_⟩⟩
    · simp [CaseStoreSnapshot.forCase, hp]
    · simp [CaseStoreSnapshot.forCase, ha]
    · simp [CaseStoreSnapshot.forCase, ht]
    · exact fun hne => absurd hfingerprint hne
    · rw [hlink]
      intro htrue
      cases htrue
    · rw [hstate]
      intro htrue
      cases htrue
    · simp [CaseStoreSnapshot.forCase, hq]
    · simp [CaseStoreSnapshot.forCase, hq]
    · simp [CaseStoreSnapshot.forCase, hk]
    · simp [CaseStoreSnapshot.forCase, hk]
    · rw [hstate]
      trivial
  refine ⟨⟨?_, ?_⟩, hother, ?_⟩
  · have hsub : ∀ {id : String}, id ∈ s.cases.map (·.caseId) →
        id ∈ (s.cases ++ [c]).map (·.caseId) := by
      intro id hid
      rw [List.map_append]
      exact List.mem_append_left _ hid
    exact ⟨fun p hp => hsub (h.owned.package p hp), fun a ha => hsub (h.owned.assessment a ha),
      fun t ht => hsub (h.owned.attestation t ht),
      fun k hk => hsub (h.owned.qualificationKey k hk),
      fun k hk => hsub (h.owned.sandboxApiKey k hk)⟩
  · intro c' hc'
    rcases List.mem_append.mp hc' with hold | hlast
    · rw [hother c'.caseId (hnew c' hold)]
      exact h.cases c' hold
    · obtain rfl := List.mem_singleton.mp hlast
      exact hcase
  · have hafter : ((s.cases ++ [c]).filter fun c' => c'.caseId = c.caseId) = [c] := by
      rw [filter_append_of_eq rfl, hbefore, List.nil_append]
    simp only [CaseStoreSnapshot.revisionOf, CaseStoreSnapshot.forCase, hbefore, hafter]
    rw [List.head?_cons, Option.map_some, Option.getD_some, hrevision]
    exact Int.zero_lt_one

theorem keysMatch_of_not_approved {state : CaseState} (h : state.isApproved = false)
    (qualification : List QualificationKeyStatus) (sandbox : List SandboxApiKeyStatus) :
    KeysMatch state qualification sandbox := by
  cases state with
  | qualificationKeyIssued => cases h
  | qualificationRedeemed => cases h
  | sandboxApiKeyIssued => cases h
  | _ => trivial

theorem isApproved_of_revocable {state : CaseState}
    (h : CaseState.sandboxRevoked ∈ state.allowedTransitions) : state.isApproved = true := by
  cases state <;> simp_all [CaseState.allowedTransitions, CaseState.isApproved]

theorem Good.submit {p : CustomerReferencePackage} (hs : s.Distinct) (h : Good s)
    (hold : old ∈ s.cases) (hmoved : Moved old new .customerPackageSubmitted)
    (hidentity : p.identity = old.identity)
    (hpapers : new.papers = (customerReferencePackageFingerprint env p, .str "")) :
    Good { s.replaceCase new with
        customerReferencePackages := s.customerReferencePackages ++ [p] } ∧
      Touches s { s.replaceCase new with
        customerReferencePackages := s.customerReferencePackages ++ [p] } old.caseId := by
  have hcase : p.caseId = old.caseId := congrArg Identity.caseId hidentity
  have hgood := h.cases old hold
  obtain ⟨hfingerprint, hlink⟩ := Prod.mk.inj hpapers
  have hpackages : ((s.customerReferencePackages ++ [p]).filter fun q => q.caseId = old.caseId) =
      (s.forCase old.caseId).customerReferencePackages ++ [p] := filter_append_of_eq hcase
  refine h.replace hs hold hmoved rfl ?_ ⟨?_, ?_, ?_, ?_, ?_, ?_⟩ ?_ ?_
  · intro id hne
    exact forCase_congr (cases_of_ne (hmoved.caseId ▸ hne.symm))
      (filter_append_of_ne (hcase ▸ hne.symm)) rfl rfl rfl rfl
  · simp only [CaseStoreSnapshot.forCase, hpackages]
    apply Table.forall_append
    · rw [hmoved.identity]
      exact hgood.papers.package
    · exact hidentity.trans hmoved.identity.symm
  · intro a ha
    simp only [CaseStoreSnapshot.fingerprints, CaseStoreSnapshot.forCase, hpackages, List.map_append]
    exact List.mem_append_left _ (hgood.papers.assessment a ha)
  · exact hgood.papers.attestation
  · intro _
    simp only [CaseStoreSnapshot.fingerprints, CaseStoreSnapshot.forCase, hpackages, List.map_append,
      hfingerprint]
    exact List.mem_append_right _ (List.mem_singleton_self _)
  · rw [hlink]
    intro htrue
    cases htrue
  · rw [hmoved.state]
    intro htrue
    cases htrue
  · refine hgood.keys.of_same rfl rfl (fun t ht => ht) hmoved.identity ?_
    rw [hmoved.state]
    trivial
  · exact fun hcases => .of_tables hcases
      (Table.forall_append h.owned.package (mem_caseIds hold hcase)) h.owned.assessment
      h.owned.attestation h.owned.qualificationKey h.owned.sandboxApiKey

theorem Good.review {a : ReadinessAssessment} {state : CaseState} (hs : s.Distinct) (h : Good s)
    (hold : old ∈ s.cases) (hmoved : Moved old new state) (hstate : state.isApproved = false)
    (hcase : a.caseId = old.caseId)
    (hknown : a.customerPackageFingerprint ∈ s.knownFingerprints old.caseId)
    (hpapers : new.papers = (old.customerPackageFingerprint, .str a.assessmentId)) :
    Good { s.replaceCase new with readinessAssessments := s.readinessAssessments ++ [a] } ∧
      Touches s { s.replaceCase new with readinessAssessments := s.readinessAssessments ++ [a] }
        old.caseId := by
  have hgood := h.cases old hold
  obtain ⟨hnewFingerprint, hlink⟩ := Prod.mk.inj hpapers
  have hassessments : ((s.readinessAssessments ++ [a]).filter fun b => b.caseId = old.caseId) =
      (s.forCase old.caseId).readinessAssessments ++ [a] := filter_append_of_eq hcase
  refine h.replace hs hold hmoved rfl ?_ ⟨?_, ?_, ?_, ?_, ?_, ?_⟩ ?_ ?_
  · intro id hne
    exact forCase_congr (cases_of_ne (hmoved.caseId ▸ hne.symm)) rfl
      (filter_append_of_ne (hcase ▸ hne.symm)) rfl rfl rfl
  · rw [hmoved.identity]
    exact hgood.papers.package
  · simp only [CaseStoreSnapshot.forCase, hassessments]
    exact Table.forall_append hgood.papers.assessment hknown
  · intro t ht
    obtain ⟨b, hb, hrest⟩ := hgood.papers.attestation t ht
    simp only [CaseStoreSnapshot.forCase, hassessments]
    exact ⟨b, List.mem_append_left _ hb, hrest⟩
  · rw [hnewFingerprint]
    exact hgood.papers.fingerprint
  · intro _
    simp only [CaseStoreSnapshot.forCase, hassessments]
    exact ⟨a, List.mem_append_right _ (List.mem_singleton_self a), hlink⟩
  · rw [hmoved.state, hstate]
    intro htrue
    cases htrue
  · refine hgood.keys.of_same rfl rfl (fun t ht => ht) hmoved.identity ?_
    rw [hmoved.state]
    exact keysMatch_of_not_approved hstate _ _
  · exact fun hcases => .of_tables hcases h.owned.package
      (Table.forall_append h.owned.assessment (mem_caseIds hold hcase)) h.owned.attestation
      h.owned.qualificationKey h.owned.sandboxApiKey

theorem Good.decide {a : ReadinessAssessment} {t : SupervisorReadinessAttestation env}
    (hs : s.Distinct) (h : Good s) (hold : old ∈ s.cases)
    (hmoved : Moved old new (Intake.targetState t.decision)) (ha : a ∈ s.readinessAssessments)
    (hpapers : old.papers = (a.customerPackageFingerprint, .str a.assessmentId))
    (hready : a.readyForSupervisorApproval.truthy = true) (hcase : t.caseId = old.caseId)
    (hassessment : t.readinessAssessmentId = a.assessmentId)
    (hfingerprint : t.customerPackageFingerprint = a.customerPackageFingerprint)
    (hsame : new.papers = old.papers) :
    Good { s.replaceCase new with
        supervisorReadinessAttestations := s.supervisorReadinessAttestations ++ [t] } ∧
      Touches s { s.replaceCase new with
        supervisorReadinessAttestations := s.supervisorReadinessAttestations ++ [t] }
        old.caseId := by
  have hgood := h.cases old hold
  obtain ⟨hnewFingerprint, hlink⟩ := Prod.mk.inj hsame
  have hmem : a ∈ (s.forCase old.caseId).readinessAssessments := by
    -- The assessment that the case links to is one of its own.
    have hlinked := (Prod.mk.inj hpapers).2
    have htrue : old.readinessAssessmentId.truthy = true := by
      rw [hlinked, Value.truthy_str, decide_eq_true_eq]
      exact a.assessmentId_ne
    obtain ⟨b, hb, hblink⟩ := hgood.papers.link htrue
    have hbid : b.assessmentId = a.assessmentId := by
      rw [hlinked] at hblink
      exact (Value.str.inj hblink).symm
    rwa [List.inj_on_of_nodup_map hs.assessments (of_mem_forCase hb).1 ha hbid] at hb
  have hattestations : ((s.supervisorReadinessAttestations ++ [t]).filter fun u =>
      u.caseId = old.caseId) = (s.forCase old.caseId).supervisorReadinessAttestations ++ [t] :=
    filter_append_of_eq hcase
  refine h.replace hs hold hmoved rfl ?_ ⟨?_, ?_, ?_, ?_, ?_, ?_⟩ ?_ ?_
  · intro id hne
    exact forCase_congr (cases_of_ne (hmoved.caseId ▸ hne.symm)) rfl rfl
      (filter_append_of_ne (hcase ▸ hne.symm)) rfl rfl
  · rw [hmoved.identity]
    exact hgood.papers.package
  · exact hgood.papers.assessment
  · simp only [CaseStoreSnapshot.forCase, hattestations]
    exact Table.forall_append hgood.papers.attestation
      ⟨a, hmem, hassessment.symm, hfingerprint.symm⟩
  · rw [hnewFingerprint]
    exact hgood.papers.fingerprint
  · rw [hlink]
    exact hgood.papers.link
  · rw [hmoved.state]
    intro happroved
    cases hdecision : t.decision with
    | approved =>
      refine ⟨a, hmem, hsame.trans hpapers, hready, t, ?_, hdecision, hassessment, hfingerprint⟩
      simp only [CaseStoreSnapshot.forCase, hattestations]
      exact List.mem_append_right _ (List.mem_singleton_self t)
    | remediationRequired =>
      rw [hdecision] at happroved
      cases happroved
    | rejected =>
      rw [hdecision] at happroved
      cases happroved
  · refine hgood.keys.of_same rfl rfl ?_ hmoved.identity ?_
    · intro u hu
      simp only [CaseStoreSnapshot.forCase, hattestations]
      exact List.mem_append_left _ hu
    · rw [hmoved.state]
      cases t.decision with
      | approved => trivial
      | remediationRequired => trivial
      | rejected => trivial
  · exact fun hcases => .of_tables hcases h.owned.package h.owned.assessment
      (Table.forall_append h.owned.attestation (mem_caseIds hold hcase)) h.owned.qualificationKey
      h.owned.sandboxApiKey

theorem Good.issueQualificationKey {t : SupervisorReadinessAttestation env}
    {k : QualificationKey env} (hs : s.Distinct) (h : Good s) (hold : old ∈ s.cases)
    (hmoved : Moved old new .qualificationKeyIssued) (hstate : old.state = .readinessApproved)
    (hnone : ∀ k' ∈ s.qualificationKeys, k'.caseId ≠ old.caseId)
    (ht : t ∈ s.supervisorReadinessAttestations) (htcase : t.caseId = old.caseId)
    (hcase : k.caseId = old.caseId) (hclient : k.clientId = old.clientId)
    (hattestation : k.attestationId = t.attestationId)
    (hassessment : k.readinessAssessmentId = t.readinessAssessmentId)
    (hfingerprint : k.customerPackageFingerprint = t.customerPackageFingerprint)
    (hstatus : k.status = .issued) (hsame : new.papers = old.papers) :
    Good { s.replaceCase new with qualificationKeys := s.qualificationKeys ++ [k] } ∧
      Touches s { s.replaceCase new with qualificationKeys := s.qualificationKeys ++ [k] }
        old.caseId := by
  have hgood := h.cases old hold
  have hempty : (s.forCase old.caseId).qualificationKeys = [] := by
    rw [CaseStoreSnapshot.forCase, List.filter_eq_nil_iff]
    exact fun k' hk' heq => hnone k' hk' (of_decide_eq_true heq)
  -- A sandbox key of the case would have come from a qualification key of the case.
  have hsandbox : (s.forCase old.caseId).sandboxApiKeys = [] := by
    rw [List.eq_nil_iff_forall_not_mem]
    intro key hkey
    obtain ⟨-, q, hq, -⟩ := hgood.keys.sandboxApiKey key hkey
    rw [hempty] at hq
    cases hq
  have happend : ((s.qualificationKeys ++ [k]).filter fun k' => k'.caseId = old.caseId) =
      (s.forCase old.caseId).qualificationKeys ++ [k] := filter_append_of_eq hcase
  have hkeys : ((s.qualificationKeys ++ [k]).filter fun k' => k'.caseId = old.caseId) = [k] := by
    rw [happend, hempty, List.nil_append]
  refine h.replace hs hold hmoved rfl ?_
    (hgood.papers.of_same rfl rfl rfl hmoved.identity hsame fun _ => by rw [hstate]; rfl)
    ⟨?_, ?_, ?_, ?_, ?_⟩ ?_
  · intro id hne
    exact forCase_congr (cases_of_ne (hmoved.caseId ▸ hne.symm)) rfl rfl rfl
      (filter_append_of_ne (hcase ▸ hne.symm)) rfl
  · simp only [CaseStoreSnapshot.forCase, hkeys]
    exact le_rfl
  · simp only [CaseStoreSnapshot.forCase, hkeys]
    intro k' hk'
    obtain rfl := List.mem_singleton.mp hk'
    refine ⟨?_, t, mem_forCase ht htcase, hattestation.symm, hassessment.symm,
      hfingerprint.symm⟩
    rw [hclient]
    exact (congrArg Identity.clientId hmoved.identity).symm
  · exact hgood.keys.one_sandbox
  · intro key hkey
    have hmem : key ∈ (s.forCase old.caseId).sandboxApiKeys := hkey
    rw [hsandbox] at hmem
    cases hmem
  · have hnosandbox : (s.sandboxApiKeys.filter fun k' => k'.caseId = old.caseId) = [] := hsandbox
    rw [hmoved.state]
    simp only [CaseStoreSnapshot.forCase, CaseStoreSnapshot.replaceCase, hkeys, hnosandbox]
    exact ⟨congrArg (fun status => [status]) hstatus, rfl⟩
  · exact fun hcases => .of_tables hcases h.owned.package h.owned.assessment h.owned.attestation
      (Table.forall_append h.owned.qualificationKey (mem_caseIds hold hcase)) h.owned.sandboxApiKey

theorem Good.replaceQualificationKey {k k' : QualificationKey env} {state : CaseState}
    (hs : s.Distinct) (h : Good s) (hold : old ∈ s.cases) (hmoved : Moved old new state)
    (happroved : old.state.isApproved = true) (hk : k ∈ s.qualificationKeys)
    (hcase : k.caseId = old.caseId) (hid : k'.qualificationKeyId = k.qualificationKeyId)
    (hkcase : k'.caseId = k.caseId) (hclient : k'.clientId = k.clientId)
    (hattestation : k'.attestationId = k.attestationId)
    (hassessment : k'.readinessAssessmentId = k.readinessAssessmentId)
    (hfingerprint : k'.customerPackageFingerprint = k.customerPackageFingerprint)
    (hnone : (s.forCase old.caseId).sandboxApiKeys = [])
    (hkeys : KeysMatch state [k'.status] []) (hsame : new.papers = old.papers) :
    Good ((s.replaceQualificationKey k').replaceCase new) ∧
      Touches s ((s.replaceQualificationKey k').replaceCase new) old.caseId := by
  have hgood := h.cases old hold
  have hone := hgood.keys.one
  rw [← hcase] at hone
  have hbefore : (s.forCase old.caseId).qualificationKeys = [k] := by
    rw [← hcase]
    exact filter_column_eq_singleton hk hone
  have hafter : (((s.replaceQualificationKey k').replaceCase new).forCase
      old.caseId).qualificationKeys = [k'] := by
    rw [← hcase]
    exact filter_put_of_column_eq hs.qualificationKeys hk hid hkcase hone
  refine h.replace hs hold hmoved rfl ?_
    (hgood.papers.of_same rfl rfl rfl hmoved.identity hsame fun _ => happroved)
    (hgood.keys.of_qualificationKey hbefore hafter hnone rfl hmoved.identity hclient
      hattestation hassessment hfingerprint ?_) ?_
  · intro id hne
    exact forCase_congr (cases_of_ne (hmoved.caseId ▸ hne.symm)) rfl rfl rfl
      (filter_put_of_column_ne hs.qualificationKeys hk hid hkcase (hcase ▸ hne.symm)) rfl
  · rw [hmoved.state]
    exact hkeys
  · exact fun hcases => .of_tables hcases h.owned.package h.owned.assessment h.owned.attestation
      (Table.forall_put h.owned.qualificationKey (mem_caseIds hold (hkcase.trans hcase)))
      h.owned.sandboxApiKey

theorem Good.issueSandboxApiKey {q : QualificationKey env} {k : SandboxApiKey env}
    (hs : s.Distinct) (h : Good s) (hold : old ∈ s.cases)
    (hmoved : Moved old new .sandboxApiKeyIssued) (hstate : old.state = .qualificationRedeemed)
    (hq : q ∈ s.qualificationKeys) (hqcase : q.caseId = old.caseId)
    (hqstatus : q.status = .redeemed) (hidentity : k.identity = old.identity)
    (hqualification : k.qualificationKeyId = q.qualificationKeyId) (hstatus : k.status = .issued)
    (hsame : new.papers = old.papers) :
    Good { s.replaceCase new with sandboxApiKeys := s.sandboxApiKeys ++ [k] } ∧
      Touches s { s.replaceCase new with sandboxApiKeys := s.sandboxApiKeys ++ [k] }
        old.caseId := by
  have hgood := h.cases old hold
  have hcase : k.caseId = old.caseId := congrArg Identity.caseId hidentity
  have hmatch := hgood.keys.keys
  rw [hstate] at hmatch
  obtain ⟨hredeemed, hnone⟩ := hmatch
  have hempty : (s.forCase old.caseId).sandboxApiKeys = [] := List.map_eq_nil_iff.mp hnone
  have happend : ((s.sandboxApiKeys ++ [k]).filter fun k' => k'.caseId = old.caseId) =
      (s.forCase old.caseId).sandboxApiKeys ++ [k] := filter_append_of_eq hcase
  have hkeys : ((s.sandboxApiKeys ++ [k]).filter fun k' => k'.caseId = old.caseId) = [k] := by
    rw [happend, hempty, List.nil_append]
  refine h.replace hs hold hmoved rfl ?_
    (hgood.papers.of_same rfl rfl rfl hmoved.identity hsame fun _ => by rw [hstate]; rfl)
    ⟨hgood.keys.one, ?_, ?_, ?_, ?_⟩ ?_
  · intro id hne
    exact forCase_congr (cases_of_ne (hmoved.caseId ▸ hne.symm)) rfl rfl rfl rfl
      (filter_append_of_ne (hcase ▸ hne.symm))
  · have hclient : new.clientId = old.clientId := congrArg Identity.clientId hmoved.identity
    rw [hclient]
    exact hgood.keys.qualificationKey
  · simp only [CaseStoreSnapshot.forCase, hkeys]
    exact le_rfl
  · simp only [CaseStoreSnapshot.forCase, hkeys]
    intro k' hk'
    obtain rfl := List.mem_singleton.mp hk'
    exact ⟨hidentity.trans hmoved.identity.symm, q, mem_forCase hq hqcase, hqualification.symm,
      hqstatus⟩
  · rw [hmoved.state]
    simp only [CaseStoreSnapshot.forCase, CaseStoreSnapshot.replaceCase, hkeys]
    exact ⟨hredeemed, .inl (congrArg (fun status => [status]) hstatus)⟩
  · exact fun hcases => .of_tables hcases h.owned.package h.owned.assessment h.owned.attestation
      h.owned.qualificationKey
      (Table.forall_append h.owned.sandboxApiKey (mem_caseIds hold hcase))

theorem Good.replaceSandboxApiKey {k k' : SandboxApiKey env} {state : CaseState}
    (hs : s.Distinct) (h : Good s) (hold : old ∈ s.cases) (hmoved : Moved old new state)
    (happroved : state.isApproved = true → old.state.isApproved = true)
    (hk : k ∈ s.sandboxApiKeys) (hcase : k.caseId = old.caseId)
    (hid : k'.sandboxApiKeyId = k.sandboxApiKeyId) (hidentity : k'.identity = k.identity)
    (hlink : k'.qualificationKeyId = k.qualificationKeyId)
    (hkeys : (s.forCase old.caseId).sandboxApiKeys = [k] →
      KeysMatch old.state ((s.forCase old.caseId).qualificationKeys.map (·.status)) [k.status] →
        KeysMatch state ((s.forCase old.caseId).qualificationKeys.map (·.status)) [k'.status])
    (hsame : new.papers = old.papers) :
    Good ((s.replaceSandboxApiKey k').replaceCase new) ∧
      Touches s ((s.replaceSandboxApiKey k').replaceCase new) old.caseId := by
  have hgood := h.cases old hold
  have hkcase : k'.caseId = k.caseId := congrArg Identity.caseId hidentity
  have hone := hgood.keys.one_sandbox
  rw [← hcase] at hone
  have hbefore : (s.forCase old.caseId).sandboxApiKeys = [k] := by
    rw [← hcase]
    exact filter_column_eq_singleton hk hone
  have hafter : (((s.replaceSandboxApiKey k').replaceCase new).forCase
      old.caseId).sandboxApiKeys = [k'] := by
    rw [← hcase]
    exact filter_put_of_column_eq hs.sandboxApiKeys hk hid hkcase hone
  refine h.replace hs hold hmoved rfl ?_
    (hgood.papers.of_same rfl rfl rfl hmoved.identity hsame ?_)
    (hgood.keys.of_sandboxApiKey hbefore hafter rfl rfl hmoved.identity hidentity hlink ?_) ?_
  · intro id hne
    exact forCase_congr (cases_of_ne (hmoved.caseId ▸ hne.symm)) rfl rfl rfl rfl
      (filter_put_of_column_ne hs.sandboxApiKeys hk hid hkcase (hcase ▸ hne.symm))
  · rw [hmoved.state]
    exact happroved
  · have hmatch := hgood.keys.keys
    rw [hbefore] at hmatch
    rw [hmoved.state]
    exact hkeys hbefore hmatch
  · exact fun hcases => .of_tables hcases h.owned.package h.owned.assessment h.owned.attestation
      h.owned.qualificationKey
      (Table.forall_put h.owned.sandboxApiKey (mem_caseIds hold (hkcase.trans hcase)))

end Steps

end MaestroKernel.Connectivity
