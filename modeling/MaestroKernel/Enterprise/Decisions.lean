import MaestroKernel.Enterprise.Qualification
import MaestroKernel.Library.Histories

/-! # Grants and decisions

The laws relate the grants to the latest decision of their case and to the clock. A revision that is
asked for leaves the grant of the case as it is, and an approval takes an expired grant that no
activation has marked for an active one; the laws hold in the runs without these two. -/

namespace MaestroKernel.Enterprise

open Checked Histories Records
open Market (strip)
open Pilot (day maxInstant)

/-! ## The laws -/

def TaskApproved (track : Track) (taskId profileId : String) : Prop :=
  ∃ policy ∈ taskExecutionPolicies, policy.track = track ∧ policy.taskId = taskId ∧
    policy.executable = true ∧ policy.environment = "sandbox" ∧
      policy.credentialProfileId = some profileId

def latestDecision (store : QualificationStore) (caseId clientId : String) :
    Option QualificationDecision :=
  (store.decisions.filter fun decision =>
    decision.caseId = caseId && decision.clientId = clientId).getLast?

/-- The latest decision is an approval. -/
def approvedLast (store : QualificationStore) (caseId clientId : String) : Bool :=
  (latestDecision store caseId clientId).any fun decision => decision.decision = .approveSandbox

section Laws

variable (env : Platform)

def expiredAt (now : ℤ) (grant : QualificationGrant) : Bool :=
  (env.fromisoformat grant.expiresAt).any fun expiresAt => expiresAt ≤ now

/-- The state after every call. -/
structure Lawful (store : QualificationStore) : Prop where
  single : ∀ caseId clientId now, (store.grants.countP fun grant =>
    grant.isActive caseId clientId && !expiredAt env now grant) ≤ 1
  tasks : ∀ grant ∈ store.grants, List.Forall₂ (TaskApproved grant.integrationTrack)
    grant.approvedTaskIds grant.approvedProfileIds

/-- The request passes its checks, and its expiry is a time. -/
def Acceptable (draw : Draw) (request : ApproveRequest) (identity : CaseIdentity) : Prop :=
  (∃ selectedTasks, approvalChecks request = .ok (identity, selectedTasks)) ∧
    expiry draw request.ttlDays < maxInstant

structure LawfulApproval (store : QualificationStore) (draw : Draw) (request : ApproveRequest)
    (result : Except Raised Reply) : Prop where
  /-- Expired grants do not prevent it. -/
  accepted : ∀ identity, Acceptable draw request identity →
    (∀ grant ∈ store.grants, grant.isActive identity.caseId identity.clientId = true →
      expiredAt env draw.now grant = true) → ∃ reply, result = .ok reply
  tasks : ∀ decision grant, result = .ok (.approved decision grant) →
    tracks.lookup (strip request.case.integrationTrack) = some grant.integrationTrack ∧
      List.Forall₂ (TaskApproved grant.integrationTrack) grant.approvedTaskIds
        grant.approvedProfileIds

structure LawfulActivation (store : QualificationStore) (now : ℤ) (case : Case)
    (grant : QualificationGrant) : Prop where
  caseId : grant.caseId = strip case.caseId
  clientId : grant.clientId = strip case.clientId
  unexpired : ∃ expiresAt, env.fromisoformat grant.expiresAt = some expiresAt ∧ now < expiresAt
  latest : approvedLast store grant.caseId grant.clientId = true

/-- What a call does in the state before it. -/
def LawfulCall (store : QualificationStore) (call : Call × Draw) : Prop :=
  let result := (perform env store call).2
  match call.1 with
  | .approveSandboxQualification request => LawfulApproval env store call.2 request result
  | .requestQualificationRevision _ => True
  | .activateEnterpriseQualification case _ => ∀ already grant,
      result = .ok (.activated already grant) → LawfulActivation env store call.2.now case grant

def RevisionRequest.Complete (request : RevisionRequest) : Prop :=
  strip request.supervisorId ≠ "" ∧ strip request.supervisorSessionKeyId ≠ "" ∧
    strip request.reason ≠ ""

/-- A revision is asked for where no grant of the case is active, and an approval that passes its
checks finds no active grant that has expired. -/
def Careful (store : QualificationStore) (call : Call × Draw) : Prop :=
  match call.1 with
  | .approveSandboxQualification request => ∀ identity, Acceptable call.2 request identity →
      ∀ grant ∈ store.grants, grant.isActive identity.caseId identity.clientId = true →
        expiredAt env call.2.now grant = false
  | .requestQualificationRevision request => request.Complete →
      ∀ identity, caseIdentity request.case = .ok identity →
        ∀ grant ∈ store.grants, grant.isActive identity.caseId identity.clientId = false
  | .activateEnterpriseQualification _ _ => True

end Laws

/-! ## Tasks -/

section Tasks

variable {track : Track} {taskId : String} {selected approved : List String}

theorem policy_mem (h : taskId ∈ executableTaskIds track) :
    ∃ policy ∈ taskExecutionPolicies, policy.track = track ∧ policy.taskId = taskId ∧
      policy.executable = true := by
  obtain ⟨policy, hpolicy, hid⟩ := List.mem_map.mp h
  obtain ⟨hmem, htest⟩ := List.mem_filter.mp hpolicy
  rw [Bool.and_eq_true, decide_eq_true_eq] at htest
  exact ⟨policy, hmem, htest.1, hid, htest.2⟩

theorem getTaskExecutionPolicy_mem (h : taskId ∈ executableTaskIds track) :
    getTaskExecutionPolicy track taskId ∈ taskExecutionPolicies ∧
      (getTaskExecutionPolicy track taskId).track = track ∧
        (getTaskExecutionPolicy track taskId).taskId = taskId := by
  obtain ⟨policy, hmem, htrack, hid, -⟩ := policy_mem h
  have hsome : (taskExecutionPolicies.find? fun policy =>
      policy.track = track && policy.taskId = taskId).isSome = true := by
    rw [List.find?_isSome]
    exact ⟨policy, hmem, by simp [htrack, hid]⟩
  obtain ⟨found, hfound⟩ := Option.isSome_iff_exists.mp hsome
  have hget : getTaskExecutionPolicy track taskId = found := by
    rw [getTaskExecutionPolicy, hfound, Option.getD_some]
  have htest := List.find?_some hfound
  rw [Bool.and_eq_true, decide_eq_true_eq, decide_eq_true_eq] at htest
  rw [hget]
  exact ⟨List.mem_of_find?_eq_some hfound, htest⟩

theorem taskApproved (hexecutable : taskId ∈ executableTaskIds track)
    (hsafe : (getTaskExecutionPolicy track taskId).isUnsafe = false) :
    TaskApproved track taskId (profileId track taskId) := by
  obtain ⟨hmem, htrack, hid⟩ := getTaskExecutionPolicy_mem hexecutable
  simp only [TaskExecutionPolicy.isUnsafe, Bool.or_eq_false_iff, decide_eq_false_iff_not,
    Bool.not_eq_false'] at hsafe
  refine ⟨_, hmem, htrack, hid, hsafe.1.1.1.1.1.1.1.1, ?_, ?_⟩
  · simpa using hsafe.1.1.1.1.1.2
  · have hprofile := hsafe.1.1.1.1.1.1.2
    rw [profileId]
    cases hcredential : (getTaskExecutionPolicy track taskId).credentialProfileId with
    | none =>
      rw [hcredential] at hprofile
      exact absurd rfl hprofile
    | some profile => rfl

theorem tasks_approved (h : validateApprovedTasks track approved = .ok selected) :
    List.Forall₂ (TaskApproved track) selected (selected.map (profileId track)) := by
  simp only [validateApprovedTasks, raiseIf_bind_ok, forEach_bind_ok, raiseIf_eq_ok, pure_ok] at h
  obtain ⟨-, hregistered, hsafe, rfl⟩ := h
  rw [List.forall₂_map_right_iff, List.forall₂_same]
  intro taskId hmem
  refine taskApproved ?_ (Bool.eq_false_iff.mpr (hsafe taskId hmem))
  rw [List.any_eq_true] at hregistered
  by_contra hnot
  exact hregistered ⟨taskId, hmem, by simpa using hnot⟩

end Tasks

/-! ## What the calls do -/

section Calls

variable {env : Platform} {store saved : QualificationStore} {draw : Draw} {reply : Reply}

theorem caseIdentity_ok {case : Case} {identity : CaseIdentity}
    (h : caseIdentity case = .ok identity) :
    identity.caseId = strip case.caseId ∧ identity.clientId = strip case.clientId ∧
      tracks.lookup (strip case.integrationTrack) = some identity.track := by
  simp only [caseIdentity, raiseIf_bind_ok, demand_bind_ok, pure_ok] at h
  obtain ⟨-, -, track, htrack, rfl⟩ := h
  exact ⟨rfl, rfl, htrack⟩

theorem approvalChecks_ok {request : ApproveRequest} {identity : CaseIdentity}
    {selected : List String} (h : approvalChecks request = .ok (identity, selected)) :
    caseIdentity request.case = .ok identity ∧
      validateApprovedTasks identity.track request.approvedTaskIds = .ok selected := by
  simp only [approvalChecks, bind_ok, raiseIf_eq_ok, exists_const, pure_ok] at h
  obtain ⟨identity', hidentity, -, -, -, -, selected', hselected, hpair⟩ := h
  obtain ⟨rfl, rfl⟩ := Prod.mk.inj hpair
  exact ⟨hidentity, hselected⟩

theorem approve_ok {request : ApproveRequest}
    (h : approveSandboxQualification env draw request store = .ok (saved, reply)) :
    ∃ identity selected, approvalChecks request = .ok (identity, selected) ∧
      (∀ grant ∈ store.grants, grant.isActive identity.caseId identity.clientId = false) ∧
      expiry draw request.ttlDays < maxInstant ∧
      saved.grants = store.grants ++
        [approvalGrant env draw request identity selected (expiry draw request.ttlDays)] ∧
      saved.decisions = store.decisions ++ [approvalDecision env draw request identity selected] ∧
      reply = .approved (approvalDecision env draw request identity selected)
        (safeGrant (approvalGrant env draw request identity selected
          (expiry draw request.ttlDays))) := by
  simp only [approveSandboxQualification, bind_ok, raiseIf_eq_ok, exists_const, pure_ok] at h
  obtain ⟨⟨identity, selected⟩, hchecks, hnone, hinstant, hpair⟩ := h
  obtain ⟨rfl, rfl⟩ := Prod.mk.inj hpair
  refine ⟨identity, selected, hchecks, ?_, not_le.mp hinstant, rfl, rfl, rfl⟩
  rw [Bool.not_eq_true, Option.isSome_eq_false_iff, Option.isNone_iff_eq_none,
    List.find?_eq_none] at hnone
  exact fun grant hgrant => Bool.eq_false_iff.mpr (hnone grant hgrant)

variable (env) in
theorem approve_accepted {request : ApproveRequest} {identity : CaseIdentity}
    (hacceptable : Acceptable draw request identity)
    (hnone : ∀ grant ∈ store.grants,
      grant.isActive identity.caseId identity.clientId = false) :
    ∃ saved reply, approveSandboxQualification env draw request store = .ok (saved, reply) := by
  obtain ⟨⟨selected, hchecks⟩, hexpiry⟩ := hacceptable
  have hfree : store.grants.find? (·.isActive identity.caseId identity.clientId) = none := by
    rw [List.find?_eq_none]
    exact fun grant hgrant => Bool.eq_false_iff.mp (hnone grant hgrant)
  simp only [approveSandboxQualification, hchecks, bind, Except.bind, hfree, raiseIf,
    Option.isSome_none, Bool.false_eq_true, if_false, not_le.mpr hexpiry]
  exact ⟨_, _, rfl⟩

theorem revision_ok {request : RevisionRequest}
    (h : requestQualificationRevision env draw request store = .ok (saved, reply)) :
    ∃ identity, caseIdentity request.case = .ok identity ∧ request.Complete ∧
      saved.grants = store.grants ∧
      saved.decisions = store.decisions ++ [revisionDecision env draw request identity] := by
  simp only [requestQualificationRevision, bind_ok, raiseIf_eq_ok, exists_const, pure_ok] at h
  obtain ⟨identity, hidentity, hsupervisor, hsession, hreason, hpair⟩ := h
  obtain ⟨rfl, -⟩ := Prod.mk.inj hpair
  exact ⟨identity, hidentity, ⟨hsupervisor, hsession, hreason⟩, rfl, rfl⟩

theorem activationTarget_ok {case : Case} {clientId : String} {grant : QualificationGrant}
    (h : activationTarget case clientId store = .ok grant) :
    grant ∈ store.grants ∧ grant.caseId = strip case.caseId ∧
      grant.clientId = strip case.clientId ∧ grant.isActive grant.caseId grant.clientId = true ∧
        store.grants.find? (·.isActive grant.caseId grant.clientId) = some grant := by
  simp only [activationTarget, bind_ok, raiseIf_eq_ok, exists_const] at h
  obtain ⟨identity, hidentity, -, -, h⟩ := h
  obtain ⟨hcase, hclient, -⟩ := caseIdentity_ok hidentity
  split at h
  · cases h
  · rename_i found hfound
    obtain rfl := Except.ok.inj h
    have hmem := List.mem_filter.mp (hfound ▸ List.mem_singleton_self found)
    have hactive := hmem.2
    simp only [QualificationGrant.isActive, Bool.and_eq_true, decide_eq_true_eq] at hactive
    obtain ⟨⟨hid, hidClient⟩, -⟩ := hactive
    refine ⟨hmem.1, hid.trans hcase, hidClient.trans hclient, ?_, ?_⟩
    · rw [hid, hidClient]
      exact hmem.2
    · rw [hid, hidClient, ← List.head?_filter, hfound]
      rfl
  · cases h

theorem activate_cases {case : Case} {clientId : String} {result : Except Raised Reply}
    (h : activateEnterpriseQualification env draw case clientId store = (saved, result)) :
    (saved = store ∧ ∃ e, result = .error e) ∨
    ∃ grant, activationTarget case clientId store = .ok grant ∧
      ((saved = store.putGrant { grant with status := .expired } ∧ ∃ e, result = .error e) ∨
      ((∃ expiresAt, env.fromisoformat grant.expiresAt = some expiresAt ∧ draw.now < expiresAt) ∧
        ((saved = store ∧ result = .ok (.activated true (safeGrant grant))) ∨
          (saved.grants = (store.putGrant (activatedGrant env draw grant)).grants ∧
            saved.decisions = store.decisions ∧
            result = .ok (.activated false (safeGrant (activatedGrant env draw grant))))))) := by
  unfold activateEnterpriseQualification at h
  cases htarget : activationTarget case clientId store with
  | error e =>
    rw [htarget] at h
    obtain ⟨rfl, rfl⟩ := Prod.mk.inj h
    exact .inl ⟨rfl, e, rfl⟩
  | ok grant =>
    rw [htarget] at h
    dsimp only at h
    cases hreads : env.fromisoformat grant.expiresAt with
    | none =>
      rw [hreads] at h
      obtain ⟨rfl, rfl⟩ := Prod.mk.inj h
      exact .inl ⟨rfl, _, rfl⟩
    | some expiresAt =>
      rw [hreads] at h
      dsimp only at h
      split at h
      · obtain ⟨rfl, rfl⟩ := Prod.mk.inj h
        exact .inr ⟨grant, rfl, .inl ⟨rfl, _, rfl⟩⟩
      · rename_i hunexpired
        cases hactivate : activateUnexpired env draw grant store with
        | error e =>
          rw [hactivate] at h
          obtain ⟨rfl, rfl⟩ := Prod.mk.inj h
          exact .inl ⟨rfl, e, rfl⟩
        | ok pair =>
          rw [hactivate] at h
          obtain ⟨rfl, rfl⟩ := Prod.mk.inj h
          refine .inr ⟨grant, rfl, .inr ⟨⟨expiresAt, hreads, not_le.mp hunexpired⟩, ?_⟩⟩
          simp only [activateUnexpired, raiseIf_bind_ok] at hactivate
          obtain ⟨-, -, hactivate⟩ := hactivate
          split at hactivate
          · obtain rfl := Except.ok.inj hactivate
            exact .inl ⟨rfl, rfl⟩
          · obtain rfl := Except.ok.inj hactivate
            exact .inr ⟨rfl, rfl, rfl⟩

end Calls

/-! ## The invariant -/

/-- No two grants of a client for a case are active, and an active one follows an approval. -/
structure Inv (store : QualificationStore) : Prop where
  single : ∀ caseId clientId, store.grants.countP (·.isActive caseId clientId) ≤ 1
  tasks : ∀ grant ∈ store.grants, List.Forall₂ (TaskApproved grant.integrationTrack)
    grant.approvedTaskIds grant.approvedProfileIds
  latest : ∀ grant ∈ store.grants, ∀ caseId clientId, grant.isActive caseId clientId = true →
    approvedLast store caseId clientId = true

section Inv

variable {env : Platform} {store saved : QualificationStore} {draw : Draw}

theorem latestDecision_append_self {decision : QualificationDecision} {caseId clientId : String}
    (hdecisions : saved.decisions = store.decisions ++ [decision])
    (hcase : decision.caseId = caseId) (hclient : decision.clientId = clientId) :
    latestDecision saved caseId clientId = some decision := by
  rw [latestDecision, hdecisions, List.filter_append,
    List.filter_cons_of_pos (by simp [hcase, hclient]), List.filter_nil]
  exact List.getLast?_concat

theorem latestDecision_append_of_ne {decision : QualificationDecision} {caseId clientId : String}
    (hdecisions : saved.decisions = store.decisions ++ [decision])
    (hother : ¬(decision.caseId = caseId ∧ decision.clientId = clientId)) :
    latestDecision saved caseId clientId = latestDecision store caseId clientId := by
  have hnone : [decision].filter (fun decision =>
      decision.caseId = caseId && decision.clientId = clientId) = [] := by
    rw [List.filter_eq_nil_iff]
    intro other hmem
    obtain rfl := List.mem_singleton.mp hmem
    simpa using hother
  rw [latestDecision, hdecisions, List.filter_append, hnone, List.append_nil, latestDecision]

theorem approvalGrant_active {request : ApproveRequest} {identity : CaseIdentity}
    {selected : List String} {expiresAt : ℤ} {caseId clientId : String} :
    (approvalGrant env draw request identity selected expiresAt).isActive caseId clientId = true ↔
      identity.caseId = caseId ∧ identity.clientId = clientId := by
  rw [QualificationGrant.isActive, Bool.and_eq_true, Bool.and_eq_true, decide_eq_true_eq,
    decide_eq_true_eq]
  exact and_iff_left rfl

theorem Inv.approve (h : Inv store) {request : ApproveRequest} {reply : Reply}
    (happrove : approveSandboxQualification env draw request store = .ok (saved, reply)) :
    Inv saved := by
  obtain ⟨identity, selected, hchecks, hnone, -, hgrants, hdecisions, -⟩ := approve_ok happrove
  refine ⟨?_, ?_, ?_⟩
  · intro caseId clientId
    rw [hgrants, List.countP_append, List.countP_singleton]
    split
    · rename_i hactive
      obtain ⟨rfl, rfl⟩ := approvalGrant_active.mp hactive
      have hzero : store.grants.countP (·.isActive identity.caseId identity.clientId) = 0 :=
        List.countP_eq_zero.mpr fun grant hgrant => Bool.eq_false_iff.mp (hnone grant hgrant)
      exact hzero.symm ▸ le_rfl
    · exact h.single caseId clientId
  · intro grant hgrant
    rw [hgrants] at hgrant
    rcases List.mem_append.mp hgrant with hold | hnew
    · exact h.tasks grant hold
    · obtain rfl := List.mem_singleton.mp hnew
      exact tasks_approved (approvalChecks_ok hchecks).2
  · intro grant hgrant caseId clientId hactive
    by_cases hsame : identity.caseId = caseId ∧ identity.clientId = clientId
    · rw [approvedLast, latestDecision_append_self hdecisions hsame.1 hsame.2]
      rfl
    · rw [approvedLast, latestDecision_append_of_ne hdecisions hsame]
      rw [hgrants] at hgrant
      rcases List.mem_append.mp hgrant with hold | hnew
      · exact h.latest grant hold caseId clientId hactive
      · obtain rfl := List.mem_singleton.mp hnew
        exact absurd (approvalGrant_active.mp hactive) hsame

theorem Inv.revision (h : Inv store) {request : RevisionRequest} {reply : Reply}
    (hcareful : Careful env store (.requestQualificationRevision request, draw))
    (hrevision : requestQualificationRevision env draw request store = .ok (saved, reply)) :
    Inv saved := by
  obtain ⟨identity, hidentity, hcomplete, hgrants, hdecisions⟩ := revision_ok hrevision
  have hnone := hcareful hcomplete identity hidentity
  refine ⟨hgrants ▸ h.single, hgrants ▸ h.tasks, ?_⟩
  intro grant hgrant caseId clientId hactive
  rw [hgrants] at hgrant
  have hother : ¬(identity.caseId = caseId ∧ identity.clientId = clientId) := by
    rintro ⟨rfl, rfl⟩
    rw [hnone grant hgrant] at hactive
    cases hactive
  rw [approvedLast, latestDecision_append_of_ne hdecisions hother]
  exact h.latest grant hgrant caseId clientId hactive

theorem Inv.put (h : Inv store) (grant changed : QualificationGrant)
    (hgrant : grant ∈ store.grants)
    (hfound : store.grants.find? (·.isActive grant.caseId grant.clientId) = some grant)
    (hcase : changed.caseId = grant.caseId) (hclient : changed.clientId = grant.clientId)
    (htasks : List.Forall₂ (TaskApproved changed.integrationTrack) changed.approvedTaskIds
      changed.approvedProfileIds)
    (hactive : ∀ caseId clientId, changed.isActive caseId clientId = true →
      grant.isActive caseId clientId = true)
    (hgrants : saved.grants = (store.putGrant changed).grants)
    (hdecisions : saved.decisions = store.decisions) : Inv saved := by
  have hreplace : saved.grants =
      First.replace (·.isActive grant.caseId grant.clientId) changed store.grants := by
    rw [hgrants, QualificationStore.putGrant, hcase, hclient]
  have hlatest : ∀ caseId clientId,
      approvedLast saved caseId clientId = approvedLast store caseId clientId := by
    intro caseId clientId
    rw [approvedLast, latestDecision, hdecisions, approvedLast, latestDecision]
  refine ⟨?_, ?_, ?_⟩
  · intro caseId clientId
    rw [hreplace]
    exact (First.countP_replace_le hfound (hactive caseId clientId)).trans
      (h.single caseId clientId)
  · intro other hother
    rw [hreplace] at hother
    rcases First.mem_replace hother with rfl | hold
    · exact htasks
    · exact h.tasks other hold
  · intro other hother caseId clientId hotherActive
    rw [hlatest]
    rw [hreplace] at hother
    rcases First.mem_replace hother with rfl | hold
    · exact h.latest grant hgrant caseId clientId (hactive caseId clientId hotherActive)
    · exact h.latest other hold caseId clientId hotherActive

theorem isActive_of_eq {grant changed : QualificationGrant} {caseId clientId : String}
    (hown : grant.isActive grant.caseId grant.clientId = true)
    (hcase : changed.caseId = grant.caseId) (hclient : changed.clientId = grant.clientId)
    (hactive : changed.isActive caseId clientId = true) :
    grant.isActive caseId clientId = true := by
  simp only [QualificationGrant.isActive, Bool.and_eq_true, decide_eq_true_eq] at hown hactive ⊢
  exact ⟨⟨hcase.symm.trans hactive.1.1, hclient.symm.trans hactive.1.2⟩, hown.2⟩

theorem Inv.activate (h : Inv store) {case : Case} {clientId : String}
    {result : Except Raised Reply}
    (hactivate : activateEnterpriseQualification env draw case clientId store = (saved, result)) :
    Inv saved := by
  rcases activate_cases hactivate with ⟨rfl, -⟩ | ⟨grant, htarget, hchange⟩
  · exact h
  · obtain ⟨hgrant, -, -, hown, hfound⟩ := activationTarget_ok htarget
    rcases hchange with ⟨rfl, -⟩ | ⟨-, ⟨rfl, -⟩ | ⟨hgrants, hdecisions, -⟩⟩
    · exact h.put grant { grant with status := .expired } hgrant hfound rfl rfl
        (h.tasks grant hgrant) (fun _ _ => isActive_of_eq hown rfl rfl) rfl rfl
    · exact h
    · exact h.put grant (activatedGrant env draw grant) hgrant hfound rfl rfl
        (h.tasks grant hgrant) (fun _ _ => isActive_of_eq hown rfl rfl) hgrants hdecisions

theorem Inv.saving (h : Inv store) {result : Except Raised (QualificationStore × Reply)}
    (hsaved : ∀ saved reply, result = .ok (saved, reply) → Inv saved) :
    Inv (Enterprise.saving store result).1 := by
  cases result with
  | error e => exact h
  | ok pair => exact hsaved pair.1 pair.2 rfl

theorem Inv.step (h : Inv store) {call : Call × Draw} (hcareful : Careful env store call) :
    Inv (step env store call) := by
  obtain ⟨call, draw⟩ := call
  cases call with
  | approveSandboxQualification request => exact h.saving fun saved reply hok => h.approve hok
  | requestQualificationRevision request =>
    exact h.saving fun saved reply hok => h.revision hcareful hok
  | activateEnterpriseQualification case clientId => exact h.activate rfl

theorem Inv.lawful (h : Inv store) : Lawful env store := by
  refine ⟨fun caseId clientId now => ?_, h.tasks⟩
  refine le_trans (List.countP_mono_left fun grant _ hactive => ?_) (h.single caseId clientId)
  exact (Bool.and_eq_true_iff.mp hactive).1

theorem Inv.lawfulCall (h : Inv store) {call : Call × Draw} (hcareful : Careful env store call) :
    LawfulCall env store call := by
  obtain ⟨call, draw⟩ := call
  cases call with
  | approveSandboxQualification request =>
    refine ⟨?_, ?_⟩
    · intro identity hacceptable hexpired
      -- An active grant would have expired, and would not have.
      have hnone : ∀ grant ∈ store.grants,
          grant.isActive identity.caseId identity.clientId = false := by
        intro grant hgrant
        by_contra hactive
        have hactive' := (Bool.not_eq_false _).mp hactive
        have hnot := hcareful identity hacceptable grant hgrant hactive'
        rw [hexpired grant hgrant hactive'] at hnot
        cases hnot
      obtain ⟨saved, reply, hok⟩ := approve_accepted env hacceptable hnone
      refine ⟨reply, ?_⟩
      rw [perform, hok]
      rfl
    · intro decision grant hresult
      rw [perform] at hresult
      cases hok : approveSandboxQualification env draw request store with
      | error e =>
        rw [hok] at hresult
        cases hresult
      | ok pair =>
        rw [hok] at hresult
        obtain ⟨identity, selected, hchecks, -, -, -, -, hreply⟩ := approve_ok hok
        obtain rfl := (Reply.approved.inj (hreply.symm.trans (Except.ok.inj hresult))).2
        obtain ⟨hidentity, hselected⟩ := approvalChecks_ok hchecks
        exact ⟨(caseIdentity_ok hidentity).2.2, tasks_approved hselected⟩
  | requestQualificationRevision request => trivial
  | activateEnterpriseQualification case clientId =>
    intro already grant hresult
    rw [perform] at hresult
    rcases activate_cases (Prod.mk.eta.symm) with ⟨-, e, herror⟩ | ⟨target, htarget, hchange⟩
    · rw [herror] at hresult
      cases hresult
    · obtain ⟨hmem, hcase, hclient, hown, -⟩ := activationTarget_ok htarget
      have hlatest := h.latest target hmem _ _ hown
      rcases hchange with ⟨-, e, herror⟩ | ⟨hunexpired, ⟨-, hok⟩ | ⟨-, -, hok⟩⟩
      · rw [herror] at hresult
        cases hresult
      · rw [hok] at hresult
        obtain ⟨-, rfl⟩ := Reply.activated.inj (Except.ok.inj hresult)
        exact ⟨hcase, hclient, hunexpired, hlatest⟩
      · rw [hok] at hresult
        obtain ⟨-, rfl⟩ := Reply.activated.inj (Except.ok.inj hresult)
        exact ⟨hcase, hclient, hunexpired, hlatest⟩

theorem inv_start : Inv {} :=
  ⟨fun _ _ => Nat.zero_le 1, fun _ hgrant => absurd hgrant List.not_mem_nil,
    fun _ hgrant => absurd hgrant List.not_mem_nil⟩

end Inv

/-- In every run of careful calls, the grants follow the decisions. -/
theorem grants_follow_decisions (env : Platform) (calls : List (Call × Draw))
    (h : Along (step env) (Careful env) {} calls) :
    Lawful env (after (step env) {} calls) ∧ Along (step env) (LawfulCall env) {} calls :=
  ⟨(h.invariant inv_start fun _ _ hinv hcareful => hinv.step hcareful).lawful,
    h.imp inv_start (fun _ _ hinv hcareful => hinv.step hcareful)
      fun _ _ hinv hcareful => hinv.lawfulCall hcareful⟩

/-! ## Samples -/

namespace Sample

def midnight : ℤ := 739251 * day

/-- The times of the samples, as `isoformat` writes them. -/
def texts : List (ℤ × String) := [
  (midnight, "2025-01-01T00:00:00+00:00"),
  (midnight + 7 * day, "2025-01-08T00:00:00+00:00"),
  (midnight + 8 * day, "2025-01-09T00:00:00+00:00"),
  (midnight + 15 * day, "2025-01-16T00:00:00+00:00")]

/-- Any other time, in a text that is not one of these. -/
def otherText (t : ℤ) : String := String.ofList (List.replicate t.toNat 'x')

def isoformat (t : ℤ) : String := (texts.find? fun pair => pair.1 = t).elim (otherText t) Prod.snd

def fromisoformat (text : String) : Option ℤ :=
  some ((texts.find? fun pair => pair.2 = text).elim text.toList.length Prod.fst)

theorem texts_inj : ∀ pair ∈ texts, ∀ other ∈ texts, other.2 = pair.2 → other = pair := by
  decide +kernel

theorem texts_head : ∀ pair ∈ texts, pair.2.toList.head? = some '2' := by decide +kernel

theorem otherText_head (t : ℤ) : (otherText t).toList.head? ≠ some '2' := by
  rw [otherText, String.toList_ofList, List.head?_replicate]
  split
  · intro h
    cases h
  · decide

theorem reads (t : ℤ) (h : 0 ≤ t) : fromisoformat (isoformat t) = some t := by
  cases hfound : texts.find? fun pair => pair.1 = t with
  | some pair =>
    have hmem := List.mem_of_find?_eq_some hfound
    have htime : pair.1 = t := by simpa using List.find?_some hfound
    have hsome : (texts.find? fun other => other.2 = pair.2).isSome = true := by
      rw [List.find?_isSome]
      exact ⟨pair, hmem, decide_eq_true rfl⟩
    obtain ⟨other, hother⟩ := Option.isSome_iff_exists.mp hsome
    have htext : other.2 = pair.2 := by simpa using List.find?_some hother
    have hsame := texts_inj pair hmem other (List.mem_of_find?_eq_some hother) htext
    rw [isoformat, hfound, Option.elim_some, fromisoformat, hother, Option.elim_some, hsame, htime]
  | none =>
    have hnone : (texts.find? fun pair => pair.2 = otherText t) = none := by
      rw [List.find?_eq_none]
      intro pair hmem hsame
      have hhead := texts_head pair hmem
      rw [of_decide_eq_true hsame] at hhead
      exact otherText_head t hhead
    rw [isoformat, hfound, Option.elim_none, fromisoformat, hnone, Option.elim_none, otherText,
      String.toList_ofList, List.length_replicate, Int.toNat_of_nonneg h]

def platform : Platform where
  isoformat := isoformat
  fromisoformat := fromisoformat
  reads t h _ := reads t h

def case : Case where
  caseId := "icase_demo"
  clientId := "client_demo"
  integrationTrack := "camara"
  status := "ready_for_review"
  phase := "supervisor_decision"
  tasks := [⟨"capability_profile", "passed"⟩]

def dayOne : Draw := ⟨⟨midnight, by decide +kernel⟩, "0011223344556677"⟩

def dayNine : Draw := ⟨⟨midnight + 8 * day, by decide +kernel⟩, "8899aabbccddeeff"⟩

def approve (draw : Draw) : Call × Draw :=
  (.approveSandboxQualification
    { case := case
      supervisorId := "supervisor_demo"
      supervisorSessionKeyId := "supsk_demo"
      approvedTaskIds := ["sandbox_capability_probe"] }, draw)

def revise (draw : Draw) : Call × Draw :=
  (.requestQualificationRevision ⟨case, "supervisor_demo", "supsk_demo", "Correct it."⟩, draw)

def activate (draw : Draw) : Call × Draw :=
  (.activateEnterpriseQualification case "client_demo", draw)

/-- A revision is asked for between the approval and the activation. -/
def revised : List (Call × Draw) := [approve dayOne, revise dayOne, activate dayOne]

/-- The second approval is asked for when the first grant has expired. -/
def approvedTwice : List (Call × Draw) := [approve dayOne, approve dayNine]

def activatesWithdrawn (store : QualificationStore) : Except Raised Reply → Bool
  | .ok (.activated _ grant) => !approvedLast store grant.caseId grant.clientId
  | _ => false

theorem revised_activates :
    let store := after (step platform) {} [approve dayOne, revise dayOne]
    activatesWithdrawn store (perform platform store (activate dayOne)).2 = true := by
  decide +kernel

theorem approvedTwice_refuses :
    let store := step platform {} (approve dayOne)
    (∀ grant ∈ store.grants, expiredAt platform dayNine.now grant = true) ∧
      (∃ selected, approvalChecks ⟨case, "supervisor_demo", "supsk_demo",
        ["sandbox_capability_probe"], "", 7⟩ =
          .ok (⟨"icase_demo", "client_demo", .camara⟩, selected)) ∧
      expiry dayNine 7 < maxInstant ∧
      (perform platform store (approve dayNine)).2 =
        .error (decisionError "An active qualification grant already exists.") :=
  ⟨by decide +kernel, ⟨["sandbox_capability_probe"], by decide +kernel⟩, by decide +kernel,
    by decide +kernel⟩

/-- The grant is activated and expires; the case is revised, and approved again. -/
def renewed : List (Call × Draw) :=
  [approve dayOne, activate dayOne, activate dayNine, revise dayNine, approve dayNine]

theorem isActive_of_expired {grant : QualificationGrant} (h : grant.status = .expired)
    (caseId clientId : String) : grant.isActive caseId clientId = false := by
  simp [QualificationGrant.isActive, h]

theorem marked_revised : ∀ grant ∈ (after (step platform) {} [approve dayOne, activate dayOne,
    activate dayNine]).grants, grant.status = .expired := by
  decide +kernel

theorem marked_approved : ∀ grant ∈ (after (step platform) {} [approve dayOne, activate dayOne,
    activate dayNine, revise dayNine]).grants, grant.status = .expired := by
  decide +kernel

theorem renewed_careful : Along (step platform) (Careful platform) {} renewed := by
  refine ⟨?_, trivial, trivial, ?_, ?_, trivial⟩
  · intro identity _ grant hgrant
    cases hgrant
  · intro _ identity _ grant hgrant
    exact isActive_of_expired (marked_revised grant hgrant) _ _
  · intro identity _ grant hgrant hactive
    rw [isActive_of_expired (marked_approved grant hgrant)] at hactive
    cases hactive

theorem renewed_follows :
    Lawful platform (after (step platform) {} renewed) ∧
      Along (step platform) (LawfulCall platform) {} renewed :=
  grants_follow_decisions platform renewed renewed_careful

end Sample

/-- A grant is activated after a revision, and an expired grant prevents an approval. -/
theorem grants_do_not_follow :
    ¬ Along (step Sample.platform) (LawfulCall Sample.platform) {} Sample.revised ∧
      ¬ Along (step Sample.platform) (LawfulCall Sample.platform) {} Sample.approvedTwice := by
  constructor
  · intro h
    have hactivation := h.2.2.1
    have hrevised := Sample.revised_activates
    dsimp only at hrevised
    unfold Sample.activatesWithdrawn at hrevised
    split at hrevised
    · rename_i already grant hresult
      have hlatest := (hactivation already grant hresult).latest
      have hwithdrawn : (!true) = true := hlatest ▸ hrevised
      cases hwithdrawn
    · cases hrevised
  · intro h
    obtain ⟨hexpired, hchecks, hinstant, hresult⟩ := Sample.approvedTwice_refuses
    obtain ⟨reply, hok⟩ := h.2.1.accepted _ ⟨hchecks, hinstant⟩
      fun grant hgrant _ => hexpired grant hgrant
    cases hok.symm.trans hresult

end MaestroKernel.Enterprise
