import MaestroKernel.Gateway.Engine

/-! # What the gateway lets through

The exact reasons that stop a response, and what follows from them: which requirements a response
that is let through has met, and which adverse evidence is not among the reasons. -/

namespace MaestroKernel.Gateway

open Checked

section Evaluations

variable {env : Platform} {agent agent' : Agent ℚ QualificationPayload} {clock : Clock}
  {a : Analysis} {r : Request env} {d : GatewayDecision QualificationPayload}

theorem mem_grantedScopes {tags : List String} {scope : String} :
    scope ∈ grantedScopes tags ↔ "scope:" ++ scope ∈ tags := by
  have hprefix : "scope:".toList = ['s', 'c', 'o', 'p', 'e', ':'] := by decide
  simp only [grantedScopes, List.mem_filterMap, Option.ite_none_right_eq_some, Option.some.injEq]
  constructor
  · rintro ⟨tag, hmem, hstarts, rfl⟩
    obtain ⟨rest, hrest⟩ := List.isPrefixOf_iff_prefix.mp hstarts
    have htag : "scope:" ++ String.ofList (tag.toList.drop 6) = tag := by
      rw [← String.toList_inj, String.toList_append, ← hrest, hprefix, String.toList_ofList]
      rfl
    rwa [htag]
  · intro hmem
    refine ⟨_, hmem, ?_, ?_⟩
    · rw [List.isPrefixOf_iff_prefix, String.toList_append]
      exact List.prefix_append _ _
    · rw [String.toList_append, hprefix]
      exact String.ofList_toList

theorem missesScope_eq_false {tags : List String} {context : GovernanceRequestContext} :
    missesScope tags context = false ↔
      ∀ scope ∈ context.requiredScopes, "scope:" ++ scope ∈ tags := by
  simp [missesScope, mem_grantedScopes]

theorem get_append_of_none {signals rest : Signals} {key : String} {default : ℚ}
    (h : signals.lookup key = none) :
    Signals.get (signals ++ rest) key default = Signals.get rest key default := by
  rw [Signals.get, List.lookup_append, h, Option.none_or, Signals.get]

theorem get_cons_self {rest : Signals} {key : String} {value default : ℚ} :
    Signals.get ((key, value) :: rest) key default = value := by
  rw [Signals.get, List.lookup_cons, beq_self_eq_true, Option.getD_some]

theorem get_cons_of_ne {rest : Signals} {name key : String} {value default : ℚ}
    (h : key ≠ name) :
    Signals.get ((name, value) :: rest) key default = Signals.get rest key default := by
  rw [Signals.get, List.lookup_cons, beq_eq_false_iff_ne.mpr h, Signals.get]

theorem firstFailedGate_eq_none {signals : Signals} : firstFailedGate signals = none ↔
    signals.get "constraint_failure" 0 < 1 ∧ signals.get "authorization_failure" 0 < 1 ∧
      signals.get "missing_required_evidence" 0 < 1 := by
  unfold firstFailedGate
  split
  · rename_i h
    simp [not_lt.mpr h]
  · rename_i hconstraint
    split
    · rename_i h
      simp [not_lt.mpr h]
    · rename_i hauthorization
      split
      · rename_i h
        simp [not_lt.mpr h]
      · rename_i hmissing
        simp [not_le.mp hconstraint, not_le.mp hauthorization, not_le.mp hmissing]

/-- The gates see the scores, and the two signals that the engine sets. -/
theorem firstFailedGate_policySignals {scores feedback : Signals} {misses lacks : Bool}
    (h : ∀ signal ∈ feedback, signal.1 ∈ feedbackNames) :
    firstFailedGate (policySignals scores feedback misses lacks) = none ↔
      firstFailedGate scores = none ∧ misses = false ∧ lacks = false := by
  have hfeedback : ∀ key, key ∉ feedbackNames →
      Signals.get (feedback ++ scores) key 0 = scores.get key 0 := fun key hkey =>
    get_append_of_none (lookup_eq_none fun signal hmem heq => hkey (heq ▸ h signal hmem))
  have hconstraint := hfeedback "constraint_failure" (by decide)
  have hauthorization := hfeedback "authorization_failure" (by decide)
  have hmissing := hfeedback "missing_required_evidence" (by decide)
  simp only [firstFailedGate_eq_none, policySignals]
  cases lacks with
  | true =>
    simp [get_cons_self]
  | false =>
    cases misses with
    | true => simp [get_cons_self]
    | false => simp [hconstraint, hauthorization, hmissing]

/-! ## What stops a response -/

/-- The verification that an evaluation ends up with, where its evidence can be read. -/
def Request.verification (r : Request env) (evaluated : ℤ) : VerificationEvidence :=
  r.effectiveVerification (r.bindingIssues.toOption.getD [])
    ((r.runtimeIssues evaluated).toOption.getD [])

/-- The issues of the attestation, where they can be read. -/
def Request.issues (r : Request env) (evaluated : ℤ) : List String :=
  (r.runtimeIssues evaluated).toOption.getD []

inductive Stopped (agent : Agent ℚ QualificationPayload) (clock : Clock) (a : Analysis)
    (r : Request env) : Prop where
  | unavailable (h : agent.available = false)
  | gate (h : firstFailedGate a.scores ≠ none)
  | scope (scope : String) (hrequired : scope ∈ r.context.requiredScopes)
      (h : "scope:" ++ scope ∉ agent.tags)
  | evidence (h : missesEvidence r (r.verification clock.evaluated) (r.issues clock.evaluated) =
      true)
  | rank (h : a.rank = "extinct" ∨ a.rank = "distorted")
  | failures (h : 3 ≤ agent.consecutiveFailures)

theorem toOption_getD {α : Type} {x : Except Error α} {y z : α} (h : x = .ok y) :
    x.toOption.getD z = y := by
  rw [h]
  rfl

theorem evaluate_decision (havailable : agent.available = true)
    (h : agent.evaluate clock a r = .ok (d, agent')) :
    ∃ bindingIssues, r.bindingIssues = .ok bindingIssues ∧
      r.runtimeIssues clock.evaluated = .ok (r.issues clock.evaluated) ∧
      d.action = (decisionOf agent a r (r.verification clock.evaluated)
        (r.issues clock.evaluated)).action ∧
      d.qualification.map (·.envelope) =
        some (envelopeOf agent a r (r.verification clock.evaluated)) := by
  simp only [Agent.evaluate, havailable, Bool.true_eq_false, if_false, bind_ok, pure_ok,
    Prod.mk.injEq] at h
  obtain ⟨_, -, bindingIssues, hbinding, runtimeIssues, hruntime, rfl, -⟩ := h
  have hissues : r.issues clock.evaluated = runtimeIssues := toOption_getD hruntime
  have hverification : r.verification clock.evaluated =
      r.effectiveVerification bindingIssues runtimeIssues := by
    rw [Request.verification, toOption_getD hbinding, toOption_getD hruntime]
  rw [hissues, hverification]
  exact ⟨bindingIssues, hbinding, hruntime, rfl, rfl⟩

theorem evaluate_mild_iff (h : agent.evaluate clock a r = .ok (d, agent')) :
    d.action.Mild ↔ ¬ Stopped agent clock a r := by
  cases havailable : agent.available with
  | false =>
    simp only [Agent.evaluate, havailable, if_true] at h
    obtain ⟨rfl, -⟩ := Prod.mk.inj (Except.ok.inj h)
    have hblock : ¬ (unavailable agent).action.Mild := Bool.noConfusion
    exact iff_of_false hblock (not_not.mpr (.unavailable havailable))
  | true =>
    obtain ⟨_, -, -, haction, -⟩ := evaluate_decision havailable h
    have hnames : ∀ signal ∈ (envelopeOf agent a r
        (r.verification clock.evaluated)).feedbackSignals, signal.1 ∈ feedbackNames :=
      fun signal => feedback_names
    rw [haction, decisionOf, decide_mild_iff, firstFailedGate_policySignals hnames,
      missesScope_eq_false]
    constructor
    · rintro ⟨⟨hgate, hscopes, hevidence⟩, hextinct, hdistorted, hfailures⟩ hstopped
      cases hstopped with
      | unavailable hnot =>
        rw [havailable] at hnot
        cases hnot
      | gate hfailed => exact hfailed hgate
      | scope scope hrequired hnot => exact hnot (hscopes scope hrequired)
      | evidence hmisses =>
        rw [hevidence] at hmisses
        cases hmisses
      | rank hrank => exact hrank.elim hextinct hdistorted
      | failures hmany => exact absurd hfailures (not_lt.mpr hmany)
    · intro hnot
      refine ⟨⟨?_, ?_, ?_⟩, ?_, ?_, ?_⟩
      · by_contra hgate
        exact hnot (.gate hgate)
      · intro scope hrequired
        by_contra htag
        exact hnot (.scope scope hrequired htag)
      · by_contra hmisses
        exact hnot (.evidence (Bool.of_not_eq_false hmisses))
      · exact fun hrank => hnot (.rank (.inl hrank))
      · exact fun hrank => hnot (.rank (.inr hrank))
      · by_contra hmany
        exact hnot (.failures (not_lt.mp hmany))

/-! ## Fail closed -/

/-- What a response that is let through should have met. -/
structure RequirementsMet (agent : Agent ℚ QualificationPayload) (clock : Clock) (r : Request env)
    (policy : OperationGovernancePolicy) : Prop where
  available : agent.state = .active ∨ agent.state = .rehabilitating
  scopes : ∀ scope, scope ∈ policy.requiredScopes ∨ scope ∈ r.callerContext.requiredScopes →
    "scope:" ++ scope ∈ agent.tags
  factual : policy.requireFactualEvidence = true ∨ r.callerContext.requireFactualEvidence = true →
    (r.verification clock.evaluated).factual = .verified
  execution :
    policy.requireExecutionEvidence = true ∨ r.callerContext.requireExecutionEvidence = true →
      (r.verification clock.evaluated).execution = .verified
  sufficiency :
    policy.requireTaskSufficiency = true ∨ r.callerContext.requireTaskSufficiency = true →
      r.sufficiency.status = .sufficient
  attestation : policy.requireRuntimeAttestation = true →
    ∃ attestation, r.runtimeExecutionAttestation = some attestation ∧
      r.runtimeIssues clock.evaluated = .ok []

/-- One context asks for no more than another one. -/
structure GovernanceRequestContext.Weaker (weaker stricter : GovernanceRequestContext) : Prop where
  scopes : ∀ scope ∈ weaker.requiredScopes, scope ∈ stricter.requiredScopes
  factual : weaker.requireFactualEvidence = true → stricter.requireFactualEvidence = true
  execution : weaker.requireExecutionEvidence = true → stricter.requireExecutionEvidence = true
  sufficiency : weaker.requireTaskSufficiency = true → stricter.requireTaskSufficiency = true

/-- The same call with another caller context. -/
def Request.under (r : Request env) (context : GovernanceRequestContext) : Request env :=
  { r with governanceContext := some context }

/-- A response that is let through has met every requirement of the server and of the caller, and no
caller context lets through what is blocked under a weaker one. -/
structure FailsClosed (agent : Agent ℚ QualificationPayload) (clock : Clock) (a : Analysis)
    (r : Request env) (d : GatewayDecision QualificationPayload) : Prop where
  met : d.action.Mild → ∃ policy, getOperationPolicy r.operationId = some policy ∧
    RequirementsMet agent clock r policy
  monotone : ∀ context, context.Weaker r.callerContext → ∀ d₀ agent₀,
    agent.evaluate clock a (r.under context) = .ok (d₀, agent₀) → ¬ d₀.action.Mild →
      ¬ d.action.Mild

/-- An unregistered operation asks for a scope of its own, so an agent that lacks the tag for it is
stopped. -/
def Guarded (agent : Agent ℚ QualificationPayload) (clock : Clock) (a : Analysis)
    (r : Request env) : Prop :=
  (getOperationPolicy r.operationId).isSome = true ∨
    "scope:__unknown_operation__" ∉ agent.tags ∨ Stopped agent clock a r

section Contexts

theorem context_of_policy {policy : OperationGovernancePolicy}
    (h : getOperationPolicy r.operationId = some policy) :
    r.context = mergeGovernanceContexts policy.toGovernanceRequestContext r.callerContext := by
  rw [Request.context, h]

theorem missesEvidence_eq_false {verification : VerificationEvidence} {issues : List String} :
    missesEvidence r verification issues = false ↔
      (r.context.requireFactualEvidence = true → verification.factual = .verified) ∧
      (r.context.requireExecutionEvidence = true → verification.execution = .verified) ∧
      (r.context.requireTaskSufficiency = true → r.sufficiency.status = .sufficient) ∧
      ∀ policy, getOperationPolicy r.operationId = some policy →
        policy.requireRuntimeAttestation = true →
          r.runtimeExecutionAttestation.isSome = true ∧ issues = [] := by
  simp only [missesEvidence, Bool.or_eq_false_iff, and_assoc]
  refine and_congr ?_ (and_congr ?_ (and_congr ?_ ?_))
  · cases r.context.requireFactualEvidence <;> simp
  · cases r.context.requireExecutionEvidence <;> simp
  · cases r.context.requireTaskSufficiency <;> simp
  · cases getOperationPolicy r.operationId with
    | none => simp
    | some policy =>
      cases hpolicy : policy.requireRuntimeAttestation with
      | false => simp [hpolicy]
      | true => simp [hpolicy, Option.isSome_iff_ne_none]

theorem weaker_context {context : GovernanceRequestContext}
    (h : context.Weaker r.callerContext) : (r.under context).context.Weaker r.context := by
  have hcaller : (r.under context).callerContext = context := rfl
  have hoperation : (r.under context).operationId = r.operationId := rfl
  rw [Request.context, Request.context, hcaller, hoperation]
  cases getOperationPolicy r.operationId with
  | none =>
    refine ⟨?_, ?_, ?_, ?_⟩
    · intro scope hscope
      rw [mem_merge_requiredScopes] at hscope ⊢
      exact hscope.imp_left (h.scopes scope)
    · simpa [mergeGovernanceContexts] using h.factual
    · simpa [mergeGovernanceContexts] using h.execution
    · simpa [mergeGovernanceContexts] using h.sufficiency
  | some policy =>
    refine ⟨?_, ?_, ?_, ?_⟩
    · intro scope hscope
      rw [mem_merge_requiredScopes] at hscope ⊢
      exact hscope.imp_right (h.scopes scope)
    · simpa only [mergeGovernanceContexts, Bool.or_eq_true] using Or.imp_right h.factual
    · simpa only [mergeGovernanceContexts, Bool.or_eq_true] using Or.imp_right h.execution
    · simpa only [mergeGovernanceContexts, Bool.or_eq_true] using Or.imp_right h.sufficiency

theorem Stopped.of_weaker {context : GovernanceRequestContext}
    (h : context.Weaker r.callerContext) (hstopped : Stopped agent clock a (r.under context)) :
    Stopped agent clock a r := by
  have hcontext := weaker_context h
  cases hstopped with
  | unavailable hnot => exact .unavailable hnot
  | gate hgate => exact .gate hgate
  | scope scope hrequired hnot => exact .scope scope (hcontext.scopes scope hrequired) hnot
  | evidence hmisses =>
    refine .evidence ?_
    by_contra hnone
    have hverification : (r.under context).verification clock.evaluated =
        r.verification clock.evaluated := rfl
    have hissues : (r.under context).issues clock.evaluated = r.issues clock.evaluated := rfl
    obtain ⟨hfactual, hexecution, hsufficiency, hattestation⟩ :=
      missesEvidence_eq_false.mp (Bool.of_not_eq_true hnone)
    have hmeets : missesEvidence (r.under context) (r.verification clock.evaluated)
        (r.issues clock.evaluated) = false :=
      missesEvidence_eq_false.mpr ⟨fun hrequired => hfactual (hcontext.factual hrequired),
        fun hrequired => hexecution (hcontext.execution hrequired),
        fun hrequired => hsufficiency (hcontext.sufficiency hrequired), hattestation⟩
    rw [hverification, hissues, hmeets] at hmisses
    cases hmisses
  | rank hrank => exact .rank hrank
  | failures hmany => exact .failures hmany

end Contexts

theorem requirementsMet (h : agent.evaluate clock a r = .ok (d, agent'))
    (hnot : ¬ Stopped agent clock a r) {policy : OperationGovernancePolicy}
    (hpolicy : getOperationPolicy r.operationId = some policy) :
    RequirementsMet agent clock r policy := by
  have havailable : agent.available = true := by
    by_contra hno
    exact hnot (.unavailable (Bool.of_not_eq_true hno))
  have hevidence : missesEvidence r (r.verification clock.evaluated) (r.issues clock.evaluated) =
      false := by
    by_contra hmisses
    exact hnot (.evidence (Bool.of_not_eq_false hmisses))
  obtain ⟨hfactual, hexecution, hsufficiency, hattestation⟩ := missesEvidence_eq_false.mp hevidence
  rw [context_of_policy hpolicy] at hfactual hexecution hsufficiency
  simp only [mergeGovernanceContexts, Bool.or_eq_true] at hfactual hexecution hsufficiency
  refine ⟨?_, ?_, hfactual, hexecution, hsufficiency, ?_⟩
  · simpa [Agent.available] using havailable
  · intro scope hrequired
    by_contra htag
    refine hnot (.scope scope ?_ htag)
    rw [context_of_policy hpolicy, mem_merge_requiredScopes]
    exact hrequired
  · intro hruntime
    obtain ⟨hsome, hissues⟩ := hattestation policy hpolicy hruntime
    obtain ⟨attestation, hgiven⟩ := Option.isSome_iff_exists.mp hsome
    obtain ⟨_, -, hread, -⟩ := evaluate_decision havailable h
    exact ⟨attestation, hgiven, hissues ▸ hread⟩

/-- The gateway fails closed on exactly the calls of registered operations, of agents without the tag
for unknown ones, and on calls that are stopped for another reason. -/
theorem failsClosed_iff (h : agent.evaluate clock a r = .ok (d, agent')) :
    FailsClosed agent clock a r d ↔ Guarded agent clock a r := by
  have hmild := evaluate_mild_iff h
  constructor
  · intro hclosed
    by_contra hnot
    simp only [Guarded, not_or, not_not] at hnot
    obtain ⟨hunknown, -, hgoes⟩ := hnot
    obtain ⟨policy, hpolicy, -⟩ := hclosed.met (hmild.mpr hgoes)
    exact hunknown (Option.isSome_iff_exists.mpr ⟨policy, hpolicy⟩)
  · intro hguarded
    refine ⟨?_, ?_⟩
    · intro hpasses
      have hnot := hmild.mp hpasses
      rcases hguarded with hregistered | htag | hstopped
      · obtain ⟨policy, hpolicy⟩ := Option.isSome_iff_exists.mp hregistered
        exact ⟨policy, hpolicy, requirementsMet h hnot hpolicy⟩
      · cases hpolicy : getOperationPolicy r.operationId with
        | some policy => exact ⟨policy, rfl, requirementsMet h hnot hpolicy⟩
        | none =>
          refine absurd (.scope "__unknown_operation__" ?_ htag) hnot
          rw [Request.context, hpolicy, mem_merge_requiredScopes]
          exact .inr List.mem_cons_self
      · exact absurd hstopped hnot
    · intro context hweaker d₀ agent₀ h₀ hblocked hpasses
      have hstopped : Stopped agent clock a (r.under context) := by
        by_contra hnot
        exact hblocked ((evaluate_mild_iff h₀).mpr hnot)
      exact hmild.mp hpasses (hstopped.of_weaker hweaker)

/-! ## Adverse evidence -/

/-- The evidence that a call brings, before its attestation. -/
def Request.given (r : Request env) : VerificationEvidence :=
  match r.trustedEvidenceProjection with
  | some projection => projection.verification
  | none => r.verificationEvidence.getD {}

/-- What a call brings against its response. -/
inductive AdverseEvidence (clock : Clock) (r : Request env) : Prop where
  | binding (h : r.bindingIssues ≠ .ok [])
  | factual (h : r.given.factual = .contradicted)
  | execution (h : r.given.execution = .contradicted)
      (hkept : r.runtimeExecutionAttestation.isSome → r.runtimeIssues clock.evaluated ≠ .ok [])
  | sufficiency (h : r.sufficiency.status = .insufficient)
  | attestation (attestation : RuntimeExecutionAttestation env)
      (h : r.runtimeExecutionAttestation = some attestation)
      (hbound : attestation.operationId = r.operationId) (hfailed : attestation.succeeded = false)

/-- The qualification disqualifies the response, or an attestation of the operation reports that its
execution failed. -/
def Disqualified (r : Request env) (d : GatewayDecision QualificationPayload) : Prop :=
  (d.qualification.map (·.envelope.recommendedAction) = some .block) ∨
    ∃ attestation, r.runtimeExecutionAttestation = some attestation ∧
      attestation.operationId = r.operationId ∧ attestation.succeeded = false

def NotMilder (r : Request env) (d : GatewayDecision QualificationPayload) : Prop :=
  Disqualified r d → d.action = .block ∨ d.action = .escalate

theorem not_mild_iff {action : GatewayAction} :
    ¬ action.Mild ↔ action = .block ∨ action = .escalate := by
  cases action <;> decide

theorem succeeded_of_no_issues {attestation : RuntimeExecutionAttestation env} {evaluated : ℤ}
    (hgiven : r.runtimeExecutionAttestation = some attestation)
    (h : r.runtimeIssues evaluated = .ok []) : attestation.succeeded = true := by
  simp only [Request.runtimeIssues, hgiven, bind_ok, pure_ok] at h
  obtain ⟨issues, hissues, hnone⟩ := h
  suffices hempty : issues = [] by
    rw [hempty] at hissues
    exact (attestation_of_no_issues hissues).2
  split at hnone
  · split at hnone
    · simp at hnone
    · exact hnone
  · exact hnone

theorem bound_getD {bindingIssues : List String} (h : bindingIssues = []) :
    (r.boundVerification bindingIssues).getD {} = r.given := by
  rw [Request.boundVerification, if_neg (not_not.mpr h), Request.given]
  cases r.trustedEvidenceProjection with
  | none => rfl
  | some projection => rfl

theorem adverse_of_contradicted {bindingIssues runtimeIssues : List String}
    (hbinding : r.bindingIssues = .ok bindingIssues)
    (hruntime : r.runtimeIssues clock.evaluated = .ok runtimeIssues)
    (h : (r.effectiveVerification bindingIssues runtimeIssues).factual = .contradicted ∨
      (r.effectiveVerification bindingIssues runtimeIssues).execution = .contradicted) :
    AdverseEvidence clock r := by
  by_cases hnone : bindingIssues = []
  · have hbase : (r.boundVerification bindingIssues).getD {} = r.given := bound_getD hnone
    rw [Request.effectiveVerification, hbase] at h
    cases hattestation : r.runtimeExecutionAttestation with
    | none =>
      simp only [hattestation] at h
      exact h.elim .factual fun hexecution => .execution hexecution fun hsome => by
        rw [hattestation] at hsome
        cases hsome
    | some attestation =>
      simp only [hattestation] at h
      by_cases hissues : runtimeIssues = []
      · rw [if_pos hissues] at h
        rcases h with hfactual | hexecution
        · exact .factual hfactual
        · have hsucceeded := succeeded_of_no_issues hattestation (hissues ▸ hruntime)
          rw [AttestationFields.verification, hsucceeded] at hexecution
          cases hexecution
      · rw [if_neg hissues] at h
        refine h.elim .factual fun hexecution => .execution hexecution fun _ hempty => ?_
        rw [hruntime] at hempty
        exact hissues (Except.ok.inj hempty)
  · refine .binding fun hempty => hnone ?_
    rw [hbinding] at hempty
    exact Except.ok.inj hempty

theorem contradicted_of_adverse {bindingIssues runtimeIssues : List String}
    (hbinding : r.bindingIssues = .ok bindingIssues)
    (hruntime : r.runtimeIssues clock.evaluated = .ok runtimeIssues)
    (h : AdverseEvidence clock r) :
    (r.effectiveVerification bindingIssues runtimeIssues).factual = .contradicted ∨
      (r.effectiveVerification bindingIssues runtimeIssues).execution = .contradicted ∨
      r.sufficiency.status = .insufficient ∨
      ∃ attestation, r.runtimeExecutionAttestation = some attestation ∧
        attestation.operationId = r.operationId ∧ attestation.succeeded = false := by
  by_cases hnone : bindingIssues = []
  · have hbase : (r.boundVerification bindingIssues).getD {} = r.given := bound_getD hnone
    rw [Request.effectiveVerification, hbase]
    cases h with
    | binding hissues => exact absurd (hnone ▸ hbinding) hissues
    | factual hfactual =>
      refine .inl ?_
      split
      · split
        · exact hfactual
        · exact hfactual
      · exact hfactual
    | execution hexecution hkept =>
      refine .inr (.inl ?_)
      split
      · rename_i attestation hattestation
        have hissues : runtimeIssues ≠ [] := fun hempty =>
          hkept (by rw [hattestation]; rfl) (hempty ▸ hruntime)
        rwa [if_neg hissues]
      · exact hexecution
    | sufficiency hinsufficient => exact .inr (.inr (.inl hinsufficient))
    | attestation attestation hgiven hbound hfailed =>
      exact .inr (.inr (.inr ⟨attestation, hgiven, hbound, hfailed⟩))
  · have hbase : (r.boundVerification bindingIssues).getD {} =
        { factual := .contradicted, execution := .unverified } := by
      rw [Request.boundVerification, if_pos hnone]
      rfl
    rw [Request.effectiveVerification, hbase]
    refine .inl ?_
    split
    · split
      · rfl
      · rfl
    · rfl

/-- A decision is not milder than its evidence where no evidence is adverse, and where the response is
stopped for another reason. -/
theorem notMilder_iff (havailable : agent.available = true)
    (h : agent.evaluate clock a r = .ok (d, agent')) :
    NotMilder r d ↔ ¬ AdverseEvidence clock r ∨ Stopped agent clock a r := by
  have hmild := evaluate_mild_iff h
  obtain ⟨bindingIssues, hbinding, hruntime, -, henvelope⟩ := evaluate_decision havailable h
  have hverification : r.verification clock.evaluated =
      r.effectiveVerification bindingIssues (r.issues clock.evaluated) := by
    rw [Request.verification, toOption_getD hbinding, Request.issues]
  have hblock : d.qualification.map (·.envelope.recommendedAction) = some .block ↔
      (r.verification clock.evaluated).factual = .contradicted ∨
        (r.verification clock.evaluated).execution = .contradicted ∨
        r.sufficiency.status = .insufficient ∨ a.rank = "extinct" ∨ a.rank = "distorted" := by
    have haction : d.qualification.map (·.envelope.recommendedAction) =
        some (envelopeOf agent a r (r.verification clock.evaluated)).recommendedAction := by
      obtain ⟨payload, hpayload, hlayer⟩ := Option.map_eq_some_iff.mp henvelope
      rw [hpayload, Option.map_some, hlayer]
    rw [haction, Option.some.injEq, envelopeOf, qualify_block_iff]
  rw [NotMilder, ← not_mild_iff, hmild, not_not]
  constructor
  · intro hkeeps
    by_cases hadverse : AdverseEvidence clock r
    · refine .inr (hkeeps ?_)
      have hcontradicted := contradicted_of_adverse hbinding hruntime hadverse
      rw [← hverification] at hcontradicted
      rcases hcontradicted with hfactual | hexecution | hinsufficient | hattestation
      · exact .inl (hblock.mpr (.inl hfactual))
      · exact .inl (hblock.mpr (.inr (.inl hexecution)))
      · exact .inl (hblock.mpr (.inr (.inr (.inl hinsufficient))))
      · exact .inr hattestation
    · exact .inl hadverse
  · rintro (hnone | hstopped) hdisqualified
    · rcases hdisqualified with henveloped | ⟨attestation, hgiven, hbound, hfailed⟩
      · rcases hblock.mp henveloped with hfactual | hexecution | hinsufficient | hrank
        · exact absurd (adverse_of_contradicted hbinding hruntime
            (.inl (hverification ▸ hfactual))) hnone
        · exact absurd (adverse_of_contradicted hbinding hruntime
            (.inr (hverification ▸ hexecution))) hnone
        · exact absurd (.sufficiency hinsufficient) hnone
        · exact .rank hrank
      · exact absurd (.attestation attestation hgiven hbound hfailed) hnone
    · exact hstopped

end Evaluations

/-! ## Samples -/

namespace Sample

/-- Every reading of the clock is the first instant of 2025. -/
def platform : Platform where
  fromisoformat _ := none
  isoformat _ := "2025-01-01T00:00:00+00:00"
  lower := id
  sha256 := id
  fixed2 _ := "-0.10"
  signResponse _ _ _ _ _ := "signature"

def midnight : ℤ := 739251 * 86400 * 1000000

def clock : Clock := ⟨midnight, midnight, midnight, midnight, midnight⟩

def agent : Agent ℚ QualificationPayload where
  agentId := "agent_1"
  name := "One"
  role := "assistant"
  adapterName := "openai"
  model := "m"
  systemPrompt := ""
  language := "en"
  state := .active
  createdAt := "2025-01-01T00:00:00+00:00"
  lastStateChange := "2025-01-01T00:00:00+00:00"
  lastStateReason := ""
  tags := ["scope:__unknown_operation__"]

def analysis (rank : String) (reward : ℚ) : Analysis where
  scores := []
  fateVector := []
  rank := rank
  reward := reward
  policy := ""
  repairPrompt := none

/-- An operation that is not registered. -/
def unregistered : Request platform where
  clientQuery := "q"
  agentResponse := "a"
  operationId := "report.export"

/-- A response that its evidence contradicts, to an operation that asks for none. -/
def contradicted : Request platform where
  clientQuery := "q"
  agentResponse := "a"
  verificationEvidence := some { factual := .contradicted }

/-- The same response for an operation that asks for factual evidence. -/
def activation : Request platform :=
  { contradicted with operationId := "sandbox.activate" }

/-- What an evaluation answers. -/
def action (agent : Agent ℚ QualificationPayload) (a : Analysis) (r : Request platform) :
    Option GatewayAction :=
  (agent.evaluate clock a r).toOption.map (·.1.action)

theorem evaluate_of_action {agent : Agent ℚ QualificationPayload} {a : Analysis}
    {r : Request platform} {answer : GatewayAction} (h : action agent a r = some answer) :
    ∃ d agent', agent.evaluate clock a r = .ok (d, agent') ∧ d.action = answer := by
  obtain ⟨⟨d, agent'⟩, hresult, haction⟩ := Option.map_eq_some_iff.mp h
  cases hevaluate : agent.evaluate clock a r with
  | error e =>
    rw [hevaluate] at hresult
    cases hresult
  | ok result =>
    rw [hevaluate] at hresult
    obtain rfl := Option.some.inj hresult
    exact ⟨d, agent', rfl, haction⟩

theorem answers :
    action agent (analysis "stable" (4 / 5)) unregistered = some .pass ∧
    getOperationPolicy unregistered.operationId = none ∧
    action { agent with tags := [] } (analysis "stable" (4 / 5)) unregistered = some .block ∧
    action agent (analysis "stable" (4 / 5)) contradicted = some .pass ∧
    ((agent.evaluate clock (analysis "stable" (4 / 5)) contradicted).toOption.bind
      fun result => result.1.qualification.map (·.envelope.recommendedAction)) = some .block ∧
    action agent (analysis "stable" (4 / 5)) activation = some .block := by
  decide +kernel

/-- A call of an operation outside the table is let through. -/
theorem not_failsClosed : ¬ ∀ (env : Platform) (agent : Agent ℚ QualificationPayload)
    (clock : Clock) (a : Analysis) (r : Request env) (d : GatewayDecision QualificationPayload)
    (agent' : Agent ℚ QualificationPayload), agent.evaluate clock a r = .ok (d, agent') →
      FailsClosed agent clock a r d := by
  intro h
  obtain ⟨hpass, hnone, -⟩ := answers
  obtain ⟨d, agent', hevaluate, haction⟩ := evaluate_of_action hpass
  have hmild : d.action.Mild := by
    rw [haction]
    rfl
  obtain ⟨policy, hpolicy, -⟩ := (h platform agent clock _ unregistered d agent' hevaluate).met hmild
  rw [hnone] at hpolicy
  cases hpolicy

theorem untagged_failsClosed : ∃ d agent',
    { agent with tags := [] }.evaluate clock (analysis "stable" (4 / 5)) unregistered =
      .ok (d, agent') ∧
    FailsClosed { agent with tags := [] } clock (analysis "stable" (4 / 5)) unregistered d := by
  obtain ⟨-, -, hblock, -⟩ := answers
  obtain ⟨d, agent', hevaluate, -⟩ := evaluate_of_action hblock
  exact ⟨d, agent', hevaluate, (failsClosed_iff hevaluate).mpr (.inr (.inl List.not_mem_nil))⟩

theorem contradicted_disqualified {d : GatewayDecision QualificationPayload}
    {agent' : Agent ℚ QualificationPayload}
    (h : agent.evaluate clock (analysis "stable" (4 / 5)) contradicted = .ok (d, agent')) :
    Disqualified contradicted d := by
  obtain ⟨-, -, -, -, hblock, -⟩ := answers
  rw [h] at hblock
  exact .inl hblock

/-- A response that its evidence contradicts is let through. -/
theorem not_notMilder : ¬ ∀ (env : Platform) (agent : Agent ℚ QualificationPayload)
    (clock : Clock) (a : Analysis) (r : Request env) (d : GatewayDecision QualificationPayload)
    (agent' : Agent ℚ QualificationPayload), agent.available = true →
      agent.evaluate clock a r = .ok (d, agent') → NotMilder r d := by
  intro h
  obtain ⟨-, -, -, hpass, -⟩ := answers
  obtain ⟨d, agent', hevaluate, haction⟩ := evaluate_of_action hpass
  rcases h platform agent clock _ contradicted d agent' rfl hevaluate
    (contradicted_disqualified hevaluate) with hblock | hescalate
  · rw [haction] at hblock
    cases hblock
  · rw [haction] at hescalate
    cases hescalate

theorem activation_notMilder : ∃ d agent',
    agent.evaluate clock (analysis "stable" (4 / 5)) activation = .ok (d, agent') ∧
      NotMilder activation d := by
  obtain ⟨-, -, -, -, -, hblock⟩ := answers
  obtain ⟨d, agent', hevaluate, -⟩ := evaluate_of_action hblock
  refine ⟨d, agent', hevaluate, (notMilder_iff rfl hevaluate).mpr (.inr (.evidence ?_))⟩
  decide +kernel

end Sample

end MaestroKernel.Gateway
