import MaestroKernel.Library.Table
import MaestroKernel.Workflow.Termination

/-! # The lifecycle of the agents

Agents are registered, observed and given tasks in any order. What one observation may
decide is read off the governor once; the histories follow from it. -/

namespace MaestroKernel.Workflow

open Table

variable {W F : Type} [Number F]

/-! ## One decision -/

/-- At or above the quarantine risk. -/
def HighRisk (p : KernelPolicy F) (coeff : Coefficients F) : Prop :=
  p.quarantinePolicyRisk ≤ coeff.M ∨ p.quarantinePolicyRisk ≤ coeff.C

/-- The demand, the compatibility and the aftermath that an archived agent comes back for. -/
def ReactivationHolds (p : KernelPolicy F) (coeff : Coefficients F) (report : Report F) : Prop :=
  p.reactivationNeed ≤ coeff.N ∧ 0.55 ≤ report.compatibility ∧
    p.minAftermathBalance ≤ report.aftermathBalance

def IsCritical (record : AgentRecord F) : Prop := record.spec.criticality = .critical

/-- The branches of the governor, by the state and the review that they decide; each keeps
the guards that the histories need. -/
inductive Judged (p : KernelPolicy F) (record : AgentRecord F) (coeff : Coefficients F)
    (report : Report F) (new : AgentState) (review : Bool) : Prop where
  | risky (hrisk : HighRisk p coeff) (hnew : new = .quarantined) (hreview : review = true)
  | reactivated (hrisk : ¬ HighRisk p coeff) (hstate : record.state = .archived)
      (hholds : ReactivationHolds p coeff report) (hnew : new = .transitional)
      (hreview : IsCritical record → review = true)
  | stillArchived (hrisk : ¬ HighRisk p coeff) (hstate : record.state = .archived)
      (hnew : new = .archived)
  | archived (hrisk : ¬ HighRisk p coeff) (hstate : record.state ≠ .archived)
      (hcritical : ¬ IsCritical record) (hnew : new = .archived)
  | reviewed (hrisk : ¬ HighRisk p coeff) (hstate : record.state ≠ .archived)
      (hnew : new = .transitional) (hreview : IsCritical record → review = true)
  | decaying (hrisk : ¬ HighRisk p coeff) (hstate : record.state ≠ .archived)
      (hnew : new = .transitional) (hguard : ¬ (IsCritical record ∧ p.criticalRequiresReview = true))
  | healthy (hrisk : ¬ HighRisk p coeff) (hstate : record.state ≠ .archived)
      (hstreak : record.failureStreak < p.maxFailureStreak) (hnew : new = .active)
  | kept (hrisk : ¬ HighRisk p coeff) (hstate : record.state ≠ .archived)
      (hstreak : record.failureStreak < p.maxFailureStreak) (hnew : new = record.state)

section Decision

variable {p : KernelPolicy F} {record : AgentRecord F} {coeff : Coefficients F} {dpsi : F}
  {report : Report F} {new : AgentState} {review : Bool}

theorem judgeAgent_judged : Judged p record coeff report (judgeAgent p record coeff dpsi report).1
    (judgeAgent p record coeff dpsi report).2.2 := by
  have hcritical (h : IsCritical record) : decide (record.spec.criticality = .critical) = true :=
    decide_eq_true h
  have hguarded (h : IsCritical record) : (decide (record.spec.criticality = .high) ||
      decide (record.spec.criticality = .critical)) = true := by simp [hcritical h]
  unfold judgeAgent
  dsimp only
  split
  · rename_i hrisk
    exact .risky hrisk rfl rfl
  rename_i hrisk
  split
  · rename_i hstate
    split
    · rename_i hholds
      exact .reactivated hrisk hstate hholds rfl hcritical
    · exact .stillArchived hrisk hstate rfl
  rename_i hstate
  split
  · exact .reviewed hrisk hstate rfl fun _ => rfl
  rename_i hdegraded
  split
  · rename_i hextinct
    exact .archived hrisk hstate (fun h => hextinct.1 (hcritical h)) rfl
  split
  · exact .reviewed hrisk hstate rfl hguarded
  split
  · exact .reviewed hrisk hstate rfl hguarded
  rename_i hstreak
  have hstreak : record.failureStreak < p.maxFailureStreak := not_le.mp hstreak
  split
  · exact .reviewed hrisk hstate rfl fun _ => rfl
  split
  · rename_i hfaded
    exact .archived hrisk hstate (fun h => hfaded.1 (hcritical h)) rfl
  split
  · rename_i hdecays
    -- a critical agent under review has left by the branch above
    refine .decaying hrisk hstate rfl fun hboth => hdegraded ⟨hcritical hboth.1, hboth.2, ?_⟩
    exact hdecays.imp_right .inl
  split
  · exact .healthy hrisk hstate hstreak rfl
  · exact .kept hrisk hstate hstreak rfl

namespace Judged

theorem quarantined (h : Judged p record coeff report new review) (hrisk : HighRisk p coeff) :
    new = .quarantined := by
  cases h <;> first | contradiction | assumption

theorem ne_archived (h : Judged p record coeff report new review) (hcritical : IsCritical record)
    (hstate : record.state ≠ .archived) : new ≠ .archived := by
  cases h with
  | stillArchived hrisk hstate' hnew => exact absurd hstate' hstate
  | archived hrisk hstate hnot hnew => exact absurd hcritical hnot
  | kept hrisk hstate hstreak hnew => exact hnew ▸ hstate
  | risky | reactivated | reviewed | decaying | healthy => simp [*]

theorem needs_review (h : Judged p record coeff report new review) (hcritical : IsCritical record)
    (hpolicy : p.criticalRequiresReview = true) (hchanged : new ≠ record.state)
    (hactive : new ≠ .active) : review = true := by
  cases h with
  | risky hrisk hnew hreview => exact hreview
  | reactivated hrisk hstate hholds hnew hreview => exact hreview hcritical
  | reviewed hrisk hstate hnew hreview => exact hreview hcritical
  | stillArchived hrisk hstate hnew => exact absurd (hnew.trans hstate.symm) hchanged
  | archived hrisk hstate hnot hnew => exact absurd hcritical hnot
  | decaying hrisk hstate hnew hguard => exact absurd ⟨hcritical, hpolicy⟩ hguard
  | healthy hrisk hstate hstreak hnew => exact absurd hnew hactive
  | kept hrisk hstate hstreak hnew => exact absurd hnew hchanged

theorem streak (h : Judged p record coeff report new review) (hactive : new = .active) :
    record.failureStreak < p.maxFailureStreak := by
  cases h with
  | healthy hrisk hstate hstreak hnew => exact hstreak
  | kept hrisk hstate hstreak hnew => exact hstreak
  | risky | reactivated | stillArchived | archived | reviewed | decaying => simp_all

theorem reactivated_of_archived (h : Judged p record coeff report new review)
    (hstate : record.state = .archived) (hrisk : ¬ HighRisk p coeff) (hnew : new ≠ .archived) :
    ReactivationHolds p coeff report ∧ new = .transitional := by
  cases h with
  | risky hrisk' => exact absurd hrisk' hrisk
  | reactivated hrisk hstate hholds hnew => exact ⟨hholds, hnew⟩
  | stillArchived hrisk hstate hnew' => exact absurd hnew' hnew
  | archived hrisk hstate' | reviewed hrisk hstate' | decaying hrisk hstate'
  | healthy hrisk hstate' | kept hrisk hstate' => exact absurd hstate hstate'

end Judged

end Decision

/-! ## One observation -/

namespace AgentRecord

/-- The record as an observation leaves it before the decision. -/
def observed (env : Environment W F) (record : AgentRecord F) (telemetry : AgentTelemetry F) :
    AgentRecord F :=
  { record with
    previousPsi := record.psi
    psi := (stepPsi env.policy.dt record.psi (fromAgentTelemetry telemetry)).1
    failureStreak := telemetry.failureCount
    lastCoefficients := some (fromAgentTelemetry telemetry)
    observations := record.observations + 1 }

end AgentRecord

namespace Kernel

variable {env : Environment W F} {agentId : String} {telemetry : AgentTelemetry F}
  {decision : GovernanceDecision F} {k after : Kernel W F}

/-- What an observation found and wrote. -/
structure Observed (env : Environment W F) (agentId : String) (telemetry : AgentTelemetry F)
    (k : Kernel W F) (decision : GovernanceDecision F) (after : Kernel W F)
    (record : AgentRecord F) : Prop where
  found : k.getAgent agentId = .ok record
  judged : Judged env.policy (record.observed env telemetry) (fromAgentTelemetry telemetry)
    decision.cgt decision.newState decision.requiresHumanReview
  coefficients : decision.coefficients = fromAgentTelemetry telemetry
  previousState : decision.previousState = record.state
  registry : after.registry = (k.setAgent
    { record.observed env telemetry with state := decision.newState }).registry

theorem observe_ok (h : k.observe env agentId telemetry = .ok (decision, after)) :
    ∃ record, Observed env agentId telemetry k decision after record := by
  unfold observe at h
  split at h
  · cases h
  rename_i record hfound
  obtain ⟨rfl, rfl⟩ := Prod.mk.inj (Except.ok.inj h)
  exact ⟨record, hfound, judgeAgent_judged, rfl, rfl, rfl⟩

/-- What an observation leaves alone, and what it writes under its agent. -/
theorem Observed.registry_cases {record : AgentRecord F}
    (h : Observed env agentId telemetry k decision after record) {agent : AgentRecord F}
    (hagent : agent ∈ after.registry) :
    agent = { record.observed env telemetry with state := decision.newState } ∨
      agent ∈ k.registry ∧ agent.spec.agentId ≠ agentId := by
  have hid := getAgent_agentId h.found
  rw [h.registry] at hagent
  obtain ⟨old, hold, rfl⟩ := List.mem_map.mp hagent
  split
  · exact .inl rfl
  · rename_i hne
    exact .inr ⟨hold, hid ▸ hne⟩

theorem Observed.ids {record : AgentRecord F}
    (h : Observed env agentId telemetry k decision after record) :
    (after.registry.map fun r => r.spec.agentId) = k.registry.map fun r => r.spec.agentId := by
  rw [h.registry, setAgent, List.map_map]
  apply List.map_congr_left
  intro r _
  rw [Function.comp_apply]
  split
  · rename_i hsame
    exact hsame.symm
  · rfl

end Kernel

/-! ## Histories -/

/-- The kernel of agents, and the tasks that `run_task` has given to one. -/
structure Desk (W F : Type) [Number F] where
  kernel : Kernel W F
  routed : List (AgentRecord F × TaskEnvelope F) := []

inductive DeskEvent (F : Type) [Number F] where
  | register (spec : AgentSpec) (initialTelemetry : Option (AgentTelemetry F))
  | observe (agentId : String) (telemetry : AgentTelemetry F)
  /-- `run_task` up to the call of the runtime -/
  | route (task : TaskEnvelope F)
  /-- The runtime has answered a routed task. -/
  | answer (index : ℕ) (result : TaskResult F) (latencyMs : F)

/-- The telemetry that `run_task` makes of a result. -/
def taskTelemetry (task : TaskEnvelope F) (result : TaskResult F) (latencyMs : F)
    (failureCount : ℤ) : AgentTelemetry F where
  successRate := if result.ok then 1.0 else 0.0
  cooperationSuccess := 0.6
  usefulHandoffRate := 0.6
  demandRate := pyMin 1.0 task.priority
  businessPriority := task.priority
  resourceCost := pyMin 1.0 result.cost
  failureCount
  latencyP95Ms := latencyMs

namespace Desk

variable (env : Environment W F) (desk : Desk W F)

def observation : DeskEvent F → Option (String × AgentTelemetry F)
  | .observe agentId telemetry => some (agentId, telemetry)
  | .answer index result latencyMs =>
    match desk.routed[index]? with
    | none => none
    | some (chosen, task) =>
      match desk.kernel.getAgent chosen.spec.agentId with
      | .error _ => none
      | .ok agent =>
        let failureCount := if result.ok then 0 else agent.failureStreak + 1
        some (chosen.spec.agentId, taskTelemetry task result latencyMs failureCount)
  | .register .. | .route .. => none

/-- What an event does; one that raises leaves the agents as they are. -/
def step (event : DeskEvent F) : Desk W F :=
  match desk.observation event with
  | some (agentId, telemetry) =>
    match desk.kernel.observe env agentId telemetry with
    | .error _ => desk
    | .ok (_, kernel) => { desk with kernel }
  | none =>
    match event with
    | .register spec initialTelemetry =>
      match desk.kernel.getAgent spec.agentId with
      | .ok _ => desk
      | .error _ =>
        let record : AgentRecord F :=
          { spec, lastCoefficients := initialTelemetry.map fromAgentTelemetry }
        { desk with
          kernel := { desk.kernel with registry := desk.kernel.registry ++ [record] } }
    | .route task =>
      match desk.kernel.routeCandidates env.policy task.requiredCapability with
      | [] => desk
      | chosen :: _ => { desk with routed := desk.routed ++ [(chosen, task)] }
    | .observe .. | .answer .. => desk

def run (events : List (DeskEvent F)) : Desk W F := events.foldl (step env) desk

/-- A kernel without agents. -/
def opening (world : W) : Desk W F where
  kernel := { registry := [], world }

variable {env} {desk}

/-- How an event ends: it is an observation, a registration, a routing, or nothing. -/
inductive Ends (env : Environment W F) (desk : Desk W F) (event : DeskEvent F) : Desk W F → Prop where
  | same : Ends env desk event desk
  | observed (agentId : String) (telemetry : AgentTelemetry F) (decision : GovernanceDecision F)
      (kernel : Kernel W F) (hevent : desk.observation event = some (agentId, telemetry))
      (hobserve : desk.kernel.observe env agentId telemetry = .ok (decision, kernel)) :
      Ends env desk event { desk with kernel }
  | registered (record : AgentRecord F) (hstate : record.state = .active)
      (hstreak : record.failureStreak = 0)
      (hnew : ∀ r ∈ desk.kernel.registry, r.spec.agentId ≠ record.spec.agentId) :
      Ends env desk event
        { desk with kernel := { desk.kernel with registry := desk.kernel.registry ++ [record] } }
  | routed (task : TaskEnvelope F) (chosen : AgentRecord F)
      (hchosen : chosen ∈ desk.kernel.routeCandidates env.policy task.requiredCapability) :
      Ends env desk event { desk with routed := desk.routed ++ [(chosen, task)] }

variable (env) (desk) in
theorem step_ends (event : DeskEvent F) : Ends env desk event (desk.step env event) := by
  unfold step
  split
  · rename_i agentId telemetry hevent
    split
    · exact .same
    · rename_i decision kernel hobserve
      exact .observed agentId telemetry decision kernel hevent hobserve
  · split
    · split
      · exact .same
      · rename_i e hget
        refine .registered _ rfl rfl ?_
        unfold Kernel.getAgent at hget
        split at hget
        · cases hget
        · rename_i hfind
          intro r hr
          simpa using List.find?_eq_none.mp hfind r hr
    · rename_i task _
      split
      · exact .same
      · rename_i chosen rest hcandidates
        exact .routed task chosen (hcandidates ▸ List.mem_cons_self)
    · exact .same
    · exact .same

/-- What holds of the desk in every history. -/
structure Orderly (p : KernelPolicy F) (desk : Desk W F) : Prop where
  unique : (desk.kernel.registry.map fun r => r.spec.agentId).Nodup
  critical : ∀ agent ∈ desk.kernel.registry, IsCritical agent → agent.state ≠ .archived
  streak : ∀ agent ∈ desk.kernel.registry, agent.state = .active →
    agent.failureStreak < p.maxFailureStreak
  routed : ∀ entry ∈ desk.routed, entry.1.state = .active ∧
    entry.2.requiredCapability ∈ entry.1.spec.capabilities

namespace Orderly

theorem observed (h : desk.Orderly env.policy) {agentId : String} {telemetry : AgentTelemetry F}
    {decision : GovernanceDecision F} {kernel : Kernel W F}
    (hobserve : desk.kernel.observe env agentId telemetry = .ok (decision, kernel)) :
    ({ desk with kernel } : Desk W F).Orderly env.policy := by
  obtain ⟨record, hobserved⟩ := Kernel.observe_ok hobserve
  have hrecord := Kernel.mem_of_getAgent hobserved.found
  constructor
  · change (kernel.registry.map fun r => r.spec.agentId).Nodup
    rw [hobserved.ids]
    exact h.unique
  · intro agent hagent hcritical
    rcases hobserved.registry_cases hagent with rfl | ⟨hold, -⟩
    · exact hobserved.judged.ne_archived hcritical (h.critical record hrecord hcritical)
    · exact h.critical agent hold hcritical
  · intro agent hagent hactive
    rcases hobserved.registry_cases hagent with rfl | ⟨hold, -⟩
    · exact hobserved.judged.streak hactive
    · exact h.streak agent hold hactive
  · exact h.routed

theorem step (h : desk.Orderly env.policy) (hlimit : 1 ≤ env.policy.maxFailureStreak)
    (event : DeskEvent F) : (desk.step env event).Orderly env.policy := by
  have hends := step_ends env desk event
  generalize desk.step env event = after at hends ⊢
  cases hends with
  | same => exact h
  | observed agentId telemetry decision kernel hevent hobserve => exact h.observed hobserve
  | registered record hstate hstreak hnew =>
    constructor
    · change ((desk.kernel.registry ++ [record]).map fun r => r.spec.agentId).Nodup
      rw [List.map_append, List.map_singleton]
      refine h.unique.append (List.nodup_singleton _) ?_
      intro id hid hlast
      obtain ⟨r, hr, rfl⟩ := List.mem_map.mp hid
      exact hnew r hr (List.mem_singleton.mp hlast)
    · intro agent hagent hcritical
      rcases List.mem_append.mp hagent with hold | hlast
      · exact h.critical agent hold hcritical
      · obtain rfl := List.mem_singleton.mp hlast
        simp [hstate]
    · intro agent hagent hactive
      rcases List.mem_append.mp hagent with hold | hlast
      · exact h.streak agent hold hactive
      · obtain rfl := List.mem_singleton.mp hlast
        omega
    · exact h.routed
  | routed task chosen hchosen =>
    refine ⟨h.unique, h.critical, h.streak, ?_⟩
    intro entry hentry
    rcases List.mem_append.mp hentry with hold | hlast
    · exact h.routed entry hold
    · obtain rfl := List.mem_singleton.mp hlast
      exact (Kernel.mem_routeCandidates hchosen).2

theorem run (h : desk.Orderly env.policy) (hlimit : 1 ≤ env.policy.maxFailureStreak)
    (events : List (DeskEvent F)) : (desk.run env events).Orderly env.policy := by
  induction events generalizing desk with
  | nil => exact h
  | cons event events ih => exact ih (h.step hlimit event)

end Orderly

theorem opening_orderly (p : KernelPolicy F) (world : W) :
    (opening world : Desk W F).Orderly p where
  unique := List.nodup_nil
  critical _ hagent := absurd hagent List.not_mem_nil
  streak _ hagent := absurd hagent List.not_mem_nil
  routed _ hentry := absurd hentry List.not_mem_nil

variable (env) (desk)

def stateOf (agentId : String) : Option AgentState :=
  (desk.kernel.registry.find? fun r => r.spec.agentId = agentId).map AgentRecord.state

/-- Every event of a history meets this condition where it happens. -/
def Along (condition : Desk W F → DeskEvent F → Prop) : Desk W F → List (DeskEvent F) → Prop
  | _, [] => True
  | desk, event :: events => condition desk event ∧ Along condition (desk.step env event) events

/-- An archived agent is observed below the quarantine risk only. -/
def BelowRisk (agentId : String) (event : DeskEvent F) : Prop :=
  desk.stateOf agentId = some .archived → ∀ telemetry,
    desk.observation event = some (agentId, telemetry) →
      ¬ HighRisk env.policy (fromAgentTelemetry telemetry)

/-- The event observes an archived agent that the reactivation conditions hold of, and makes it
transitional. -/
def Reactivates (agentId : String) (event : DeskEvent F) : Prop :=
  desk.stateOf agentId = some .archived ∧
    (desk.step env event).stateOf agentId = some .transitional ∧
    ∃ telemetry decision after, desk.observation event = some (agentId, telemetry) ∧
      desk.kernel.observe env agentId telemetry = .ok (decision, after) ∧
      ReactivationHolds env.policy decision.coefficients decision.cgt

variable {env} {desk}

theorem stateOf_eq_some {agentId : String} {state : AgentState} :
    desk.stateOf agentId = some state ↔
      ∃ agent, desk.kernel.getAgent agentId = .ok agent ∧ agent.state = state := by
  simp only [stateOf, Option.map_eq_some_iff, Kernel.getAgent_eq_ok]

theorem stateOf_observed {agentId : String} {telemetry : AgentTelemetry F}
    {decision : GovernanceDecision F} {kernel : Kernel W F} {record : AgentRecord F}
    (h : Kernel.Observed env agentId telemetry desk.kernel decision kernel record)
    (other : String) :
    ({ desk with kernel } : Desk W F).stateOf other =
      if other = agentId then some decision.newState else desk.stateOf other := by
  let written : AgentRecord F := { record.observed env telemetry with state := decision.newState }
  have hid : record.spec.agentId = agentId := Kernel.getAgent_agentId h.found
  have hread : (kernel.registry.find? fun r => r.spec.agentId = other) =
      (desk.kernel.registry.find? fun r => r.spec.agentId = other).map fun r =>
        if r.spec.agentId = agentId then written else r := by
    rw [h.registry, ← hid]
    exact get?_put_eq_map _ written other
  change (kernel.registry.find? _).map AgentRecord.state = _
  rw [hread]
  split
  · rename_i hsame
    rw [hsame, Kernel.getAgent_eq_ok.mp h.found, Option.map_some, Option.map_some, if_pos hid]
  · rename_i hother
    rw [stateOf, Option.map_map]
    cases hfind : desk.kernel.registry.find? fun r => decide (r.spec.agentId = other) with
    | none => rfl
    | some agent =>
      have hagent : agent.spec.agentId = other := by simpa using List.find?_some hfind
      rw [Option.map_some, Option.map_some, Function.comp_apply, if_neg (hagent ▸ hother)]

theorem stateOf_registered {record : AgentRecord F} {agentId : String}
    (hfound : desk.stateOf agentId ≠ none) :
    ({ desk with
      kernel := { desk.kernel with registry := desk.kernel.registry ++ [record] } }
        : Desk W F).stateOf agentId = desk.stateOf agentId := by
  unfold stateOf at hfound ⊢
  change ((desk.kernel.registry ++ [record]).find? _).map _ = _
  rw [List.find?_append]
  cases hfind : desk.kernel.registry.find? fun r => decide (r.spec.agentId = agentId) with
  | none => exact absurd (by rw [hfind]; rfl) hfound
  | some agent => rfl

theorem archived_step {agentId : String} {event : DeskEvent F}
    (harchived : desk.stateOf agentId = some .archived) (hbelow : desk.BelowRisk env agentId event) :
    (desk.step env event).stateOf agentId = some .archived ∨ desk.Reactivates env agentId event := by
  have hends := step_ends env desk event
  generalize hafter : desk.step env event = after at hends
  cases hends with
  | same => exact .inl harchived
  | registered record hstate hstreak hnew =>
    left
    rw [stateOf_registered (by rw [harchived]; simp)]
    exact harchived
  | routed task chosen hchosen => exact .inl harchived
  | observed observedId telemetry decision kernel hevent hobserve =>
    obtain ⟨record, hobserved⟩ := Kernel.observe_ok hobserve
    have hstate := stateOf_observed hobserved agentId
    by_cases hsame : agentId = observedId
    · subst hsame
      rw [if_pos rfl] at hstate
      by_cases hkept : decision.newState = .archived
      · exact .inl (hstate.trans (congrArg some hkept))
      · obtain ⟨agent, hget, hagent⟩ := stateOf_eq_some.mp harchived
        obtain rfl := Except.ok.inj (hget.symm.trans hobserved.found)
        obtain ⟨hholds, hnew⟩ := hobserved.judged.reactivated_of_archived hagent
          (hbelow harchived telemetry hevent) hkept
        rw [← hobserved.coefficients] at hholds
        refine .inr ⟨harchived, ?_, telemetry, decision, kernel, hevent, hobserve, hholds⟩
        rw [hafter, hstate, hnew]
    · rw [if_neg hsame] at hstate
      exact .inl (hstate.trans harchived)

/-- In every history that observes an archived agent below the quarantine risk only, the agent
is active again only after an observation that reactivated it. -/
theorem archived_comes_back {agentId : String} {events : List (DeskEvent F)}
    (hbelow : Along env (fun desk event => desk.BelowRisk env agentId event) desk events)
    (harchived : desk.stateOf agentId = some .archived)
    (hactive : (desk.run env events).stateOf agentId = some .active) :
    ∃ before event after, events = before ++ event :: after ∧
      (desk.run env before).Reactivates env agentId event := by
  induction events generalizing desk with
  | nil =>
    rw [run, List.foldl_nil, harchived] at hactive
    cases hactive
  | cons event events ih =>
    rcases archived_step harchived hbelow.1 with hkept | hreactivates
    · obtain ⟨before, next, after, hevents, hnext⟩ := ih hbelow.2 hkept hactive
      exact ⟨event :: before, next, after, by rw [hevents, List.cons_append], hnext⟩
    · exact ⟨[], event, events, rfl, hreactivates⟩

/-! ## Trials

The engine finds an agent extinct at first and sound from then on. -/

def relentingEnvironment : Environment ℕ ℚ where
  policy := {}
  runtime := none
  evaluate _ world :=
    ({ retention := 0.5
       compatibility := 0.6
       transitionChannel := 0.2
       aftermathBalance := 0.0
       fateVector := none
       existenceRank := if world = 0 then some .extinct else none }, world + 1)
  audit _ world := world
  perfCounter world := (0.0, world)

/-- An agent is archived. -/
def archiving : List (DeskEvent ℚ) :=
  [.register { agentId := "writer", role := "author" } none, .observe "writer" {}]

def demanded : AgentTelemetry ℚ :=
  { cooperationSuccess := 1.0
    usefulHandoffRate := 1.0
    demandRate := 1.0
    businessPriority := 1.0
    queueDepth := 1.0 }

/-- Telemetry of an agent at the quarantine risk. -/
def risky : AgentTelemetry ℚ :=
  { resourceCost := 1.0, overlapScore := 1.0, policyRisk := 1.0, latencyP95Ms := 20000.0 }

def archivedDesk : Desk ℕ ℚ := (opening 0).run relentingEnvironment archiving

/-- In demand, the agent is reactivated and then active. -/
theorem archived_comes_back_demanded :
    ∃ before event after, [.observe "writer" demanded, .observe "writer" demanded] =
        before ++ event :: after ∧
      (archivedDesk.run relentingEnvironment before).Reactivates relentingEnvironment "writer" event := by
  have hbelow : Along relentingEnvironment
      (fun desk event => desk.BelowRisk relentingEnvironment "writer" event) archivedDesk
      [.observe "writer" demanded, .observe "writer" demanded] := by
    have hdemanded : ¬ HighRisk relentingEnvironment.policy (fromAgentTelemetry demanded) := by
      unfold HighRisk
      decide +kernel
    refine ⟨?_, ?_, trivial⟩
    · rintro - telemetry htelemetry
      obtain rfl := (Prod.mk.inj (Option.some.inj htelemetry)).2
      exact hdemanded
    · rintro - telemetry htelemetry
      obtain rfl := (Prod.mk.inj (Option.some.inj htelemetry)).2
      exact hdemanded
  exact archived_comes_back hbelow (by decide +kernel) (by decide +kernel)

/-- At the quarantine risk it is quarantined, and from there it is active without a
reactivation. -/
theorem quarantine_forgets_the_archive :
    archivedDesk.stateOf "writer" = some .archived ∧
      (archivedDesk.run relentingEnvironment
        [.observe "writer" risky, .observe "writer" demanded]).stateOf "writer" = some .active ∧
      ¬ ∃ before event after, [.observe "writer" risky, .observe "writer" demanded] =
          before ++ event :: after ∧
        (archivedDesk.run relentingEnvironment before).Reactivates relentingEnvironment "writer"
          event := by
  have hrisky : (archivedDesk.run relentingEnvironment [.observe "writer" risky]).stateOf "writer" =
      some .quarantined := by decide +kernel
  refine ⟨by decide +kernel, by decide +kernel, ?_⟩
  rintro ⟨before, event, after, hevents, harchived, htransitional, -⟩
  cases before with
  | nil =>
    obtain ⟨rfl, -⟩ := List.cons.inj hevents
    exact absurd (hrisky.symm.trans htransitional) (by simp)
  | cons first before =>
    obtain ⟨rfl, hrest⟩ := List.cons.inj hevents
    cases before with
    | nil => exact absurd (hrisky.symm.trans harchived) (by simp)
    | cons second before =>
      obtain ⟨-, hnil⟩ := List.cons.inj hrest
      simp at hnil

end Desk

end MaestroKernel.Workflow
