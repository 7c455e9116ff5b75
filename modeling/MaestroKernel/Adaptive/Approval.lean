import MaestroKernel.Adaptive.Commands
import MaestroKernel.Adaptive.Gates
import Mathlib.Data.List.Induction

/-! # Human approval

An action in the human-gate set of the operating contract is not executed before a human
approves it. The approval of a request takes it off the pending ones, and is asked for
nowhere else: such an action is refused, and requested anew, every time. -/

namespace MaestroKernel.Adaptive

open Workflow

variable {F : Type} [Number F]

/-! ## Requests -/

structure HumanApprovalRequest where
  requestId : ℕ
  workflowId : String
  action : String
  reason : String
  policyVersion : String
  required : Bool := true
  approved : Bool := false
  decidedAt : Option ℚ := none

/-- What the profiler and the selector make of a workflow. -/
structure ApprovalEnvironment (F : Type) [Number F] where
  fmt : Formatting F
  qualityGate : AdaptiveQualityGate F := {}
  profileTask : String → TaskProfile
  selectPolicy : TaskProfile → PolicyProfile F

/-- What a call finds in the rest of the toolkit, and its clock reading. -/
structure Evidence (F : Type) where
  metrics : MetricsSnapshot F
  mode : RuntimeMode
  pendingOutcomeCount : ℕ
  now : ℚ

/-- The part of the toolkit and of the kernel that authorisations use. The requests are filed
under numbers, in the order in which they are made. -/
structure Control (F : Type) [Number F] where
  requests : List HumanApprovalRequest := []
  profiles : String → Option TaskProfile := fun _ => none
  policies : String → Option (PolicyProfile F) := fun _ => none
  contracts : String → Option (OperatingContract F) := fun _ => none
  workflowStates : String → WorkflowState := fun _ => .draft
  events : List Intervention := []
  fingerprints : String → List Fingerprint := fun _ => []
  results : String → List (RuntimeCommandResult F) := fun _ => []

structure ActionAuthorizationReport (F : Type) where
  workflowId : String
  action : MaestroAction
  authorized : Bool
  requiresHumanApproval : Bool
  reason : String
  contractValidation : OperatingContractValidation F
  requestId : Option ℕ
  violations : List String
  warnings : List String
  executed : Bool

/-- The arguments of `authorize_adaptive_action`. -/
structure Authorization where
  workflowId : String
  action : MaestroAction
  reason : String := "adaptive action authorization"
  autoExecute : Bool := false
  subject : Option String := none

/-- The arguments of `execute_checkpoint_recommendation`. -/
structure Recommendation (F : Type) where
  report : CheckpointReport F
  dryRun : Bool := true
  autoExecute : Bool := false
  preventDuplicate : Bool := true
  idempotencyKey : Option String := none
  throttleCooldownSeconds : ℚ := 0

namespace Control

variable (env : ApprovalEnvironment F)

def requestApproval (workflowId action reason policyVersion : String) (σ : Control F) :
    ℕ × Control F :=
  (σ.requests.length,
    { σ with
      requests := σ.requests ++
        [{ requestId := σ.requests.length, workflowId, action, reason, policyVersion }] })

/-- `approve`; an unknown request raises. -/
def approve (requestId : ℕ) (now : ℚ) (σ : Control F) : Option (Control F) :=
  if requestId < σ.requests.length then
    some { σ with
      requests := σ.requests.map fun r =>
        if r.requestId = requestId then { r with approved := true, decidedAt := some now } else r }
  else none

def pending (workflowId : String) (σ : Control F) : List HumanApprovalRequest :=
  σ.requests.filter fun r => r.workflowId = workflowId && r.required && !r.approved

/-! ### What is kept of a workflow, or made for it -/

def profile (σ : Control F) (workflowId : String) : TaskProfile :=
  (σ.profiles workflowId).getD (env.profileTask workflowId)

def policy (σ : Control F) (workflowId : String) : PolicyProfile F :=
  (σ.policies workflowId).getD (env.selectPolicy (σ.profile env workflowId))

def contract (σ : Control F) (workflowId : String) : OperatingContract F :=
  (σ.contracts workflowId).getD
    (buildContract workflowId (σ.profile env workflowId) (σ.policy env workflowId))

def prepare (workflowId : String) (σ : Control F) : Control F :=
  { σ with
    profiles := Function.update σ.profiles workflowId (some (σ.profile env workflowId))
    policies := Function.update σ.policies workflowId (some (σ.policy env workflowId))
    contracts := Function.update σ.contracts workflowId (some (σ.contract env workflowId)) }

/-! ### Authorisation -/

/-- The checks of `authorize_adaptive_action`. -/
def validation (evidence : Evidence F) (auth : Authorization) (σ : Control F) :
    OperatingContractValidation F :=
  let profile := σ.profile env auth.workflowId
  let pendingApprovals := (σ.pending auth.workflowId).length
  let qualityGate := env.qualityGate.evaluate env.fmt auth.workflowId evidence.metrics evidence.mode
    evidence.pendingOutcomeCount pendingApprovals (profile.risk = .critical)
  let invariants :=
    runtimeInvariantReport auth.workflowId profile (σ.policy env auth.workflowId) false
  validate env.fmt (σ.contract env auth.workflowId) qualityGate invariants
    evidence.pendingOutcomeCount pendingApprovals auth.action auth.autoExecute

def intervene (event : Intervention) (σ : Control F) : Control F :=
  { σ with
    workflowStates :=
      match event.action with
      | .pause => Function.update σ.workflowStates event.workflowId .paused
      | .escalate => Function.update σ.workflowStates event.workflowId .escalated
      | .finalize => Function.update σ.workflowStates event.workflowId .completed
      | .reroute => Function.update σ.workflowStates event.workflowId .degraded
      | _ => σ.workflowStates
    events := σ.events ++ [event] }

/-- `authorize_adaptive_action` -/
def authorize (evidence : Evidence F) (auth : Authorization) (σ : Control F) :
    ActionAuthorizationReport F × Control F :=
  let contract := σ.contract env auth.workflowId
  let validation := σ.validation env evidence auth
  let policyVersion := (σ.policy env auth.workflowId).policyVersion
  let requiresApproval := decide (auth.action ∈ contract.humanGateActions)
  let authorized := validation.passed && !requiresApproval
  let σ := σ.prepare env auth.workflowId
  let (requestId, σ) :=
    if requiresApproval then
      let (requestId, σ) := σ.requestApproval auth.workflowId (actionValue auth.action)
        (auth.reason ++ "; action requires operating-contract approval") policyVersion
      (some requestId, σ)
    else (none, σ)
  let executed := auth.autoExecute && authorized
  let σ :=
    if executed then
      σ.intervene
        { workflowId := auth.workflowId
          action := auth.action
          subject := (auth.subject.filter fun subject => subject ≠ "").getD auth.workflowId
          reason := auth.reason }
    else σ
  ({ workflowId := auth.workflowId
     action := auth.action
     authorized
     requiresHumanApproval := requiresApproval
     reason :=
       if authorized then "authorized" else "blocked by operating contract or human gate"
     contractValidation := validation
     requestId
     violations := validation.violations
     warnings := validation.warnings
     executed }, σ)

def command (recommendation : Recommendation F) : RuntimeCommand F :=
  let report := recommendation.report
  { workflowId := report.workflowId
    action := report.recommendedAction
    subject := report.workflowId
    reason := "checkpoint recommendation: " ++ report.kind.value
    payload :=
      { checkpointNumber := report.checkpointNumber
        policyVersion := report.policyVersion
        risks := report.risks
        confidence := report.confidence }
    dryRun := recommendation.dryRun || !recommendation.autoExecute }

def record (result : RuntimeCommandResult F) (σ : Control F) : Control F :=
  { σ with
    results := Function.update σ.results result.workflowId
      (σ.results result.workflowId ++ [result]) }

def withheld (command : RuntimeCommand F) (reason : String) (eventPayload : ResultPayload F)
    (now : ℚ) : RuntimeCommandResult F where
  workflowId := command.workflowId
  action := command.action
  executed := false
  dryRun := command.dryRun
  authorized := command.authorized
  requiresHumanApproval := command.requiresHumanApproval
  reason
  requestId := command.requestId
  eventPayload
  createdAt := now

/-- The command is executed by the adapter, and its fingerprint kept if it was. -/
def perform (command : RuntimeCommand F) (fingerprint : Fingerprint) (now : ℚ) (σ : Control F) :
    RuntimeCommandResult F × Control F :=
  let (result, event) := executeCommand command now
  let σ :=
    match event with
    | some event => σ.intervene event
    | none => σ
  let σ :=
    if !command.dryRun && result.executed then
      { σ with
        fingerprints := Function.update σ.fingerprints command.workflowId
          (fingerprint :: σ.fingerprints command.workflowId) }
    else σ
  (result, σ.record result)

/-- `execute_checkpoint_recommendation` -/
def executeRecommendation (evidence : Evidence F) (recommendation : Recommendation F)
    (σ : Control F) : RuntimeCommandResult F × Control F :=
  let command := command recommendation
  let (authorization, σ) := σ.authorize env evidence
    { workflowId := command.workflowId
      action := command.action
      reason := command.reason
      subject := some command.subject }
  let command :=
    { command with
      authorized := authorization.authorized
      requiresHumanApproval := authorization.requiresHumanApproval
      requestId := authorization.requestId }
  let cooldown := recommendation.throttleCooldownSeconds
  let throttle := planRuntimeCommandThrottle command.workflowId [command]
    (σ.results command.workflowId) cooldown evidence.now []
  if 0 < cooldown ∧ command.dryRun = false ∧ 0 ∈ throttle.suppressedIndices then
    let result := withheld command "runtime command suppressed by adaptive throttle"
      (.throttled command.subject cooldown) evidence.now
    (result, σ.record result)
  else
    let dedupe := deduplicateRuntimeCommand env.fmt command (σ.fingerprints command.workflowId)
      recommendation.idempotencyKey recommendation.preventDuplicate
    if dedupe.suppressed then
      let result := withheld command dedupe.reason (.duplicate dedupe.commandFingerprint)
        evidence.now
      (result, σ.record result)
    else σ.perform command dedupe.commandFingerprint evidence.now

end Control

inductive ApprovalAct (F : Type) [Number F] where
  | authorize (evidence : Evidence F) (auth : Authorization)
  | execute (evidence : Evidence F) (recommendation : Recommendation F)
  | request (workflowId action reason policyVersion : String)
  | approve (requestId : ℕ) (now : ℚ)
  /-- Profiles, policies and contracts are made elsewhere in the toolkit. -/
  | elsewhere (profiles : String → Option TaskProfile)
      (policies : String → Option (PolicyProfile F))
      (contracts : String → Option (OperatingContract F))

namespace Control

variable (env : ApprovalEnvironment F)

/-- A call that raises changes nothing. -/
def step (σ : Control F) : ApprovalAct F → Control F
  | .authorize evidence auth => (σ.authorize env evidence auth).2
  | .execute evidence recommendation => (σ.executeRecommendation env evidence recommendation).2
  | .request workflowId action reason policyVersion =>
    (σ.requestApproval workflowId action reason policyVersion).2
  | .approve requestId now => (σ.approve requestId now).getD σ
  | .elsewhere profiles policies contracts => { σ with profiles, policies, contracts }

def run (acts : List (ApprovalAct F)) : Control F := acts.foldl (step env) {}

end Control

/-! ## The gate -/

/-- The action is in the human-gate set of the contract of the workflow. -/
def Gated (env : ApprovalEnvironment F) (σ : Control F) (workflowId : String)
    (action : MaestroAction) : Prop := action ∈ (σ.contract env workflowId).humanGateActions

def Approved (σ : Control F) (workflowId : String) (action : MaestroAction) : Prop :=
  ∃ r ∈ σ.requests, r.workflowId = workflowId ∧ r.action = actionValue action ∧ r.approved = true

def OtherwiseMet (env : ApprovalEnvironment F) (σ : Control F) (evidence : Evidence F)
    (auth : Authorization) : Prop :=
  ∀ violation ∈ (σ.validation env evidence auth).violations,
    violation = humanApprovalViolation auth.action

section Gate

variable {env : ApprovalEnvironment F} {σ : Control F} {evidence : Evidence F}
  {auth : Authorization}

instance decidableGated (env : ApprovalEnvironment F) (σ : Control F) (workflowId : String)
    (action : MaestroAction) : Decidable (Gated env σ workflowId action) :=
  inferInstanceAs (Decidable (_ ∈ _))

theorem authorize_gated (evidence : Evidence F) (h : Gated env σ auth.workflowId auth.action) :
    (σ.authorize env evidence auth).1.authorized = false ∧
      (σ.authorize env evidence auth).1.requiresHumanApproval = true ∧
      (σ.authorize env evidence auth).1.requestId = some σ.requests.length ∧
      ∃ request, (σ.authorize env evidence auth).2.requests = σ.requests ++ [request] ∧
        request.requestId = σ.requests.length ∧ request.workflowId = auth.workflowId ∧
        request.required = true ∧ request.approved = false := by
  have hrequires : decide (auth.action ∈ (σ.contract env auth.workflowId).humanGateActions) = true :=
    decide_eq_true h
  unfold Control.authorize
  simp only [hrequires, Bool.not_true, Bool.and_false, if_true, Bool.false_eq_true, if_false]
  exact ⟨trivial, trivial, rfl, _, rfl, rfl, rfl, rfl, rfl⟩

theorem authorize_events (env : ApprovalEnvironment F) (σ : Control F) (evidence : Evidence F)
    (auth : Authorization) :
    (σ.authorize env evidence auth).2.events = σ.events ∨
      auth.autoExecute = true ∧ ∃ e : Intervention,
        (σ.authorize env evidence auth).2.events = σ.events ++ [e] ∧
          e.workflowId = auth.workflowId ∧ ¬ Gated env σ auth.workflowId e.action := by
  by_cases h : Gated env σ auth.workflowId auth.action
  · left
    have hrequires :
        decide (auth.action ∈ (σ.contract env auth.workflowId).humanGateActions) = true :=
      decide_eq_true h
    unfold Control.authorize
    simp only [hrequires, Bool.not_true, Bool.and_false, if_true, Bool.false_eq_true, if_false]
    rfl
  · have hrequires :
        decide (auth.action ∈ (σ.contract env auth.workflowId).humanGateActions) = false :=
      decide_eq_false h
    unfold Control.authorize
    simp only [hrequires, Bool.not_false, Bool.and_true, Bool.false_eq_true, if_false]
    split
    · rename_i hexecuted
      rw [Bool.and_eq_true] at hexecuted
      exact .inr ⟨hexecuted.1, _, rfl, rfl, h⟩
    · exact .inl rfl

omit [Number F] in
theorem executeCommand_event {command : RuntimeCommand F} {now : ℚ} {event : Intervention}
    (h : (executeCommand command now).2 = some event) :
    command.requiresHumanApproval = false ∧ event.workflowId = command.workflowId ∧
      event.action = command.action := by
  unfold executeCommand at h
  dsimp only at h
  cases hrefusal : refusal command with
  | some reason =>
    rw [hrefusal] at h
    exact absurd h (by simp)
  | none =>
    rw [hrefusal] at h
    obtain rfl := Option.some.inj h
    unfold refusal at hrefusal
    split at hrefusal
    · exact absurd hrefusal (by simp)
    · rename_i happroval
      exact ⟨Bool.eq_false_iff.mpr happroval, rfl, rfl⟩

theorem perform_events (σ : Control F) (command : RuntimeCommand F) (fingerprint : Fingerprint)
    (now : ℚ) : (σ.perform command fingerprint now).2.events = σ.events ∨
      ∃ e, (σ.perform command fingerprint now).2.events = σ.events ++ [e] ∧
        command.requiresHumanApproval = false ∧ e.workflowId = command.workflowId ∧
        e.action = command.action := by
  unfold Control.perform Control.record
  dsimp only
  cases hevent : (executeCommand command now).2 with
  | none =>
    left
    split
    · rfl
    · rfl
  | some event =>
    right
    refine ⟨event, ?_, executeCommand_event hevent⟩
    split
    · rfl
    · rfl

theorem executeRecommendation_events (env : ApprovalEnvironment F) (σ : Control F)
    (evidence : Evidence F) (recommendation : Recommendation F) :
    (σ.executeRecommendation env evidence recommendation).2.events = σ.events ∨
      ∃ e : Intervention,
        (σ.executeRecommendation env evidence recommendation).2.events = σ.events ++ [e] ∧
          ¬ Gated env σ e.workflowId e.action := by
  obtain ⟨auth, hauth⟩ : ∃ auth : Authorization, auth =
      { workflowId := (Control.command recommendation).workflowId
        action := (Control.command recommendation).action
        reason := (Control.command recommendation).reason
        subject := some (Control.command recommendation).subject } := ⟨_, rfl⟩
  have hrequires : (σ.authorize env evidence auth).1.requiresHumanApproval =
      decide (Gated env σ auth.workflowId auth.action) := rfl
  have hevents : (σ.authorize env evidence auth).2.events = σ.events := by
    rcases authorize_events env σ evidence auth with h | ⟨hauto, -⟩
    · exact h
    · rw [hauth] at hauto
      exact absurd hauto (by simp)
  unfold Control.executeRecommendation
  dsimp only
  rw [← hauth]
  split
  · exact .inl hevents
  split
  · exact .inl hevents
  rw [← hevents]
  refine (perform_events _ _ _ _).imp_right fun h => ?_
  obtain ⟨e, he, hopen, hid, haction⟩ := h
  refine ⟨e, he, ?_⟩
  rw [hid, haction]
  have hshut : ¬ Gated env σ auth.workflowId auth.action := of_decide_eq_false (hrequires ▸ hopen)
  rw [hauth] at hshut
  exact hshut

theorem step_events (env : ApprovalEnvironment F) (σ : Control F) (act : ApprovalAct F) :
    ∃ new, (σ.step env act).events = σ.events ++ new ∧
      ∀ e ∈ new, ¬ Gated env σ e.workflowId e.action := by
  have hsame : ∀ {σ' : Control F}, σ'.events = σ.events → ∃ new, σ'.events = σ.events ++ new ∧
      ∀ e ∈ new, ¬ Gated env σ e.workflowId e.action :=
    fun h => ⟨[], by rw [h, List.append_nil], fun _ he => absurd he List.not_mem_nil⟩
  have hone : ∀ {σ' : Control F} {e : Intervention}, σ'.events = σ.events ++ [e] →
      ¬ Gated env σ e.workflowId e.action → ∃ new, σ'.events = σ.events ++ new ∧
        ∀ e ∈ new, ¬ Gated env σ e.workflowId e.action := by
    intro σ' e h hopen
    refine ⟨[e], h, fun e' he' => ?_⟩
    rw [List.mem_singleton.mp he']
    exact hopen
  cases act with
  | authorize evidence auth =>
    rcases authorize_events env σ evidence auth with h | ⟨-, e, h, hid, hopen⟩
    · exact hsame h
    · exact hone h (hid ▸ hopen)
  | execute evidence recommendation =>
    rcases executeRecommendation_events env σ evidence recommendation with h | ⟨e, h, hopen⟩
    · exact hsame h
    · exact hone h hopen
  | request workflowId action reason policyVersion => exact hsame rfl
  | approve requestId now =>
    change ∃ new, ((σ.approve requestId now).getD σ).events = _ ∧ _
    unfold Control.approve
    split
    · exact hsame rfl
    · exact hsame rfl
  | elsewhere profiles policies contracts => exact hsame rfl

theorem authorize_requests (env : ApprovalEnvironment F) (σ : Control F) (evidence : Evidence F)
    (auth : Authorization) : (σ.authorize env evidence auth).2.requests = σ.requests ∨
      ∃ request, (σ.authorize env evidence auth).2.requests = σ.requests ++ [request] ∧
        request.requestId = σ.requests.length := by
  by_cases h : Gated env σ auth.workflowId auth.action
  · obtain ⟨-, -, -, request, hrequests, hid, -⟩ := authorize_gated evidence h
    exact .inr ⟨request, hrequests, hid⟩
  · left
    have hrequires :
        decide (auth.action ∈ (σ.contract env auth.workflowId).humanGateActions) = false :=
      decide_eq_false h
    unfold Control.authorize
    simp only [hrequires, Bool.false_eq_true, if_false]
    split
    · rfl
    · rfl

theorem executeRecommendation_requests (env : ApprovalEnvironment F) (σ : Control F)
    (evidence : Evidence F) (recommendation : Recommendation F) :
    ∃ auth, (σ.executeRecommendation env evidence recommendation).2.requests =
      (σ.authorize env evidence auth).2.requests := by
  refine ⟨{ workflowId := (Control.command recommendation).workflowId
            action := (Control.command recommendation).action
            reason := (Control.command recommendation).reason
            subject := some (Control.command recommendation).subject }, ?_⟩
  unfold Control.executeRecommendation Control.perform Control.record Control.intervene
  dsimp only
  repeat' split
  all_goals rfl

/-- The ids of the requests are below the one that comes next. -/
def Numbered (σ : Control F) : Prop := ∀ r ∈ σ.requests, r.requestId < σ.requests.length

theorem Numbered.append {σ' : Control F} {request : HumanApprovalRequest} (h : Numbered σ)
    (hrequests : σ'.requests = σ.requests ++ [request])
    (hid : request.requestId = σ.requests.length) : Numbered σ' := by
  intro r hr
  rw [hrequests] at hr ⊢
  rw [List.length_append, List.length_singleton]
  rcases List.mem_append.mp hr with hold | hnew
  · exact Nat.lt_succ_of_lt (h r hold)
  · rw [List.mem_singleton.mp hnew, hid]
    exact Nat.lt_succ_self _

theorem Numbered.authorize (h : Numbered σ) (env : ApprovalEnvironment F) (evidence : Evidence F)
    (auth : Authorization) {σ' : Control F}
    (hσ' : σ'.requests = (σ.authorize env evidence auth).2.requests) : Numbered σ' := by
  rcases authorize_requests env σ evidence auth with hsame | ⟨request, hrequests, hid⟩
  · unfold Numbered
    rw [hσ', hsame]
    exact h
  · exact h.append (hσ'.trans hrequests) hid

theorem Numbered.step (h : Numbered σ) (env : ApprovalEnvironment F) (act : ApprovalAct F) :
    Numbered (σ.step env act) := by
  cases act with
  | authorize evidence auth => exact h.authorize env evidence auth rfl
  | execute evidence recommendation =>
    obtain ⟨auth, hrequests⟩ := executeRecommendation_requests env σ evidence recommendation
    exact h.authorize env evidence auth hrequests
  | request workflowId action reason policyVersion => exact h.append rfl rfl
  | approve requestId now =>
    change Numbered ((σ.approve requestId now).getD σ)
    unfold Control.approve
    split
    · intro r hr
      obtain ⟨old, hold, rfl⟩ := List.mem_map.mp hr
      dsimp only [Option.getD_some]
      rw [List.length_map]
      split
      · exact h old hold
      · exact h old hold
    · exact h
  | elsewhere profiles policies contracts => exact h

theorem numbered_run (env : ApprovalEnvironment F) (acts : List (ApprovalAct F)) :
    Numbered (Control.run env acts) := by
  induction acts using List.reverseRecOn with
  | nil => exact fun _ hr => absurd hr List.not_mem_nil
  | append_singleton acts act ih =>
    unfold Control.run at ih ⊢
    rw [List.foldl_append]
    exact ih.step env act

/-- After every run: no call executes a gated action, and an authorisation of one is refused and
makes a new request, which is then pending, whatever a human approved before. -/
theorem human_gate_stays_shut (env : ApprovalEnvironment F) (acts : List (ApprovalAct F)) :
    let σ := Control.run env acts
    (∀ act, ∃ new, (σ.step env act).events = σ.events ++ new ∧
      ∀ e ∈ new, ¬ Gated env σ e.workflowId e.action) ∧
    ∀ evidence auth, Gated env σ auth.workflowId auth.action →
      (σ.authorize env evidence auth).1.authorized = false ∧
        ∃ request ∈ (σ.authorize env evidence auth).2.pending auth.workflowId,
          (σ.authorize env evidence auth).1.requestId = some request.requestId ∧
            ∀ r ∈ σ.requests, r.requestId ≠ request.requestId := by
  intro σ
  refine ⟨step_events env σ, fun evidence auth h => ?_⟩
  obtain ⟨hauthorized, -, hid, request, hrequests, hrequest, hworkflow, hrequired, happroved⟩ :=
    authorize_gated evidence h
  refine ⟨hauthorized, request, ?_, ?_, fun r hr => ?_⟩
  · unfold Control.pending
    rw [hrequests]
    refine List.mem_filter.mpr ⟨List.mem_append_right _ List.mem_cons_self, ?_⟩
    simp [hworkflow, hrequired, happroved]
  · rw [hid, hrequest]
  · rw [hrequest]
    exact Nat.ne_of_lt (numbered_run env acts r hr)

end Gate

namespace Rerouted

def fmt : Formatting ℚ where
  fixed2 _ := "0.00"
  json _ := "0.0"

def environment : ApprovalEnvironment ℚ where
  fmt
  profileTask _ := { duration := .short, risk := .medium }
  selectPolicy _ :=
    { name := .balanced
      policyVersion := "balanced-1.0.0"
      kernelPolicy := {}
      checkpointIntervalMinutes := some 30
      runtimeMode := .recommend
      minSampleSize := 20 }

def evidence : Evidence ℚ where
  metrics :=
    { handoffFailureRate := 0
      falseRetryRate := 0
      falseRerouteRate := 0
      agentBloatRatio := 0
      checkpointDetectionAccuracy := 1
      policyPatchSuccessRate := 1
      outcomeCoverageRatio := 1 }
  mode := .recommend
  pendingOutcomeCount := 0
  now := 0

def reroute : Authorization := { workflowId := "w", action := .reroute }

/-- The reroute is asked for, and approved. -/
def approved : List (ApprovalAct ℚ) := [.authorize evidence reroute, .approve 0 1]

/-- The approved reroute is refused, and asked for again. -/
theorem approval_is_ignored : ¬ ∀ (acts : List (ApprovalAct ℚ)) (auth : Authorization)
    (evidence : Evidence ℚ), Gated environment (Control.run environment acts) auth.workflowId
      auth.action → Approved (Control.run environment acts) auth.workflowId auth.action →
    OtherwiseMet environment (Control.run environment acts) evidence auth →
    ((Control.run environment acts).authorize environment evidence auth).1.authorized = true := by
  intro h
  have hgated : Gated environment (Control.run environment approved) reroute.workflowId
      reroute.action := by
    decide +kernel
  have happroved : Approved (Control.run environment approved) "w" .reroute := by
    refine ⟨_, List.mem_cons_self, rfl, rfl, rfl⟩
  have hmet : OtherwiseMet environment (Control.run environment approved) evidence reroute := by
    intro violation hviolation
    have hnone : ((Control.run environment approved).validation environment evidence
        reroute).violations = [] := by
      decide +kernel
    rw [hnone] at hviolation
    exact absurd hviolation List.not_mem_nil
  have hauthorized := h approved reroute evidence hgated happroved hmet
  have hrefused := (authorize_gated evidence hgated).1
  exact absurd (hauthorized.symm.trans hrefused) (by simp)

end Rerouted

end MaestroKernel.Adaptive
