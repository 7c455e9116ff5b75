import MaestroKernel.Workflow.Interleaving

/-! # Recovery from exceptions

Records are written before the calls that may raise. A step is marked as running before its
start is audited and the runtime called, and a failed step is put back after its agent was
observed; a continuity value is written before the transition is evaluated. What a call
leaves behind when it raises depends on where it raised. -/

namespace MaestroKernel.Workflow.Coroutines

open Proc Table

variable {X W F : Type} [Number F]

/-! ## The continuity values and the decisions -/

def agentKey (agent : AgentRecord F) : String := agent.spec.agentId

def continuity (s : Site W F) : Subject → Option F
  | .agent agentId => (get? agentKey s.kernel.registry agentId).map AgentRecord.psi
  | .edge id => (s.kernel.handoffs.lookup id).map HandoffRecord.psi
  | .workflow => some s.workflow.psi

/-- How often a record was observed; a workflow keeps no count. -/
def observations (s : Site W F) : Subject → ℕ
  | .agent agentId =>
    ((get? agentKey s.kernel.registry agentId).map AgentRecord.observations).getD 0
  | .edge id => ((s.kernel.handoffs.lookup id).map HandoffRecord.observations).getD 0
  | .workflow => 0

/-- The continuity values that decisions on a record are about. -/
def decisionsOn (subject : Subject) (decisions : List (Subject × F)) : List F :=
  (decisions.filter fun entry => entry.1 = subject).map Prod.snd

/-- Every continuity value is the one of the last decision on its record, or as before, and
a record was observed as often as it was decided on. -/
structure Explained (new : List (Subject × F)) (s s' : Site W F) : Prop where
  decisions : s'.decisions = s.decisions ++ new
  continuity : ∀ subject, continuity s' subject =
    (decisionsOn subject new).getLast?.or (continuity s subject)
  observations : ∀ subject, subject ≠ .workflow →
    observations s' subject = observations s subject + (decisionsOn subject new).length

/-- Every observation produced a decision. -/
def Accounted (s s' : Site W F) : Prop := ∃ new, Explained new s s'

/-- What is observed, and the decisions, are unchanged. -/
structure Unobserved (s s' : Site W F) : Prop where
  registry : s'.kernel.registry = s.kernel.registry
  handoffs : s'.kernel.handoffs = s.kernel.handoffs
  psi : s'.workflow.psi = s.workflow.psi
  decisions : s'.decisions = s.decisions

section Accounts

variable {s s' s'' : Site W F}

omit [Number F] in
theorem decisionsOn_append (subject : Subject) (decisions new : List (Subject × F)) :
    decisionsOn subject (decisions ++ new) =
      decisionsOn subject decisions ++ decisionsOn subject new := by
  unfold decisionsOn
  rw [List.filter_append, List.map_append]

theorem Unobserved.refl (s : Site W F) : Unobserved s s := ⟨rfl, rfl, rfl, rfl⟩

theorem Unobserved.trans (h : Unobserved s s') (h' : Unobserved s' s'') : Unobserved s s'' :=
  ⟨h'.registry.trans h.registry, h'.handoffs.trans h.handoffs, h'.psi.trans h.psi,
    h'.decisions.trans h.decisions⟩

theorem Unobserved.continuity (h : Unobserved s s') (subject : Subject) :
    continuity s' subject = Coroutines.continuity s subject := by
  unfold Coroutines.continuity
  rw [h.registry, h.handoffs, h.psi]

theorem Unobserved.observations (h : Unobserved s s') (subject : Subject) :
    observations s' subject = Coroutines.observations s subject := by
  unfold Coroutines.observations
  rw [h.registry, h.handoffs]

theorem Unobserved.accounted (h : Unobserved s s') : Accounted s s' :=
  ⟨[], by rw [h.decisions, List.append_nil], h.continuity, fun subject _ => h.observations subject⟩

theorem Accounted.refl (s : Site W F) : Accounted s s := (Unobserved.refl s).accounted

theorem Accounted.trans (h : Accounted s s') (h' : Accounted s' s'') : Accounted s s'' := by
  obtain ⟨new, h⟩ := h
  obtain ⟨new', h'⟩ := h'
  refine ⟨new ++ new', ?_, fun subject => ?_, fun subject hsubject => ?_⟩
  · rw [h'.decisions, h.decisions, List.append_assoc]
  · rw [h'.continuity, h.continuity, decisionsOn_append, List.getLast?_append, Option.or_assoc]
  · rw [h'.observations subject hsubject, h.observations subject hsubject, decisionsOn_append,
      List.length_append, Nat.add_assoc]

/-- One record is observed and decided on. -/
theorem Accounted.observed (subject : Subject) (psi : F)
    (hdecisions : s'.decisions = s.decisions ++ [(subject, psi)])
    (hpsi : continuity s' subject = some psi)
    (hcount : subject ≠ .workflow → observations s' subject = observations s subject + 1)
    (hothers : ∀ other ≠ subject, continuity s' other = continuity s other ∧
      observations s' other = observations s other) : Accounted s s' := by
  have hself : decisionsOn subject [(subject, psi)] = [psi] := by simp [decisionsOn]
  have hother : ∀ other ≠ subject, decisionsOn other [(subject, psi)] = [] := by
    intro other hne
    simp [decisionsOn, Ne.symm hne]
  refine ⟨_, hdecisions, fun other => ?_, fun other hworkflow => ?_⟩
  · by_cases he : other = subject
    · rw [he, hself, hpsi]
      rfl
    · rw [hother other he, (hothers other he).1]
      rfl
  · by_cases he : other = subject
    · rw [he, hself]
      exact hcount (he ▸ hworkflow)
    · rw [hother other he, (hothers other he).2]
      rfl

end Accounts

/-! ## The observations -/

/-- At these points everything observed has been decided on. -/
def Point.Accounts : Point F → Prop
  | .agentEvaluate | .edgeEvaluate => False
  | .workflowEvaluate found written => written = found
  | _ => True

/-- A procedure whose observations produce decisions, unless it raises at another point. -/
abbrev Accounts {A : Type} (x : Stretch X W F A) : Prop :=
  KeepsWithin Accounted (fun fault => fault.point.Accounts) x

section Lookups

theorem lookup_map_self {entries : List (String × HandoffRecord F)} {id : String}
    (record : HandoffRecord F) (h : (entries.lookup id).isSome) :
    (entries.map fun entry => if entry.1 = id then (id, record) else entry).lookup id =
      some record := by
  induction entries with
  | nil => exact absurd h (by simp)
  | cons entry entries ih =>
    rw [List.map_cons]
    by_cases he : entry.1 = id
    · rw [if_pos he, List.lookup_cons_self]
    · have hne : (id == entry.1) = false := beq_false_of_ne (Ne.symm he)
      rw [if_neg he, List.lookup_cons, hne]
      rw [List.lookup_cons, hne] at h
      exact ih h

theorem lookup_map_of_ne (entries : List (String × HandoffRecord F)) {id other : String}
    (record : HandoffRecord F) (h : other ≠ id) :
    (entries.map fun entry => if entry.1 = id then (id, record) else entry).lookup other =
      entries.lookup other := by
  induction entries with
  | nil => rfl
  | cons entry entries ih =>
    rw [List.map_cons, List.lookup_cons, List.lookup_cons, ih]
    by_cases he : entry.1 = id
    · rw [if_pos he, he]
      have hne : (other == id) = false := beq_false_of_ne h
      rw [hne]
    · rw [if_neg he]

theorem lookup_setHandoff (k : Kernel W F) (id other : String) (record : HandoffRecord F) :
    (setHandoff id record k).handoffs.lookup other =
      if other = id then some record else k.handoffs.lookup other := by
  unfold setHandoff
  dsimp only
  by_cases he : other = id
  · subst he
    rw [if_pos rfl]
    split
    · rename_i hsome
      exact lookup_map_self record hsome
    · rename_i hnone
      rw [List.lookup_append, Option.not_isSome_iff_eq_none.mp hnone, List.lookup_cons_self]
      rfl
  · rw [if_neg he]
    split
    · exact lookup_map_of_ne k.handoffs record he
    · have hne : (other == id) = false := beq_false_of_ne he
      rw [List.lookup_append, List.lookup_cons, hne, List.lookup_nil, Option.or_none]

end Lookups

section Writes

variable {s s₁ : Site W F} {psi : F}

/-- An agent is observed and decided on. -/
theorem Accounted.agent {record first : AgentRecord F} {agentId : String}
    (hget : s.kernel.getAgent agentId = .ok record)
    (h : Unobserved { s with kernel := s.kernel.setAgent first } s₁)
    (hfirst : first.spec.agentId = record.spec.agentId)
    (hcount : first.observations = record.observations + 1) (hpsi : psi = first.psi)
    (state : AgentState) :
    Accounted s { s₁ with
      kernel := s₁.kernel.setAgent { first with state }
      decisions := s₁.decisions ++ [(.agent agentId, psi)] } := by
  have hid : first.spec.agentId = agentId := hfirst.trans (Kernel.getAgent_agentId hget)
  have hfound : get? agentKey s.kernel.registry agentId = some record :=
    Kernel.getAgent_eq_ok.mp hget
  -- the second write replaces the first
  have hregistry : (s₁.kernel.setAgent { first with state }).registry =
      put agentKey s.kernel.registry { first with state } :=
    (congrArg (put agentKey · { first with state }) h.registry).trans (put_put rfl)
  have hself : get? agentKey (s₁.kernel.setAgent { first with state }).registry agentId =
      some { first with state } := by
    subst hid
    rw [hregistry]
    exact get?_put_self hfound
  refine .observed (.agent agentId) psi ?_ ?_ (fun _ => ?_) fun other hne => ?_
  · exact congrArg (· ++ _) h.decisions
  · rw [continuity, hself, hpsi]
    rfl
  · rw [observations, observations, hself, hfound]
    exact hcount
  · cases other with
    | agent other =>
      have hkey : other ≠ agentKey { first with state } := by
        rintro rfl
        exact hne (congrArg Subject.agent hid)
      simp only [continuity, observations, hregistry, get?_put_of_ne hkey, and_self]
    | edge id =>
      have hhandoffs : s₁.kernel.handoffs = s.kernel.handoffs := h.handoffs
      simp only [continuity, observations, Kernel.setAgent, hhandoffs, and_self]
    | workflow => exact ⟨congrArg some h.psi, rfl⟩

/-- A hand-off is observed and decided on. -/
theorem Accounted.handoff {first : HandoffRecord F} {id : String}
    (h : Unobserved { s with kernel := setHandoff id first s.kernel } s₁)
    (hcount : first.observations = observations s (.edge id) + 1) (hpsi : psi = first.psi)
    (state : AgentState) :
    Accounted s { s₁ with
      kernel := setHandoff id { first with state } s₁.kernel
      decisions := s₁.decisions ++ [(.edge id, psi)] } := by
  have hlookup (other : String) :
      (setHandoff id { first with state } s₁.kernel).handoffs.lookup other =
        if other = id then some { first with state } else s.kernel.handoffs.lookup other := by
    rw [lookup_setHandoff, h.handoffs, lookup_setHandoff]
    split
    · rfl
    · rfl
  refine .observed (.edge id) psi ?_ ?_ (fun _ => ?_) fun other hne => ?_
  · exact congrArg (· ++ _) h.decisions
  · rw [continuity, hlookup, if_pos rfl, hpsi]
    rfl
  · rw [observations, hlookup, if_pos rfl]
    exact hcount
  · cases other with
    | agent other =>
      have hregistry : s₁.kernel.registry = s.kernel.registry := h.registry
      simp only [continuity, observations, setHandoff, hregistry, and_self]
    | edge other =>
      have hother : other ≠ id := fun he => hne (congrArg Subject.edge he)
      simp only [continuity, observations, hlookup, if_neg hother, and_self]
    | workflow => exact ⟨congrArg some h.psi, rfl⟩

theorem Accounted.workflow {first : WorkflowRecord F}
    (h : Unobserved { s with workflow := first } s₁) (hpsi : psi = first.psi)
    (state : WorkflowState) :
    Accounted s { s₁ with
      workflow := { first with state }
      decisions := s₁.decisions ++ [(.workflow, psi)] } := by
  have hregistry : s₁.kernel.registry = s.kernel.registry := h.registry
  have hhandoffs : s₁.kernel.handoffs = s.kernel.handoffs := h.handoffs
  refine .observed .workflow psi ?_ ?_ (fun hworkflow => absurd rfl hworkflow) fun other hne => ?_
  · exact congrArg (· ++ _) h.decisions
  · rw [continuity, hpsi]
  · cases other with
    | agent other => simp only [continuity, observations, hregistry, and_self]
    | edge other => simp only [continuity, observations, hhandoffs, and_self]
    | workflow => exact absurd rfl hne

end Writes

section Specs

variable (env : Environment X W F) {P : Fault X F → Prop}

theorem evaluate_unobserved {point : Point F} (hP : ∀ raised, P ⟨point, raised⟩)
    (t : Transition F) : Keeps Unobserved P (evaluate env point t) := by
  intro s
  unfold Ensures evaluate
  rcases env.evaluate t s.kernel.world with ⟨result, world⟩
  cases result with
  | ok report => exact ⟨rfl, rfl, rfl, rfl⟩
  | error e => exact ⟨⟨rfl, rfl, rfl, rfl⟩, hP _⟩

theorem audit_unobserved {point : Point F} (hP : ∀ raised, P ⟨point, raised⟩)
    (record : AuditRecord F) : Keeps Unobserved P (audit env point record) := by
  intro s
  unfold Ensures audit
  rcases env.audit record s.kernel.world with ⟨result, world⟩
  cases result with
  | ok _ => exact ⟨rfl, rfl, rfl, rfl⟩
  | error e => exact ⟨⟨rfl, rfl, rfl, rfl⟩, hP _⟩

theorem emit_unobserved {point : Point F} (hP : ∀ raised, P ⟨point, raised⟩)
    (event : MaestroEvent F) : Keeps Unobserved P (emit env point event) :=
  .bind .trans (fun _ => ⟨rfl, rfl, rfl, rfl⟩) fun _ => audit_unobserved env hP _

theorem demand_unobserved {A : Type} {point : Point F} (hP : ∀ raised, P ⟨point, raised⟩)
    (lookup : Site W F → Except KernelError A) : Keeps Unobserved P (demand point lookup) := by
  intro s
  unfold demand
  rw [ensures_bind, ensures_read]
  cases lookup s with
  | ok a => exact .refl s
  | error e => exact ⟨.refl s, hP _⟩

theorem accounts_of_unobserved {A : Type} {x : Stretch X W F A} (h : Keeps Unobserved P x) :
    Accounts x :=
  (h.weaken Unobserved.accounted fun _ h => h).within

theorem observe_accounts (agentId : String) (telemetry : AgentTelemetry F) :
    Accounts (observe env agentId telemetry) := by
  intro s
  unfold observe demand
  simp only [ensures_bind, ensures_read]
  cases hget : s.kernel.getAgent agentId with
  | error e => exact fun _ => .refl s
  | ok record =>
    simp only [ensures_pure]
    rcases stepPsi env.policy.dt record.psi (fromAgentTelemetry telemetry) with ⟨psi, dpsi⟩
    simp only [ensures_modify, decided]
    refine (evaluate_unobserved env (P := fun fault => fault.point = .agentEvaluate)
      (fun _ => rfl) _ _).mono (fun report s₁ hs₁ => ?_) fun fault s₁ hs₁ hpoint => ?_
    · have hwritten (state : AgentState) := Accounted.agent hget hs₁ rfl rfl rfl state
      exact (audit_unobserved env (P := fun _ => True) (fun _ => trivial) _ _).mono
        (fun _ s₂ hs₂ => (hwritten _).trans hs₂.accounted)
        fun _ s₂ hs₂ _ => (hwritten _).trans hs₂.1.accounted
    · rw [hs₁.2] at hpoint
      exact absurd hpoint id

theorem observeHandoff_accounts (source target : String) (telemetry : HandoffTelemetry F) :
    Accounts (observeHandoff env source target telemetry) := by
  intro s
  unfold observeHandoff
  rw [ensures_bind, ensures_read]
  dsimp only
  obtain ⟨record, hrecord⟩ : ∃ record : HandoffRecord F, record =
      (s.kernel.handoffs.lookup (edgeId source target)).getD
        { sourceAgentId := source, targetAgentId := target } := ⟨_, rfl⟩
  rw [← hrecord]
  have hcount : record.observations = observations s (.edge (edgeId source target)) := by
    rw [hrecord, observations]
    cases s.kernel.handoffs.lookup (edgeId source target) with
    | none => rfl
    | some found => rfl
  rcases stepPsi env.policy.dt record.psi (fromHandoffTelemetry telemetry) with ⟨psi, dpsi⟩
  simp only [ensures_bind, ensures_modify, decided]
  refine (evaluate_unobserved env (P := fun fault => fault.point = .edgeEvaluate)
    (fun _ => rfl) _ _).mono (fun report s₁ hs₁ => ?_) fun fault s₁ hs₁ hpoint => ?_
  · have hwritten (state : AgentState) := Accounted.handoff hs₁ (congrArg (· + 1) hcount) rfl state
    refine (audit_unobserved env (P := fun _ => True) (fun _ => trivial) _ _).mono
      (fun _ s₂ hs₂ => ?_) fun _ s₂ hs₂ _ => (hwritten _).trans hs₂.1.accounted
    have hs₂ := (hwritten _).trans hs₂.accounted
    split
    · exact (emit_unobserved env (P := fun _ => True) (fun _ => trivial) _ _).mono
        (fun _ s₃ hs₃ => hs₂.trans hs₃.accounted) fun _ s₃ hs₃ _ => hs₂.trans hs₃.1.accounted
    · exact hs₂
  · rw [hs₁.2] at hpoint
    exact absurd hpoint id

theorem observeWorkflow_accounts (telemetry : WorkflowTelemetry F) :
    Accounts (observeWorkflow env telemetry) := by
  intro s
  unfold observeWorkflow
  rw [ensures_bind, ensures_read]
  rcases hstep : stepPsi env.policy.dt s.workflow.psi (fromWorkflowTelemetry telemetry) with
    ⟨psi, dpsi⟩
  simp only [hstep, ensures_bind, ensures_modify, decided]
  refine (evaluate_unobserved env
    (P := fun fault => fault.point = .workflowEvaluate s.workflow.psi psi)
    (fun _ => rfl) _ _).mono (fun report s₁ hs₁ => ?_) fun fault s₁ hs₁ hpoint => ?_
  · have hwritten (state : WorkflowState) := Accounted.workflow hs₁ rfl state
    refine (audit_unobserved env (P := fun _ => True) (fun _ => trivial) _ _).mono
      (fun _ s₂ hs₂ => ?_) fun _ s₂ hs₂ _ => (hwritten _).trans hs₂.1.accounted
    have hs₂ := (hwritten _).trans hs₂.accounted
    exact (emit_unobserved env (P := fun _ => True) (fun _ => trivial) _ _).mono
      (fun _ s₃ hs₃ => hs₂.trans hs₃.accounted) fun _ s₃ hs₃ _ => hs₂.trans hs₃.1.accounted
  · -- the continuity value that was written is the one that was found
    rw [hs₁.2] at hpoint
    have hkept : psi = s.workflow.psi := hpoint
    exact Unobserved.accounted
      ⟨hs₁.1.registry, hs₁.1.handoffs, hs₁.1.psi.trans hkept, hs₁.1.decisions⟩

theorem accounts_read : Accounts (read : Stretch X W F (Site W F)) :=
  fun s => .refl s

theorem accounts_pure {A : Type} (a : A) : Accounts (pure a : Stretch X W F A) :=
  fun s => .refl s

theorem accounts_modify {f : Site W F → Site W F} (h : ∀ s, Unobserved s (f s)) :
    Accounts (modify f : Stretch X W F Unit) := fun s => (h s).accounted

theorem accounts_setStep (record : StepRecord) : Accounts (setStep record : Stretch X W F Unit) :=
  accounts_modify fun _ => ⟨rfl, rfl, rfl, rfl⟩

theorem accounts_emit (point : Point F) (event : MaestroEvent F) :
    Accounts (emit env point event) :=
  accounts_of_unobserved (emit_unobserved env (P := fun _ => True) (fun _ => trivial) event)

theorem accounts_demand {A : Type} (point : Point F) (lookup : Site W F → Except KernelError A) :
    Accounts (demand point lookup : Stretch X W F A) :=
  accounts_of_unobserved (demand_unobserved (P := fun _ => True) (fun _ => trivial) lookup)

theorem accounts_raise {A : Type} (fault : Fault X F) : Accounts (raise fault : Stretch X W F A) :=
  fun s _ => .refl s

theorem observeFromSteps_accounts : Accounts (observeFromSteps env) :=
  .bind .trans accounts_read fun _ => observeWorkflow_accounts env _

theorem observeDependency_accounts (record : StepRecord) (target d : String) :
    Accounts (observeDependency env record target d) := by
  unfold observeDependency
  refine .bind .trans (accounts_demand _ _) fun dependency => ?_
  split
  · exact accounts_pure ()
  · exact .bind .trans accounts_read fun s => observeHandoff_accounts env _ _ _

theorem observeHandoffs_accounts (record : StepRecord) (target : String)
    (dependencies : List String) : Accounts (observeHandoffs env record target dependencies) := by
  induction dependencies with
  | nil => exact accounts_pure ()
  | cons d dependencies ih =>
    exact .bind .trans (observeDependency_accounts env record target d) fun _ => ih

theorem observeStepHandoffs_accounts (record : StepRecord) :
    Accounts (observeStepHandoffs env record) := by
  unfold observeStepHandoffs
  refine .bind .trans accounts_read fun s => ?_
  dsimp only
  split
  · exact accounts_pure ()
  · exact observeHandoffs_accounts env _ _ _

theorem beginStep_accounts (record : StepRecord) (rest : List StepRecord) :
    Accounts (beginStep env record rest) := by
  unfold beginStep
  refine .bind .trans (accounts_demand _ _) fun agent => ?_
  refine .bind .trans accounts_read fun s => ?_
  refine .bind .trans (accounts_setStep _) fun _ => ?_
  refine .bind .trans accounts_read fun s => ?_
  refine .bind .trans (accounts_emit env _ _) fun _ => ?_
  refine .bind .trans (accounts_demand _ _) fun outputs => ?_
  exact .bind .trans accounts_read fun s => accounts_pure _

theorem finishStep_accounts (a : Awaiting F) (result : TaskResult F) (latencyMs : F) :
    Accounts (finishStep env a result latencyMs) := by
  unfold finishStep
  refine .bind .trans accounts_read fun s => ?_
  refine .bind .trans (accounts_setStep _) fun _ => ?_
  refine .bind .trans (accounts_demand _ _) fun agent => ?_
  refine .bind .trans accounts_read fun s => ?_
  refine .bind .trans (observe_accounts env _ _) fun _ => ?_
  refine .bind .trans accounts_read fun s => ?_
  dsimp only
  split
  · exact .bind .trans (accounts_setStep _) fun _ => accounts_emit env _ _
  · split
    · exact accounts_emit env _ _
    · exact accounts_pure ()

theorem record_accounts (a : Awaiting F) (result : TaskResult F) (elapsedMs : F) :
    Accounts (record env a result elapsedMs) := by
  unfold record
  refine .bind .trans (finishStep_accounts env a result _) fun _ => ?_
  refine .bind .trans (observeStepHandoffs_accounts env _) fun _ => ?_
  exact observeFromSteps_accounts env

theorem conduct_accounts (list : List StepRecord) : Accounts (conduct env list) := by
  have hbegin (record : StepRecord) (rest : List StepRecord) : Accounts (do
      let a ← beginStep env record rest
      return some a) :=
    .bind .trans (beginStep_accounts env record rest) fun a => accounts_pure _
  cases list with
  | cons record rest => exact hbegin record rest
  | nil =>
    unfold conduct
    refine .bind .trans (accounts_demand _ _) fun ready => ?_
    cases ready with
    | nil => exact .bind .trans (observeFromSteps_accounts env) fun _ => accounts_pure _
    | cons record rest => exact hbegin record rest

theorem start_accounts : Accounts (start env) := by
  have hrest : Accounts (do
      modify fun s => { s with workflow := { s.workflow with state := .running } }
      let workflowId := (← read).workflow.plan.workflowId
      emit env .startedAudit
        { workflowId := some workflowId
          action := .delegate
          subject := workflowId
          reason := "workflow started" }
      conduct env []) := by
    refine .bind .trans (accounts_modify fun _ => ⟨rfl, rfl, rfl, rfl⟩) fun _ => ?_
    refine .bind .trans accounts_read fun s => ?_
    exact .bind .trans (accounts_emit env _ _) fun _ => conduct_accounts env []
  unfold start
  split
  · exact .bind .trans (accounts_raise _) fun _ => hrest
  · exact hrest

theorem resume_accounts (a : Awaiting F) (reply : Reply X F) : Accounts (resume env a reply) := by
  cases reply with
  | error e => exact accounts_raise _
  | ok reply =>
    unfold resume
    refine .bind .trans (record_accounts env a _ _) fun _ => ?_
    refine .bind .trans accounts_read fun s => ?_
    dsimp only
    split
    · exact accounts_pure _
    · exact conduct_accounts env a.rest

end Specs

/-! ## The steps -/

/-- A step that no call has in hand: a later call starts it if it is to be run. -/
def Rested (p : KernelPolicy F) (record : StepRecord) : Prop :=
  record.state ≠ .running ∧
    (record.state ≠ .completed → (record.attempts : ℤ) < attemptLimit p record.step →
      record.state = .pending)

def Awaited (calls : ℕ → Option (Awaiting F)) (id : String) : Prop :=
  ∃ t a, calls t = some a ∧ a.stepId = id

/-- Every step that no call awaits is rested. -/
def Orderly (p : KernelPolicy F) (s : Site W F) (calls : ℕ → Option (Awaiting F)) : Prop :=
  ∀ id record, s.workflow.step? id = some record → Awaited calls id ∨ Rested p record

section Orderly

variable {env : Environment X W F} {p : KernelPolicy F} {s s' : Site W F}
  {calls : ℕ → Option (Awaiting F)} {t : ℕ} {a : Awaiting F} {result : TaskResult F}
  {after : StepRecord} {list : List StepRecord}

theorem Settled.rested (h : Settled env a result s after) : Rested env.policy after := by
  rcases h.state with hstate | hstate | ⟨hstate, hlimit⟩
  · exact ⟨by simp [hstate], fun hne => absurd hstate hne⟩
  · exact ⟨by simp [hstate], fun _ _ => hstate⟩
  · exact ⟨by simp [hstate], fun _ hleft => absurd hleft (not_lt.mpr hlimit)⟩

theorem Recorded.rested (h : Recorded a result s after)
    (howed : ¬ Owed env result (current a.record s)) : Rested env.policy after := by
  have hstate := h.state
  cases hok : result.ok with
  | true =>
    rw [hok, if_pos rfl] at hstate
    exact ⟨by simp [hstate], fun hne => absurd hstate hne⟩
  | false =>
    rw [hok, if_neg (by simp)] at hstate
    refine ⟨by simp [hstate], fun _ hleft => absurd ⟨hok, ?_⟩ howed⟩
    rw [← h.attempts, ← h.step]
    exact hleft

theorem Orderly.of_kept (h : Orderly p s calls) (hkept : StepsKept s s') : Orderly p s' calls := by
  intro id record hrecord
  rw [hkept.step?] at hrecord
  exact h id record hrecord

theorem Orderly.settle (h : Orderly p s calls) (ha : calls t = some a) (hwrote : Wrote after s s')
    (hid : after.step.stepId = a.stepId) (hrested : Rested p after) :
    Orderly p s' (Function.update calls t none) := by
  intro id record hrecord
  by_cases he : id = after.step.stepId
  · subst he
    obtain ⟨old, hold⟩ := hwrote.found hrecord
    rw [hwrote.step?_self hold] at hrecord
    obtain rfl := Option.some.inj hrecord
    exact .inr hrested
  · rw [hwrote.step?_of_ne he] at hrecord
    rcases h id record hrecord with ⟨t', a', ha', hid'⟩ | hrested
    · refine .inl ⟨t', a', ?_, hid'⟩
      rw [Function.update_of_ne, ha']
      rintro rfl
      obtain rfl := Option.some.inj (ha.symm.trans ha')
      exact he (hid'.symm.trans hid.symm)
    · exact .inr hrested

theorem Orderly.begun (h : Orderly p s calls) (hfree : calls t = none)
    (hwrote : Wrote after s s') (hid : after.step.stepId = a.stepId) :
    Orderly p s' (Function.update calls t (some a)) := by
  intro id record hrecord
  by_cases he : id = after.step.stepId
  · exact .inl ⟨t, a, Function.update_self .., hid.symm.trans he.symm⟩
  · rw [hwrote.step?_of_ne he] at hrecord
    refine (h id record hrecord).imp_left fun hawaited => ?_
    obtain ⟨t', a', ha', hid'⟩ := hawaited
    refine ⟨t', a', ?_, hid'⟩
    rw [Function.update_of_ne, ha']
    rintro rfl
    exact absurd (hfree.symm.trans ha') (by simp)

theorem Orderly.conducted (h : Orderly p s calls) (hfree : calls t = none)
    {next : Option (Awaiting F)} (hconducted : Conducted env s list next s') :
    Orderly p s' (Function.update calls t next) := by
  cases hconducted with
  | ended _ hkept _ =>
    rw [← hfree, Function.update_eq_self]
    exact h.of_kept hkept
  | begun _ hwrote hstarted => exact h.begun hfree hwrote (congrArg WorkflowStep.stepId hstarted.step)

theorem Orderly.interrupted (h : Orderly p s calls) {point : Point F} (hpoint : ¬ point.InStart)
    (hinterrupted : Interrupted env s list point s') : Orderly p s' calls := by
  cases hinterrupted with
  | kept _ _ hkept _ => exact h.of_kept hkept
  | begun hstart _ _ _ => exact absurd hstart hpoint

end Orderly

theorem mem_readySteps_of_pending {workflow : WorkflowRecord F} {steps ready : List StepRecord}
    {record : StepRecord} (h : workflow.readySteps steps = .ok ready) (hmem : record ∈ steps)
    (hpending : record.state = .pending)
    (hcompleted : workflow.allCompleted record.step.dependsOn = .ok true) : record ∈ ready := by
  induction steps generalizing ready with
  | nil => exact absurd hmem List.not_mem_nil
  | cons first steps ih =>
    rw [WorkflowRecord.readySteps] at h
    split at h
    · rename_i hfirst
      rcases List.mem_cons.mp hmem with rfl | hmem
      · exact absurd hpending hfirst
      · exact ih h hmem
    · split at h
      · cases h
      · rename_i completed hfirst
        split at h
        · cases h
        · rename_i rest hrest
          obtain rfl := Except.ok.inj h
          rcases List.mem_cons.mp hmem with rfl | hmem
          · obtain rfl := Except.ok.inj (hcompleted.symm.trans hfirst)
            exact List.mem_cons_self
          · have hrest := ih hrest hmem
            split
            · exact List.mem_cons_of_mem _ hrest
            · exact hrest

/-! ## Every run -/

/-- A call that raises has decided on what it observed, and has no step in hand. The runtime
does not raise, and when the result of a failed step was recorded, nothing does until the step
is put back. -/
def RaisesSafely (env : Environment X W F) : Act X W F → System W F → Prop
  | .call _, σ => ∀ fault s, start env σ.site = (.error fault, s) →
      fault.point.Accounts ∧ ¬ fault.point.InStart
  | .resume t reply, σ => ∀ a fault s, σ.calls t = some a →
      resume env a reply σ.site = (.error fault, s) →
        (fault.point.Accounts ∧ ¬ fault.point.InStart) ∧ fault.point ≠ .runtimeRun ∧
          ∀ result elapsedMs, reply = .ok (result, elapsedMs) → fault.point.InObserve →
            ¬ Owed env result (current a.record σ.site)
  | _, _ => True

/-- A later call finds the step when its dependencies are completed. -/
def Startable (workflow : WorkflowRecord F) (record : StepRecord) : Prop :=
  record.state = .pending ∧ ∀ ready, workflow.allCompleted record.step.dependsOn = .ok true →
    workflow.readySteps workflow.steps = .ok ready → record ∈ ready

/-- Only awaited steps are running, and what has attempts left can be started. -/
structure Recoverable (p : KernelPolicy F) (σ : System W F) : Prop where
  running : ∀ id record, σ.site.workflow.step? id = some record → record.state = .running →
    Awaited σ.calls id
  startable : ∀ id record, σ.site.workflow.step? id = some record → record.state ≠ .completed →
    (record.attempts : ℤ) < attemptLimit p record.step →
      Awaited σ.calls id ∨ Startable σ.site.workflow record

section Runs

variable {env : Environment X W F} {p : KernelPolicy F} {σ σ' : System W F}

theorem Orderly.recoverable (h : Orderly p σ.site σ.calls) : Recoverable p σ where
  running id record hrecord hrunning := by
    rcases h id record hrecord with hawaited | hrested
    · exact hawaited
    · exact absurd hrunning hrested.1
  startable id record hrecord hne hleft := by
    refine (h id record hrecord).imp_right fun hrested => ?_
    have hpending := hrested.2 hne hleft
    exact ⟨hpending, fun ready hcompleted hready => mem_readySteps_of_pending hready
      (WorkflowRecord.step?_spec hrecord).1 hpending hcompleted⟩

theorem Orderly.resume {s s' : Site W F} {calls : ℕ → Option (Awaiting F)} {t : ℕ}
    {a : Awaiting F} {result : TaskResult F} {elapsedMs : F}
    {outcome : Except (Fault X F) (Option (Awaiting F))} (h : Orderly env.policy s calls)
    (ha : calls t = some a) (hresumed : Resumed env a result elapsedMs s outcome s')
    (hsafe : ∀ fault, outcome = .error fault →
      ¬ fault.point.InStart ∧ (fault.point.InObserve → ¬ Owed env result (current a.record s))) :
    Orderly env.policy s' (goneOn calls t outcome) := by
  have hsettle : ∀ {s₁ after}, Wrote after s s₁ → Settled env a result s after →
      Orderly env.policy s₁ (Function.update calls t none) := by
    intro s₁ after hwrote hsettled
    have hid : after.step.stepId = a.stepId := by
      rw [hsettled.step, current_stepId]
      rfl
    exact h.settle ha hwrote hid hsettled.rested
  cases hresumed with
  | @unrecorded fault _ after hwrote _ hpoint =>
    rcases hpoint with ⟨hobserve, hrecorded⟩ | ⟨-, hsettled⟩
    · have hid : after.step.stepId = a.stepId := by
        rw [hrecorded.step, current_stepId]
        rfl
      exact h.settle ha hwrote hid (hrecorded.rested ((hsafe fault rfl).2 hobserve))
    · exact hsettle hwrote hsettled
  | stopped hwrote hsettled _ _ => exact hsettle hwrote hsettled
  | @conducted s₁ _ _ next hwrote hsettled _ _ hconducted =>
    have hnext := (hsettle hwrote hsettled).conducted (Function.update_self ..) hconducted
    rw [Function.update_idem] at hnext
    exact hnext
  | @interrupted s₁ _ _ fault hwrote hsettled _ _ hinterrupted =>
    exact (hsettle hwrote hsettled).interrupted (hsafe fault rfl).1 hinterrupted

theorem Orderly.call {s : Site W F} {calls : ℕ → Option (Awaiting F)} {t : ℕ}
    (h : Orderly env.policy s calls) (hfiling : Filing s calls) (hfree : calls t = none) :
    Ensures (start env) s
      (fun next s' => Orderly env.policy s' (Function.update calls t next))
      fun fault s' => ¬ fault.point.InStart →
        Orderly env.policy s' (Function.update calls t none) := by
  refine (start_spec env hfiling.unique).mono (fun next s' hs' => ?_) fun fault s' hs' hpoint => ?_
  · obtain ⟨s₁, hkept, hconducted⟩ := hs'
    exact (h.of_kept hkept).conducted hfree hconducted
  · obtain ⟨s₁, hkept, hinterrupted⟩ := hs'
    rw [← hfree, Function.update_eq_self]
    exact (h.of_kept hkept).interrupted hpoint hinterrupted

theorem orderly_next (hfiling : Filing σ.site σ.calls) (h : Orderly env.policy σ.site σ.calls)
    {ev : Act X W F} (hsafe : RaisesSafely env ev σ) (hnext : σ.next env ev = some σ') :
    Orderly env.policy σ'.site σ'.calls := by
  cases System.turn hfiling hnext with
  | called hfree hrun => exact (h.call hfiling hfree).of_ok hrun
  | uncalled hfree hrun => exact (h.call hfiling hfree).of_error hrun (hsafe _ _ hrun).2
  | failed hcalls => exact absurd rfl (hsafe _ _ _ hcalls rfl).2.1
  | resumed hcalls hrun hresumed =>
    refine h.resume hcalls hresumed fun fault hfault => ?_
    subst hfault
    have hpoint := hsafe _ _ _ hcalls hrun
    exact ⟨hpoint.1.2, hpoint.2.2 _ _ rfl⟩
  | intervened => exact h.of_kept ((intervene_kept env _ _ _ _).result _)
  | elsewhere => exact h.of_kept ⟨rfl, rfl⟩

theorem intervene_unobserved (action : MaestroAction) (subject reason : String)
    (payload : EventPayload F) (s : Site W F) :
    Unobserved s (intervene env action subject reason payload s).2 := by
  have hkeeps : Keeps Unobserved (fun _ => True) (intervene env action subject reason payload) := by
    unfold intervene
    refine .bind .trans (fun _ => ⟨rfl, rfl, rfl, rfl⟩) fun _ => ?_
    refine .bind .trans (.read .refl) fun s => ?_
    exact emit_unobserved env (fun _ => trivial) _
  exact hkeeps.result s

theorem accounted_next (hfiling : Filing σ.site σ.calls) {ev : Act X W F}
    (hev : ∀ kernel, ev ≠ .elsewhere kernel) (hsafe : RaisesSafely env ev σ)
    (hnext : σ.next env ev = some σ') : Accounted σ.site σ'.site := by
  cases System.turn hfiling hnext with
  | called hfree hrun => exact (start_accounts env _).of_ok hrun
  | uncalled hfree hrun => exact (start_accounts env _).of_error hrun (hsafe _ _ hrun).1
  | failed hcalls => exact .refl _
  | @resumed _ _ _ _ outcome s' hcalls hrun hresumed =>
    cases outcome with
    | ok next => exact (resume_accounts env _ _ _).of_ok hrun
    | error fault =>
      exact (resume_accounts env _ _ _).of_error hrun (hsafe _ _ _ hcalls hrun).1.1
  | intervened => exact (intervene_unobserved _ _ _ _ _).accounted
  | elsewhere => exact absurd rfl (hev _)

/-- Over every interleaving in which the exceptions come where nothing is under way, no step
is left running without a call, no step is lost to a later call, and every observation that
advanced a record produced a decision. -/
theorem exceptions_are_survived (env : Environment X W F) {σ : System W F}
    (h : System.Reaches env (RaisesSafely env) σ) :
    Recoverable env.policy σ ∧
      ∀ ev σ', (∀ kernel, ev ≠ .elsewhere kernel) → RaisesSafely env ev σ →
        σ.next env ev = some σ' → Accounted σ.site σ'.site := by
  have horderly : Orderly env.policy σ.site σ.calls := by
    induction h with
    | created plan kernel =>
      intro id record hrecord
      obtain ⟨step, -, rfl⟩ :=
        (stepRecords_spec plan.steps).2.1 record (WorkflowRecord.step?_spec hrecord).1
      exact .inr ⟨by simp, fun _ _ => rfl⟩
    | next ev hσ hsafe hnext ih => exact orderly_next hσ.filing ih hsafe hnext
  exact ⟨horderly.recoverable, fun ev σ' hev hsafe hnext => accounted_next h.filing hev hsafe hnext⟩

end Runs

namespace Pair

theorem failure_runs : (System.run environment [.call 0] system).any (fun σ =>
    ((σ.next environment (.resume 0 (.error ()))).bind fun σ =>
      (σ.site.workflow.step? "first").map StepRecord.state) = some .running) = true := by
  decide +kernel

/-- When the runtime raises, the step of the call is left running. -/
theorem step_is_left_running : ¬ ∀ σ : System Unit ℚ,
    System.Reaches environment (fun _ _ => True) σ → Recoverable environment.policy σ := by
  intro h
  obtain ⟨σ, hrun, hcheck⟩ := Option.any_eq_true _ _ |>.mp failure_runs
  obtain ⟨σ', hnext, hstep⟩ := Option.bind_eq_some_iff.mp (of_decide_eq_true hcheck)
  obtain ⟨record, hrecord, hrunning⟩ := Option.map_eq_some_iff.mp hstep
  have hreached : System.Reaches environment (fun _ _ => True) σ' :=
    .next _ (reached hrun) trivial hnext
  obtain ⟨t, a, ha, -⟩ := (h σ' hreached).running "first" record hrecord hrunning
  -- no call is left
  have hbefore : t ≠ 0 → σ.calls t = none := by
    intro hne
    obtain ⟨σ₁, hcall, hrest⟩ := Option.bind_eq_some_iff.mp hrun
    obtain rfl := Option.some.inj hrest
    have hcreated : System.Reaches environment (fun _ _ => True) system := .created plan kernel
    cases System.turn hcreated.filing hcall with
    | called _ _ => exact Function.update_of_ne hne _ _
    | uncalled _ _ => exact Function.update_of_ne hne _ _
  cases System.turn (reached hrun).filing hnext with
  | failed _ =>
    rcases update_calls ha with ⟨-, hnone⟩ | ⟨hne, hother⟩
    · exact absurd hnone.symm (Option.some_ne_none a)
    · exact absurd ((hbefore hne).symm.trans hother) (by simp)

/-- The audit sink raises on every record. -/
def deaf : Environment Unit Unit ℚ := { environment with audit := fun _ world => (.error (), world) }

theorem start_is_survived : ∃ σ, System.run deaf [.call 0] system = some σ ∧
    Recoverable deaf.policy σ := by
  obtain ⟨σ, hrun⟩ : ∃ σ, System.run deaf [.call 0] system = some σ := ⟨_, rfl⟩
  refine ⟨σ, hrun, (exceptions_are_survived deaf
    ((System.Reaches.created plan kernel).run ?_ hrun)).1⟩
  intro ev hev σ
  obtain rfl := List.mem_singleton.mp hev
  intro fault s hstart
  obtain ⟨hfault, -⟩ := Prod.mk.inj hstart
  obtain rfl := Except.error.inj hfault
  exact ⟨trivial, id⟩

end Pair

end MaestroKernel.Workflow.Coroutines
