import MaestroKernel.Library.Table
import MaestroKernel.Workflow.Coroutines
import MaestroKernel.Workflow.Termination

/-! # Interleaved calls

The calls of `run_workflow` for one workflow take turns, and an intervention or a task that
uses the kernel otherwise may come between any two turns. -/

namespace MaestroKernel.Workflow.Coroutines

open Proc

variable {X W F : Type} [Number F]

/-- The calls that await the runtime. `succeeded` are the steps that the runtime has ended
with an ok result, and `halted` tells whether the last intervention paused, escalated or
finalized the workflow and no call has come since; the code keeps neither. -/
structure System (W F : Type) [Number F] where
  site : Site W F
  calls : ℕ → Option (Awaiting F) := fun _ => none
  succeeded : List String := []
  halted : Bool := false

inductive Act (X W F : Type) [Number F] where
  | call (t : ℕ)
  | resume (t : ℕ) (reply : Reply X F)
  | intervene (action : MaestroAction) (subject reason : String) (payload : EventPayload F)
  /-- Other tasks use the kernel, without touching the workflow. -/
  | elsewhere (kernel : Kernel W F)

/-- The interventions that are to stop the workflow. -/
def Halts (action : MaestroAction) : Prop :=
  action = .pause ∨ action = .escalate ∨ action = .finalize

instance decidableHalts (action : MaestroAction) : Decidable (Halts action) :=
  inferInstanceAs (Decidable (_ ∨ _))

/-- The step ends with an ok result. -/
def Succeeded (reply : Reply X F) : Bool :=
  match reply with
  | .ok (result, _) => result.ok
  | .error _ => false

namespace System

/-- The state after a stretch of a call. -/
def after (σ : System W F) (t : ℕ)
    (outcome : Except (Fault X F) (Option (Awaiting F)) × Site W F) : System W F :=
  { σ with
    site := outcome.2
    calls := Function.update σ.calls t
      (match outcome.1 with
        | .ok a => a
        | .error _ => none) }

def next (env : Environment X W F) : Act X W F → System W F → Option (System W F)
  | .call t, σ =>
    match σ.calls t with
    | some _ => none
    | none => some { σ.after t (start env σ.site) with halted := false }
  | .resume t reply, σ =>
    match σ.calls t with
    | none => none
    | some a =>
      some { σ.after t (resume env a reply σ.site) with
        succeeded := if Succeeded reply then a.stepId :: σ.succeeded else σ.succeeded }
  | .intervene action subject reason payload, σ =>
    some { σ with
      site := (intervene env action subject reason payload σ.site).2
      halted := decide (Halts action) }
  | .elsewhere kernel, σ => some { σ with site := { σ.site with kernel } }

def created (plan : WorkflowPlan F) (kernel : Kernel W F) : System W F where
  site := { kernel, workflow := { plan, steps := Run.stepRecords plan.steps } }

/-- The states that a workflow reaches when every event meets `ok`. -/
inductive Reaches (env : Environment X W F) (ok : Act X W F → System W F → Prop) :
    System W F → Prop where
  | created (plan : WorkflowPlan F) (kernel : Kernel W F) : Reaches env ok (created plan kernel)
  | next {σ σ'} (ev : Act X W F) : Reaches env ok σ → ok ev σ → σ.next env ev = some σ' →
      Reaches env ok σ'

end System

namespace System

/-- A schedule is rejected at the first event that is not possible. -/
def run (env : Environment X W F) : List (Act X W F) → System W F → Option (System W F)
  | [], σ => some σ
  | ev :: evs, σ => (σ.next env ev).bind (run env evs)

theorem Reaches.run {env : Environment X W F} {ok : Act X W F → System W F → Prop}
    {σ σ' : System W F} {evs : List (Act X W F)} (h : Reaches env ok σ)
    (hok : ∀ ev ∈ evs, ∀ σ, ok ev σ) (hrun : System.run env evs σ = some σ') :
    Reaches env ok σ' := by
  induction evs generalizing σ with
  | nil =>
    obtain rfl := Option.some.inj hrun
    exact h
  | cons ev evs ih =>
    obtain ⟨σ₁, hnext, hrest⟩ := Option.bind_eq_some_iff.mp hrun
    exact ih (.next ev h (hok ev List.mem_cons_self σ) hnext)
      (fun ev hev => hok ev (List.mem_cons_of_mem _ hev)) hrest

theorem run_append {env : Environment X W F} {σ σ₁ : System W F} {evs : List (Act X W F)}
    (h : run env evs σ = some σ₁) (evs' : List (Act X W F)) :
    run env (evs ++ evs') σ = run env evs' σ₁ := by
  induction evs generalizing σ with
  | nil =>
    obtain rfl := Option.some.inj h
    rfl
  | cons ev evs ih =>
    obtain ⟨σ₂, hnext, hrest⟩ := Option.bind_eq_some_iff.mp h
    rw [List.cons_append, run, hnext, Option.bind_some]
    exact ih hrest

/-- The step that a call awaits. -/
def awaits (σ : System W F) (t : ℕ) : Option String := (σ.calls t).map Awaiting.stepId

theorem awaits_eq_some {σ : System W F} {t : ℕ} {stepId : String}
    (h : σ.awaits t = some stepId) : ∃ a, σ.calls t = some a ∧ a.stepId = stepId :=
  Option.map_eq_some_iff.mp h

end System

/-! ## What the stretches leave unchanged -/

/-- The workflow is unchanged. -/
def WorkflowKept (s s' : Site W F) : Prop := s'.workflow = s.workflow

/-- The plan and the steps are unchanged. -/
def StepsKept (s s' : Site W F) : Prop :=
  s'.workflow.plan = s.workflow.plan ∧ s'.workflow.steps = s.workflow.steps

theorem WorkflowKept.refl (s : Site W F) : WorkflowKept s s := rfl

theorem WorkflowKept.trans {s s' s'' : Site W F} (h : WorkflowKept s s') (h' : WorkflowKept s' s'') :
    WorkflowKept s s'' := Eq.trans h' h

theorem StepsKept.refl (s : Site W F) : StepsKept s s := ⟨rfl, rfl⟩

theorem StepsKept.trans {s s' s'' : Site W F} (h : StepsKept s s') (h' : StepsKept s' s'') :
    StepsKept s s'' := ⟨h'.1.trans h.1, h'.2.trans h.2⟩

theorem WorkflowKept.steps {s s' : Site W F} (h : WorkflowKept s s') : StepsKept s s' := by
  rw [WorkflowKept] at h
  rw [StepsKept, h]
  exact ⟨rfl, rfl⟩

/-! ### Where they raise -/

/-- The points of `observe`; at these a failed step is not yet put back. -/
def Point.InObserve : Point F → Prop
  | .agentLookup | .agentEvaluate | .agentAudit => True
  | _ => False

/-- The points at which a failed step is put back or given up -/
def Point.InRetry : Point F → Prop
  | .retryAudit | .giveUpAudit => True
  | _ => False

/-- The points of `_observe_step_handoffs` -/
def Point.InHandoffs : Point F → Prop
  | .handoffDependency | .edgeEvaluate | .edgeAudit | .edgeEventAudit => True
  | _ => False

/-- The points of `observe_workflow` -/
def Point.InWorkflow : Point F → Prop
  | .workflowEvaluate _ _ | .workflowAudit | .workflowEventAudit => True
  | _ => False

section Kept

variable (env : Environment X W F) {P : Fault X F → Prop}

theorem evaluate_kept {point : Point F} (hP : ∀ raised, P ⟨point, raised⟩) (t : Transition F) :
    Keeps WorkflowKept P (evaluate env point t) := by
  intro s
  unfold Ensures evaluate
  rcases env.evaluate t s.kernel.world with ⟨result, world⟩
  cases result with
  | ok report => rfl
  | error e => exact ⟨rfl, hP _⟩

theorem audit_kept {point : Point F} (hP : ∀ raised, P ⟨point, raised⟩) (record : AuditRecord F) :
    Keeps WorkflowKept P (audit env point record) := by
  intro s
  unfold Ensures audit
  rcases env.audit record s.kernel.world with ⟨result, world⟩
  cases result with
  | ok _ => rfl
  | error e => exact ⟨rfl, hP _⟩

theorem emit_kept {point : Point F} (hP : ∀ raised, P ⟨point, raised⟩) (event : MaestroEvent F) :
    Keeps WorkflowKept P (emit env point event) :=
  .bind .trans (fun _ => rfl) fun _ => audit_kept env hP _

theorem demand_kept {A : Type} {point : Point F} (hP : ∀ raised, P ⟨point, raised⟩)
    (lookup : Site W F → Except KernelError A) : Keeps WorkflowKept P (demand point lookup) := by
  intro s
  unfold demand
  rw [ensures_bind, ensures_read]
  cases lookup s with
  | ok a => rfl
  | error e => exact ⟨rfl, hP _⟩

theorem observe_kept (agentId : String) (telemetry : AgentTelemetry F) :
    Keeps WorkflowKept (fun fault => fault.point.InObserve) (observe env agentId telemetry) := by
  unfold observe
  refine .bind .trans (demand_kept (fun _ => trivial) _) fun record => ?_
  refine .bind .trans (fun _ => rfl) fun _ => ?_
  refine .bind .trans (evaluate_kept env (fun _ => trivial) _) fun report => ?_
  refine .bind .trans (fun _ => rfl) fun _ => ?_
  exact .bind .trans (fun _ => rfl) fun _ => audit_kept env (fun _ => trivial) _

theorem observeHandoff_kept (source target : String) (telemetry : HandoffTelemetry F) :
    Keeps WorkflowKept (fun fault => fault.point.InHandoffs)
      (observeHandoff env source target telemetry) := by
  unfold observeHandoff
  refine .bind .trans (.read .refl) fun s => ?_
  refine .bind .trans (fun _ => rfl) fun _ => ?_
  refine .bind .trans (evaluate_kept env (fun _ => trivial) _) fun report => ?_
  refine .bind .trans (fun _ => rfl) fun _ => ?_
  refine .bind .trans (fun _ => rfl) fun _ => ?_
  refine .bind .trans (audit_kept env (fun _ => trivial) _) fun _ => ?_
  split
  · exact emit_kept env (fun _ => trivial) _
  · exact .pure .refl _

theorem observeDependency_kept (record : StepRecord) (target d : String) :
    Keeps WorkflowKept (fun fault => fault.point.InHandoffs)
      (observeDependency env record target d) := by
  unfold observeDependency
  refine .bind .trans (demand_kept (fun _ => trivial) _) fun dependency => ?_
  split
  · exact .pure .refl _
  · exact .bind .trans (.read .refl) fun s => observeHandoff_kept env _ _ _

theorem observeHandoffs_kept (record : StepRecord) (target : String) (dependencies : List String) :
    Keeps WorkflowKept (fun fault => fault.point.InHandoffs)
      (observeHandoffs env record target dependencies) := by
  induction dependencies with
  | nil => exact .pure .refl _
  | cons d dependencies ih =>
    exact .bind .trans (observeDependency_kept env record target d) fun _ => ih

theorem observeStepHandoffs_kept (record : StepRecord) :
    Keeps WorkflowKept (fun fault => fault.point.InHandoffs)
      (observeStepHandoffs env record) := by
  unfold observeStepHandoffs
  refine .bind .trans (.read .refl) fun s => ?_
  dsimp only
  split
  · exact .pure .refl _
  · exact observeHandoffs_kept env _ _ _

theorem observeWorkflow_kept (telemetry : WorkflowTelemetry F) :
    Keeps StepsKept (fun fault => fault.point.InWorkflow) (observeWorkflow env telemetry) := by
  intro s
  unfold observeWorkflow
  rw [ensures_bind, ensures_read]
  rcases hstep : stepPsi env.policy.dt s.workflow.psi (fromWorkflowTelemetry telemetry) with
    ⟨psi, dpsi⟩
  simp only [hstep, ensures_bind, ensures_modify]
  refine (evaluate_kept env (fun _ => trivial) _ _).mono (fun report s₁ hs₁ => ?_)
    fun _ s₁ hs₁ => ⟨hs₁.1.steps, hs₁.2⟩
  simp only [decided, ensures_modify]
  refine (audit_kept env (fun _ => trivial) _ _).mono (fun _ s₂ hs₂ => ?_)
    fun _ s₂ hs₂ => ⟨hs₂.1.steps, hs₂.2⟩
  exact (emit_kept env (fun _ => trivial) _ _).mono (fun _ s₃ hs₃ => hs₂.steps.trans hs₃.steps)
    fun _ s₃ hs₃ => ⟨hs₂.steps.trans hs₃.1.steps, hs₃.2⟩

theorem observeFromSteps_kept :
    Keeps StepsKept (fun fault => fault.point.InWorkflow) (observeFromSteps env) :=
  .bind .trans (.read .refl) fun _ => observeWorkflow_kept env _

theorem intervene_kept (action : MaestroAction) (subject reason : String)
    (payload : EventPayload F) :
    Keeps StepsKept (fun _ => True) (intervene env action subject reason payload) := by
  unfold intervene
  refine .bind .trans (fun _ => ⟨rfl, rfl⟩) fun _ => ?_
  refine .bind .trans (.read .refl) fun s => ?_
  exact (emit_kept env (P := fun _ => True) (fun _ => trivial) _).weaken WorkflowKept.steps
    fun _ _ => trivial

end Kept

/-! ### The state of the workflow -/

def Point.Decided : Point F → Prop
  | .workflowAudit | .workflowEventAudit => True
  | _ => False

/-- A state that the governor gives a workflow with these steps. -/
def Recomputed (p : KernelPolicy F) (workflow : WorkflowRecord F) (state : WorkflowState) : Prop :=
  ∃ record dpsi report, record.steps = workflow.steps ∧
    state = (judgeWorkflow p record (fromWorkflowTelemetry (stepsTelemetry workflow)) dpsi report).1

def StateKept (s s' : Site W F) : Prop := s'.workflow.state = s.workflow.state

theorem StateKept.refl (s : Site W F) : StateKept s s := rfl

theorem StateKept.trans {s s' s'' : Site W F} (h : StateKept s s') (h' : StateKept s' s'') :
    StateKept s s'' := Eq.trans h' h

theorem WorkflowKept.state {s s' : Site W F} (h : WorkflowKept s s') : StateKept s s' := by
  rw [WorkflowKept] at h
  rw [StateKept, h]

theorem stepsTelemetry_congr {workflow other : WorkflowRecord F}
    (hplan : other.plan = workflow.plan) (hsteps : other.steps = workflow.steps) :
    stepsTelemetry other = stepsTelemetry workflow := by
  unfold stepsTelemetry WorkflowRecord.inState
  rw [hplan, hsteps]

theorem Recomputed.congr {p : KernelPolicy F} {workflow other : WorkflowRecord F}
    {state : WorkflowState} (h : Recomputed p other state) (hplan : other.plan = workflow.plan)
    (hsteps : other.steps = workflow.steps) : Recomputed p workflow state := by
  obtain ⟨record, dpsi, report, hrecord, hstate⟩ := h
  rw [stepsTelemetry_congr hplan hsteps] at hstate
  exact ⟨record, dpsi, report, hrecord.trans hsteps, hstate⟩

theorem observeFromSteps_state (env : Environment X W F) (s : Site W F) :
    Ensures (observeFromSteps env) s
      (fun _ s' => Recomputed env.policy s.workflow s'.workflow.state)
      fun fault s' => ¬ fault.point.Decided ∧ StateKept s s' ∨
        fault.point.Decided ∧ Recomputed env.policy s.workflow s'.workflow.state := by
  unfold observeFromSteps observeWorkflow
  rw [ensures_bind, ensures_read, ensures_bind, ensures_read]
  rcases hstep : stepPsi env.policy.dt s.workflow.psi
    (fromWorkflowTelemetry (stepsTelemetry s.workflow)) with ⟨psi, dpsi⟩
  simp only [hstep, ensures_bind, ensures_modify]
  have hdecided : ∀ (record : WorkflowRecord F) (report : Report F),
      record.steps = s.workflow.steps → Recomputed env.policy s.workflow (decideWorkflow env.policy
        record (fromWorkflowTelemetry (stepsTelemetry s.workflow)) dpsi report).newState :=
    fun record report h => ⟨record, dpsi, report, h, rfl⟩
  refine (evaluate_kept env (P := fun fault => ¬ fault.point.Decided) (fun _ => by exact id) _ _).mono
    (fun report s₁ hs₁ => ?_) fun _ s₁ hs₁ => .inl ⟨hs₁.2, ?_⟩
  · simp only [decided, ensures_modify]
    refine (audit_kept env (P := fun fault => fault.point.Decided) (fun _ => by trivial) _ _).mono
      (fun _ s₂ hs₂ => ?_) fun _ s₂ hs₂ => .inr ⟨hs₂.2, ?_⟩
    · refine (emit_kept env (P := fun fault => fault.point.Decided) (fun _ => by trivial) _ _).mono
        (fun _ s₃ hs₃ => ?_) fun _ s₃ hs₃ => .inr ⟨hs₃.2, ?_⟩
      · rw [hs₃.state, hs₂.state]
        exact hdecided _ report rfl
      · rw [hs₃.1.state, hs₂.state]
        exact hdecided _ report rfl
    · rw [hs₂.1.state]
      exact hdecided _ report rfl
  · exact hs₁.1.state

/-! ## What the stretches write to the steps -/

/-- One step record is replaced; the plan and the other steps stay. -/
def Wrote (record : StepRecord) (s s' : Site W F) : Prop :=
  s'.workflow.plan = s.workflow.plan ∧ s'.workflow.steps = (s.workflow.setStep record).steps

section Wrote

variable {s s' s'' : Site W F} {record : StepRecord} {id : String}

theorem Wrote.kept (h : Wrote record s s') (h' : StepsKept s' s'') : Wrote record s s'' :=
  ⟨h'.1.trans h.1, h'.2.trans h.2⟩

theorem Wrote.wrote {record' : StepRecord} (h : Wrote record s s') (h' : Wrote record' s' s'')
    (hid : record.step.stepId = record'.step.stepId) : Wrote record' s s'' := by
  refine ⟨h'.1.trans h.1, ?_⟩
  rw [h'.2, ← WorkflowRecord.setStep_setStep s.workflow hid, WorkflowRecord.setStep_steps, h.2,
    WorkflowRecord.setStep_steps]
  rfl

theorem StepsKept.step? (h : StepsKept s s') (id : String) :
    s'.workflow.step? id = s.workflow.step? id := WorkflowRecord.step?_congr h.2 id

theorem step?_setStep (workflow : WorkflowRecord F) (record : StepRecord) (id : String) :
    (workflow.setStep record).step? id = (workflow.step? id).map fun r =>
      if r.step.stepId = record.step.stepId then record else r :=
  Table.get?_put_eq_map workflow.steps record id

theorem Wrote.step?_self (h : Wrote record s s') {old : StepRecord}
    (hold : s.workflow.step? record.step.stepId = some old) :
    s'.workflow.step? record.step.stepId = some record := by
  rw [WorkflowRecord.step?_congr h.2, step?_setStep, hold, Option.map_some,
    if_pos (WorkflowRecord.step?_spec hold).2]

theorem Wrote.step?_of_ne (h : Wrote record s s') (hne : id ≠ record.step.stepId) :
    s'.workflow.step? id = s.workflow.step? id := by
  rw [WorkflowRecord.step?_congr h.2, step?_setStep]
  cases hold : s.workflow.step? id with
  | none => rfl
  | some old =>
    rw [Option.map_some, if_neg]
    rw [(WorkflowRecord.step?_spec hold).2]
    exact hne

theorem Wrote.ids (h : Wrote record s s') :
    (s'.workflow.steps.map fun r => r.step.stepId) =
      s.workflow.steps.map fun r => r.step.stepId := by
  rw [h.2]
  exact Table.map_key_put s.workflow.steps record

theorem Wrote.filed (h : Wrote record s s') (hold : ∃ old, s.workflow.step? id = some old) :
    ∃ old, s'.workflow.step? id = some old := by
  obtain ⟨old, hold⟩ := hold
  by_cases hid : id = record.step.stepId
  · subst hid
    exact ⟨record, h.step?_self hold⟩
  · rw [h.step?_of_ne hid]
    exact ⟨old, hold⟩

theorem Wrote.found (h : Wrote record s s') {new : StepRecord}
    (hnew : s'.workflow.step? id = some new) : ∃ old, s.workflow.step? id = some old := by
  rw [WorkflowRecord.step?_congr h.2, step?_setStep, Option.map_eq_some_iff] at hnew
  obtain ⟨old, hold, -⟩ := hnew
  exact ⟨old, hold⟩

theorem current_of_step? {old : StepRecord}
    (hold : s.workflow.step? record.step.stepId = some old) : current record s = old := by
  unfold current
  rw [hold]
  rfl

theorem current_stepId (record : StepRecord) (s : Site W F) :
    (current record s).step.stepId = record.step.stepId := by
  unfold current
  cases hold : s.workflow.step? record.step.stepId with
  | none => rfl
  | some old => exact (WorkflowRecord.step?_spec hold).2

end Wrote

section Specs

variable (env : Environment X W F)

/-- The step is put back when it failed and may be tried again. -/
def Owed (result : TaskResult F) (record : StepRecord) : Prop :=
  result.ok = false ∧ (record.attempts : ℤ) < attemptLimit env.policy record.step

/-- The result is in the record, and the step is not yet put back. -/
structure Recorded (a : Awaiting F) (result : TaskResult F) (s : Site W F) (record : StepRecord) :
    Prop where
  step : record.step = (current a.record s).step
  attempts : record.attempts = (current a.record s).attempts
  state : record.state = if result.ok then .completed else .failed

/-- The record of a step with its result, put back when it may be tried again. -/
def withResult (result : TaskResult F) (old : StepRecord) : StepRecord :=
  { old with
    output := result.output
    error := result.error
    state :=
      if result.ok then .completed
      else if (old.attempts : ℤ) < attemptLimit env.policy old.step then .pending
      else .failed }

def Settled (a : Awaiting F) (result : TaskResult F) (s : Site W F) (record : StepRecord) : Prop :=
  record = withResult env result (current a.record s)

section Settled

variable {env} {a : Awaiting F} {result : TaskResult F} {s : Site W F} {record : StepRecord}

theorem Settled.step (h : Settled env a result s record) :
    record.step = (current a.record s).step := by
  rw [h]
  rfl

theorem Settled.attempts (h : Settled env a result s record) :
    record.attempts = (current a.record s).attempts := by
  rw [h]
  rfl

theorem Settled.completed (h : Settled env a result s record) (hok : result.ok = true) :
    record.state = .completed := by
  rw [h, withResult, hok]
  rfl

theorem Settled.state (h : Settled env a result s record) :
    record.state = .completed ∨ record.state = .pending ∨
      record.state = .failed ∧ attemptLimit env.policy record.step ≤ record.attempts := by
  rw [h.attempts, h.step]
  rw [h, withResult]
  dsimp only
  split
  · exact .inl rfl
  · split
    · exact .inr (.inl rfl)
    · rename_i hlimit
      exact .inr (.inr ⟨rfl, not_lt.mp hlimit⟩)

end Settled

theorem finishStep_spec (a : Awaiting F) (result : TaskResult F) (latencyMs : F) {s : Site W F}
    {old : StepRecord} (hold : s.workflow.step? a.stepId = some old) :
    Ensures (finishStep env a result latencyMs) s
      (fun _ s' => ∃ record, Wrote record s s' ∧ Settled env a result s record)
      fun fault s' => ∃ record, Wrote record s s' ∧
        (fault.point.InObserve ∧ Recorded a result s record ∨
          fault.point.InRetry ∧ Settled env a result s record) := by
  unfold finishStep
  simp only [setStep, ensures_bind, ensures_read, ensures_modify]
  have hcurrent : current a.record s = old := current_of_step? hold
  have hid : old.step.stepId = a.record.step.stepId := (WorkflowRecord.step?_spec hold).2
  rw [hcurrent]
  -- the result is written first
  obtain ⟨first, hfirst⟩ : ∃ first : StepRecord, first = { old with
      output := result.output
      error := result.error
      state := if result.ok = true then .completed else .failed } := ⟨_, rfl⟩
  rw [← hfirst]
  have hstep : first.step = old.step := by rw [hfirst]
  have hattempts : first.attempts = old.attempts := by rw [hfirst]
  have hstate : first.state = if result.ok then .completed else .failed := by rw [hfirst]
  have hrecorded : Recorded a result s first :=
    ⟨by rw [hcurrent, hstep], by rw [hcurrent, hattempts], hstate⟩
  have hwrote : Wrote first s { s with workflow := s.workflow.setStep first } := ⟨rfl, rfl⟩
  refine (demand_kept (P := fun fault => fault.point.InObserve) (fun _ => by trivial) _ _).mono
    (fun agent s₁ hs₁ => ?_) fun fault s₁ hs₁ =>
      ⟨first, hwrote.kept hs₁.1.steps, .inl ⟨hs₁.2, hrecorded⟩⟩
  refine (observe_kept env _ _ _).mono (fun _ s₂ hs₂ => ?_) fun fault s₂ hs₂ =>
      ⟨first, (hwrote.kept hs₁.steps).kept hs₂.1.steps, .inl ⟨hs₂.2, hrecorded⟩⟩
  have hwrote₂ : Wrote first s s₂ := (hwrote.kept hs₁.steps).kept hs₂.steps
  have hfound : s.workflow.step? first.step.stepId = some old := by
    rw [hstep, hid]
    exact hold
  have hcurrent₂ : current a.record s₂ = first := by
    refine current_of_step? ?_
    rw [← hid, ← hstep]
    exact hwrote₂.step?_self hfound
  rw [hcurrent₂]
  -- then a failed step is put back, or given up
  split
  · rename_i howed
    rw [Bool.and_eq_true, decide_eq_true_eq, Bool.not_eq_true', hattempts, hstep] at howed
    have hsettled : Settled env a result s { first with state := .pending } := by
      rw [Settled, hcurrent, withResult, hfirst, howed.1, if_pos howed.2]
      rfl
    simp only [ensures_bind, ensures_modify]
    have hwrote₃ : Wrote { first with state := .pending } s { s₂ with
        workflow := s₂.workflow.setStep { first with state := .pending } } :=
      hwrote₂.wrote ⟨rfl, rfl⟩ rfl
    exact (emit_kept env (P := fun fault => fault.point.InRetry) (fun _ => by trivial) _ _).mono
      (fun _ s₃ hs₃ => ⟨_, hwrote₃.kept hs₃.steps, hsettled⟩)
      fun fault s₃ hs₃ => ⟨_, hwrote₃.kept hs₃.1.steps, .inr ⟨hs₃.2, hsettled⟩⟩
  · rename_i howed
    rw [Bool.and_eq_true, decide_eq_true_eq, Bool.not_eq_true', hattempts, hstep] at howed
    have hsettled : Settled env a result s first := by
      rw [Settled, hcurrent, withResult, hfirst]
      cases hok : result.ok with
      | true => rfl
      | false =>
        rw [if_neg fun hlimit => howed ⟨hok, hlimit⟩]
    split
    · exact (emit_kept env (P := fun fault => fault.point.InRetry) (fun _ => by trivial) _ _).mono
        (fun _ s₃ hs₃ => ⟨_, hwrote₂.kept hs₃.steps, hsettled⟩)
        fun fault s₃ hs₃ => ⟨_, hwrote₂.kept hs₃.1.steps, .inr ⟨hs₃.2, hsettled⟩⟩
    · exact ⟨_, hwrote₂, hsettled⟩

/-- What the start of a step writes to its record. -/
structure Started (old record : StepRecord) : Prop where
  step : record.step = old.step
  attempts : record.attempts = old.attempts + 1
  state : record.state = .running

/-- The points of `_run_step` at which the step is marked as running and the runtime is not
yet called. -/
def Point.InStart : Point F → Prop
  | .assignedAudit | .dependencies => True
  | _ => False

/-- An agent is found for the step. -/
def Assigned (record : StepRecord) (s : Site W F) : Prop :=
  ∃ agent, s.kernel.assignAgent env.policy record.step = .ok agent

theorem beginStep_spec (record : StepRecord) (rest : List StepRecord) {s : Site W F}
    {old : StepRecord} (hold : s.workflow.step? record.step.stepId = some old) :
    Ensures (beginStep env record rest) s
      (fun a s' => a.record = old ∧ a.rest = rest ∧ Assigned env record s ∧
        ∃ started, Wrote started s s' ∧ Started old started)
      fun fault s' => fault.point = .assignAgent ∧ WorkflowKept s s' ∨
        fault.point.InStart ∧ Assigned env record s ∧
          ∃ started, Wrote started s s' ∧ Started old started := by
  have hcurrent : current record s = old := current_of_step? hold
  unfold beginStep demand
  simp only [setStep, ensures_bind, ensures_read, ensures_modify, ensures_pure]
  cases hassign : s.kernel.assignAgent env.policy record.step with
  | error e => exact .inl ⟨rfl, .refl s⟩
  | ok agent =>
    have hassigned : Assigned env record s := ⟨agent, hassign⟩
    simp only [ensures_pure, hcurrent]
    obtain ⟨started, hstarted⟩ : ∃ started : StepRecord, started = { old with
        assignedAgentId := some agent.spec.agentId
        state := .running
        attempts := old.attempts + 1 } := ⟨_, rfl⟩
    rw [← hstarted]
    have hspec : Started old started := by
      rw [hstarted]
      exact ⟨rfl, rfl, rfl⟩
    have hwrote : Wrote started s { s with workflow := s.workflow.setStep started } := ⟨rfl, rfl⟩
    refine (emit_kept env (P := fun fault => fault.point.InStart) (fun _ => by trivial) _ _).mono
      (fun _ s₁ hs₁ => ?_) fun fault s₁ hs₁ =>
        .inr ⟨hs₁.2, hassigned, started, hwrote.kept hs₁.1.steps, hspec⟩
    have hwrote₁ := hwrote.kept hs₁.steps
    cases s₁.workflow.dependencyOutputs old.step.dependsOn with
    | error e => exact .inr ⟨trivial, hassigned, started, hwrote₁, hspec⟩
    | ok outputs => exact ⟨trivial, trivial, hassigned, started, hwrote₁, hspec⟩

/-- The points after the result is recorded and the step put back or given up. -/
def Point.InTelemetry (point : Point F) : Prop :=
  point.InRetry ∨ point.InHandoffs ∨ point.InWorkflow

theorem record_spec (a : Awaiting F) (result : TaskResult F) (elapsedMs : F) {s : Site W F}
    {old : StepRecord} (hold : s.workflow.step? a.stepId = some old) :
    Ensures (record env a result elapsedMs) s
      (fun _ s' => ∃ after, Wrote after s s' ∧ Settled env a result s after)
      fun fault s' => ∃ after, Wrote after s s' ∧
        (fault.point.InObserve ∧ Recorded a result s after ∨
          fault.point.InTelemetry ∧ Settled env a result s after) := by
  unfold record
  rw [ensures_bind]
  refine (finishStep_spec env a result _ hold).mono (fun _ s₁ hs₁ => ?_) fun fault s₁ hs₁ => ?_
  · obtain ⟨after, hwrote, hsettled⟩ := hs₁
    rw [ensures_bind]
    refine (observeStepHandoffs_kept env _ _).mono (fun _ s₂ hs₂ => ?_) fun fault s₂ hs₂ =>
      ⟨after, hwrote.kept hs₂.1.steps, .inr ⟨.inr (.inl hs₂.2), hsettled⟩⟩
    exact (observeFromSteps_kept env _).mono
      (fun _ s₃ hs₃ => ⟨after, (hwrote.kept hs₂.steps).kept hs₃, hsettled⟩)
      fun fault s₃ hs₃ =>
        ⟨after, (hwrote.kept hs₂.steps).kept hs₃.1, .inr ⟨.inr (.inr hs₃.2), hsettled⟩⟩
  · obtain ⟨after, hwrote, hobserve | ⟨hretry, hsettled⟩⟩ := hs₁
    · exact ⟨after, hwrote, .inl hobserve⟩
    · exact ⟨after, hwrote, .inr ⟨.inl hretry, hsettled⟩⟩

theorem mem_readySteps {workflow : WorkflowRecord F} {steps ready : List StepRecord}
    (h : workflow.readySteps steps = .ok ready) :
    ready.Sublist steps ∧ ∀ r ∈ ready, r.state = .pending := by
  induction steps generalizing ready with
  | nil =>
    obtain rfl : [] = ready := Except.ok.inj h
    exact ⟨.slnil, fun _ hr => absurd hr List.not_mem_nil⟩
  | cons record records ih =>
    rw [WorkflowRecord.readySteps] at h
    by_cases hpending : record.state = .pending
    · rw [if_neg (not_not_intro hpending)] at h
      cases hcompleted : workflow.allCompleted record.step.dependsOn with
      | error e =>
        rw [hcompleted] at h
        exact absurd h (by simp)
      | ok completed =>
        rw [hcompleted] at h
        cases hrest : workflow.readySteps records with
        | error e =>
          rw [hrest] at h
          exact absurd h (by simp)
        | ok rest =>
          rw [hrest] at h
          obtain rfl := Except.ok.inj h
          obtain ⟨hsub, hall⟩ := ih hrest
          cases completed with
          | false => exact ⟨hsub.cons _, hall⟩
          | true =>
            refine ⟨hsub.cons_cons _, fun r hr => ?_⟩
            rcases List.mem_cons.mp hr with rfl | hr
            · exact hpending
            · exact hall r hr
    · rw [if_pos hpending] at h
      obtain ⟨hsub, hall⟩ := ih h
      exact ⟨hsub.cons _, hall⟩

/-- The step that comes next: the first of the list as it is now, or, when the list is done,
the first of the steps that are ready. -/
inductive Next (s : Site W F) : List StepRecord → StepRecord → List StepRecord → Prop where
  | listed {record rest old} (h : s.workflow.step? record.step.stepId = some old)
      (hassigned : Assigned env record s) : Next s (record :: rest) old rest
  | ready {old rest} (h : s.workflow.readySteps s.workflow.steps = .ok (old :: rest)) :
      Next s [] old rest

def Filed (s : Site W F) (list : List StepRecord) : Prop :=
  ∀ record ∈ list, ∃ old, s.workflow.step? record.step.stepId = some old

/-- How a turn of the loop ends: with the end of the call, or with the start of a step. -/
inductive Conducted (s : Site W F) (list : List StepRecord) :
    Option (Awaiting F) → Site W F → Prop where
  | ended {s'} (hlist : list = []) (hkept : StepsKept s s')
      (hstate : Recomputed env.policy s.workflow s'.workflow.state) : Conducted s list none s'
  | begun {a s' started} (hnext : Next env s list a.record a.rest) (hwrote : Wrote started s s')
      (hstarted : Started a.record started) : Conducted s list (some a) s'

/-- How a turn of the loop raises: before a step is marked, after it, or at the end. -/
inductive Interrupted (s : Site W F) (list : List StepRecord) : Point F → Site W F → Prop where
  | kept {point s'} (hstart : ¬ point.InStart) (hobserve : ¬ point.InObserve)
      (hkept : StepsKept s s')
      (hstate : StateKept s s' ∨ Recomputed env.policy s.workflow s'.workflow.state) :
      Interrupted s list point s'
  | begun {point s' old rest started} (hstart : point.InStart) (hnext : Next env s list old rest)
      (hwrote : Wrote started s s') (hstarted : Started old started) :
      Interrupted s list point s'

omit [Number F] in
theorem Point.InWorkflow.outside {point : Point F} (h : point.InWorkflow) :
    ¬ point.InStart ∧ ¬ point.InObserve := by
  cases point <;> first
    | exact absurd h id
    | exact ⟨id, id⟩

theorem conduct_spec {s : Site W F}
    (hunique : (s.workflow.steps.map fun r => r.step.stepId).Nodup) {list : List StepRecord}
    (hfiled : Filed s list) :
    Ensures (conduct env list) s (Conducted env s list)
      fun fault s' => Interrupted env s list fault.point s' := by
  have hbegin : ∀ {record rest old}, s.workflow.step? record.step.stepId = some old →
      (Assigned env record s → Next env s list old rest) → Ensures (do
        let a ← beginStep env record rest
        return some a) s (Conducted env s list)
        fun fault s' => Interrupted env s list fault.point s' := by
    intro record rest old hold hnext
    rw [ensures_bind]
    refine (beginStep_spec env record rest hold).mono (fun a s' ha => ?_) fun fault s' hfault => ?_
    · obtain ⟨rfl, rfl, hassigned, started, hwrote, hstarted⟩ := ha
      exact .begun (hnext hassigned) hwrote hstarted
    · rcases hfault with ⟨hpoint, hkept⟩ | ⟨hpoint, hassigned, started, hwrote, hspec⟩
      · rw [hpoint]
        exact .kept id id hkept.steps (.inl hkept.state)
      · exact .begun hpoint (hnext hassigned) hwrote hspec
  cases list with
  | cons record rest =>
    obtain ⟨old, hold⟩ := hfiled record List.mem_cons_self
    exact hbegin hold fun hassigned => .listed hold hassigned
  | nil =>
    unfold conduct demand
    simp only [ensures_bind, ensures_read]
    cases hready : s.workflow.readySteps s.workflow.steps with
    | error e => exact .kept id id (.refl s) (.inl (.refl s))
    | ok ready =>
      cases ready with
      | nil =>
        simp only [ensures_pure, ensures_bind]
        refine ((observeFromSteps_kept env s).and (observeFromSteps_state env s)).mono
          (fun _ s' hs' => .ended rfl hs'.1 hs'.2) fun fault s' hs' => ?_
        obtain ⟨⟨hkept, hpoint⟩, ⟨-, hstate⟩ | ⟨-, hstate⟩⟩ := hs'
        · exact .kept hpoint.outside.1 hpoint.outside.2 hkept (.inl hstate)
        · exact .kept hpoint.outside.1 hpoint.outside.2 hkept (.inr hstate)
      | cons record rest =>
        have hmem : record ∈ s.workflow.steps :=
          (mem_readySteps hready).1.subset List.mem_cons_self
        exact hbegin (WorkflowRecord.step?_of_mem hunique hmem) fun _ => .ready hready

theorem start_spec {s : Site W F}
    (hunique : (s.workflow.steps.map fun r => r.step.stepId).Nodup) :
    Ensures (start env) s (fun r s' => ∃ s₁, StepsKept s s₁ ∧ Conducted env s₁ [] r s')
      fun fault s' => ∃ s₁, StepsKept s s₁ ∧ Interrupted env s₁ [] fault.point s' := by
  unfold start
  by_cases hruntime : env.runtime = false
  · rw [if_pos hruntime]
    exact ⟨s, .refl s, .kept id id (.refl s) (.inl (.refl s))⟩
  · rw [if_neg hruntime]
    simp only [ensures_bind, ensures_modify, ensures_read]
    refine (emit_kept env (P := fun fault => fault.point = .startedAudit) (fun _ => rfl) _ _).mono
      (fun _ s₁ hs₁ => ?_) fun fault s₁ hs₁ => ?_
    · have hkept : StepsKept s s₁ := StepsKept.trans ⟨rfl, rfl⟩ hs₁.steps
      have hunique₁ : (s₁.workflow.steps.map fun r => r.step.stepId).Nodup := by
        rw [hkept.2]
        exact hunique
      exact (conduct_spec env hunique₁ fun _ hr => absurd hr List.not_mem_nil).mono
        (fun r s' h => ⟨s₁, hkept, h⟩) fun fault s' h => ⟨s₁, hkept, h⟩
    · rw [hs₁.2]
      exact ⟨{ s with workflow := { s.workflow with state := .running } }, ⟨rfl, rfl⟩,
        .kept id id hs₁.1.steps (.inl hs₁.1.state)⟩

/-- How a call goes on from the result of the runtime. -/
inductive Resumed (a : Awaiting F) (result : TaskResult F) (elapsedMs : F) (s : Site W F) :
    Except (Fault X F) (Option (Awaiting F)) → Site W F → Prop where
  | unrecorded {fault s' after} (hwrote : Wrote after s s')
      (hrun : record env a result elapsedMs s = (.error fault, s'))
      (hpoint : fault.point.InObserve ∧ Recorded a result s after ∨
        fault.point.InTelemetry ∧ Settled env a result s after) :
      Resumed a result elapsedMs s (.error fault) s'
  | stopped {s' after} (hwrote : Wrote after s s') (hsettled : Settled env a result s after)
      (hrun : record env a result elapsedMs s = (.ok (), s'))
      (hstate : s'.workflow.state = .escalated ∨ s'.workflow.state = .failed) :
      Resumed a result elapsedMs s (.ok none) s'
  | conducted {s₁ s' after next} (hwrote : Wrote after s s₁) (hsettled : Settled env a result s after)
      (hrun : record env a result elapsedMs s = (.ok (), s₁))
      (hstate : ¬ (s₁.workflow.state = .escalated ∨ s₁.workflow.state = .failed))
      (hconducted : Conducted env s₁ a.rest next s') :
      Resumed a result elapsedMs s (.ok next) s'
  | interrupted {s₁ s' after fault} (hwrote : Wrote after s s₁)
      (hsettled : Settled env a result s after)
      (hrun : record env a result elapsedMs s = (.ok (), s₁))
      (hstate : ¬ (s₁.workflow.state = .escalated ∨ s₁.workflow.state = .failed))
      (hinterrupted : Interrupted env s₁ a.rest fault.point s') :
      Resumed a result elapsedMs s (.error fault) s'

theorem resume_spec {s : Site W F} {a : Awaiting F}
    (hunique : (s.workflow.steps.map fun r => r.step.stepId).Nodup)
    (hfiled : Filed s (a.record :: a.rest)) (result : TaskResult F) (elapsedMs : F) :
    Ensures (resume env a (.ok (result, elapsedMs))) s
      (fun next s' => Resumed env a result elapsedMs s (.ok next) s')
      fun fault s' => Resumed env a result elapsedMs s (.error fault) s' := by
  obtain ⟨old, hold⟩ := hfiled a.record List.mem_cons_self
  unfold resume
  rw [ensures_bind]
  refine (record_spec env a result elapsedMs hold).run.mono (fun _ s₁ hs₁ => ?_)
    fun fault s₁ hs₁ => ?_
  · obtain ⟨⟨after, hwrote, hsettled⟩, hrun⟩ := hs₁
    rw [ensures_bind, ensures_read]
    dsimp only
    split
    · rename_i hstate
      exact .stopped hwrote hsettled hrun hstate
    · rename_i hstate
      have hunique₁ : (s₁.workflow.steps.map fun r => r.step.stepId).Nodup := by
        rw [hwrote.ids]
        exact hunique
      have hfiled₁ : Filed s₁ a.rest := fun r hr =>
        hwrote.filed (hfiled r (List.mem_cons_of_mem _ hr))
      exact (conduct_spec env hunique₁ hfiled₁).mono
        (fun next s' h => .conducted hwrote hsettled hrun hstate h)
        fun fault s' h => .interrupted hwrote hsettled hrun hstate h
  · obtain ⟨⟨after, hwrote, hpoint⟩, hrun⟩ := hs₁
    exact .unrecorded hwrote hrun hpoint

end Specs

/-! ## The calls and the steps -/

theorem update_calls {calls : ℕ → Option (Awaiting F)} {t t' : ℕ} {x : Option (Awaiting F)}
    {a : Awaiting F} (h : Function.update calls t x t' = some a) :
    t' = t ∧ x = some a ∨ t' ≠ t ∧ calls t' = some a := by
  by_cases he : t' = t
  · subst he
    rw [Function.update_self] at h
    exact .inl ⟨rfl, h⟩
  · rw [Function.update_of_ne he] at h
    exact .inr ⟨he, h⟩

/-- The state of the calls once `t` has gone on. -/
def goneOn (calls : ℕ → Option (Awaiting F)) (t : ℕ)
    (outcome : Except (Fault X F) (Option (Awaiting F))) : ℕ → Option (Awaiting F) :=
  Function.update calls t
    (match outcome with
      | .ok next => next
      | .error _ => none)

/-- The ids of the steps are distinct, and what the calls hold is filed under them. -/
structure Filing (s : Site W F) (calls : ℕ → Option (Awaiting F)) : Prop where
  unique : (s.workflow.steps.map fun r => r.step.stepId).Nodup
  filed : ∀ t a, calls t = some a → Filed s (a.record :: a.rest)

section Filing

variable {env : Environment X W F} {s s' : Site W F} {calls : ℕ → Option (Awaiting F)} {t : ℕ}
  {list : List StepRecord}

theorem StepsKept.filed (h : StepsKept s s') (hfiled : Filed s list) : Filed s' list := by
  intro record hrecord
  rw [h.step?]
  exact hfiled record hrecord

theorem Filing.of_kept (h : Filing s calls) (hkept : StepsKept s s') : Filing s' calls where
  unique := by
    rw [hkept.2]
    exact h.unique
  filed t a ha := hkept.filed (h.filed t a ha)

theorem Filing.wrote (h : Filing s calls) {record : StepRecord} (hwrote : Wrote record s s') :
    Filing s' calls where
  unique := by
    rw [hwrote.ids]
    exact h.unique
  filed t a ha record hrecord := hwrote.filed (h.filed t a ha record hrecord)

theorem Filing.update (h : Filing s calls) {next : Option (Awaiting F)}
    (hnext : ∀ a, next = some a → Filed s (a.record :: a.rest)) :
    Filing s (Function.update calls t next) where
  unique := h.unique
  filed t' a ha := by
    rcases update_calls ha with ⟨-, hsome⟩ | ⟨-, hother⟩
    · exact hnext a hsome
    · exact h.filed t' a hother

theorem Filing.drop (h : Filing s calls) : Filing s (Function.update calls t none) :=
  h.update fun a ha => absurd ha.symm (Option.some_ne_none a)

theorem Next.filed (hunique : (s.workflow.steps.map fun r => r.step.stepId).Nodup)
    (hfiled : Filed s list) {old : StepRecord} {rest : List StepRecord}
    (h : Next env s list old rest) : Filed s (old :: rest) := by
  cases h with
  | @listed record _ _ hold _ =>
    intro r hr
    rcases List.mem_cons.mp hr with rfl | hr
    · exact ⟨r, by rw [(WorkflowRecord.step?_spec hold).2]; exact hold⟩
    · exact hfiled r (List.mem_cons_of_mem _ hr)
  | ready hready =>
    intro r hr
    exact ⟨r, WorkflowRecord.step?_of_mem hunique ((mem_readySteps hready).1.subset hr)⟩

theorem Filing.conducted (h : Filing s calls) (hfiled : Filed s list)
    {next : Option (Awaiting F)} (hconducted : Conducted env s list next s') :
    Filing s' (Function.update calls t next) := by
  cases hconducted with
  | ended _ hkept _ => exact (h.of_kept hkept).drop
  | begun hnext hwrote _ =>
    refine (h.wrote hwrote).update fun a ha => ?_
    obtain rfl := Option.some.inj ha
    exact fun r hr => hwrote.filed (hnext.filed h.unique hfiled r hr)

theorem Filing.interrupted (h : Filing s calls) {point : Point F}
    (hinterrupted : Interrupted env s list point s') :
    Filing s' (Function.update calls t none) := by
  cases hinterrupted with
  | kept _ _ hkept _ => exact (h.of_kept hkept).drop
  | begun _ _ hwrote _ => exact (h.wrote hwrote).drop

theorem Filing.call (h : Filing s calls) (env : Environment X W F) (t : ℕ) :
    Ensures (start env) s (fun next s' => Filing s' (Function.update calls t next))
      fun _ s' => Filing s' (Function.update calls t none) := by
  have hnil : ∀ s : Site W F, Filed s [] := fun _ _ hr => absurd hr List.not_mem_nil
  refine (start_spec env h.unique).mono (fun next s' hs' => ?_) fun fault s' hs' => ?_
  · obtain ⟨s₁, hkept, hconducted⟩ := hs'
    exact (h.of_kept hkept).conducted (hnil s₁) hconducted
  · obtain ⟨s₁, hkept, hinterrupted⟩ := hs'
    exact (h.of_kept hkept).interrupted hinterrupted

theorem Filing.resume (h : Filing s calls) {a : Awaiting F} (ha : calls t = some a)
    {result : TaskResult F} {elapsedMs : F} {outcome : Except (Fault X F) (Option (Awaiting F))}
    (hresumed : Resumed env a result elapsedMs s outcome s') :
    Filing s' (goneOn calls t outcome) := by
  have hrest : Filed s a.rest := fun r hr => h.filed t a ha r (List.mem_cons_of_mem _ hr)
  cases hresumed with
  | unrecorded hwrote _ _ => exact (h.wrote hwrote).drop
  | stopped hwrote _ _ _ => exact (h.wrote hwrote).drop
  | conducted hwrote _ _ _ hconducted =>
    exact (h.wrote hwrote).conducted (fun r hr => hwrote.filed (hrest r hr)) hconducted
  | interrupted hwrote _ _ _ hinterrupted => exact (h.wrote hwrote).interrupted hinterrupted

end Filing

namespace System

variable {env : Environment X W F} {σ σ' : System W F}

/-- What an event is, and what it leaves. -/
inductive Turn (env : Environment X W F) (σ : System W F) : Act X W F → System W F → Prop where
  | called {t next s'} (hfree : σ.calls t = none) (hrun : start env σ.site = (.ok next, s')) :
      Turn env σ (.call t)
        { σ with site := s', calls := Function.update σ.calls t next, halted := false }
  | uncalled {t fault s'} (hfree : σ.calls t = none)
      (hrun : start env σ.site = (.error fault, s')) :
      Turn env σ (.call t)
        { σ with site := s', calls := Function.update σ.calls t none, halted := false }
  | failed {t a e} (hcalls : σ.calls t = some a) :
      Turn env σ (.resume t (.error e)) { σ with calls := Function.update σ.calls t none }
  | resumed {t a result elapsedMs outcome s'} (hcalls : σ.calls t = some a)
      (hrun : resume env a (.ok (result, elapsedMs)) σ.site = (outcome, s'))
      (hresumed : Resumed env a result elapsedMs σ.site outcome s') :
      Turn env σ (.resume t (.ok (result, elapsedMs)))
        { σ with
          site := s'
          calls := goneOn σ.calls t outcome
          succeeded := if result.ok then a.stepId :: σ.succeeded else σ.succeeded }
  | intervened {action subject reason payload} :
      Turn env σ (.intervene action subject reason payload)
        { σ with
          site := (intervene env action subject reason payload σ.site).2
          halted := decide (Halts action) }
  | elsewhere {kernel} :
      Turn env σ (.elsewhere kernel) { σ with site := { σ.site with kernel } }

theorem turn (h : Filing σ.site σ.calls) {ev : Act X W F} (hnext : σ.next env ev = some σ') :
    Turn env σ ev σ' := by
  cases ev with
  | call t =>
    cases hcalls : σ.calls t with
    | some a =>
      rw [System.next, hcalls] at hnext
      exact absurd hnext (by simp)
    | none =>
      rw [System.next, hcalls] at hnext
      obtain rfl := Option.some.inj hnext
      unfold System.after
      rcases hrun : start env σ.site with ⟨outcome, s'⟩
      cases outcome with
      | ok next => exact .called hcalls hrun
      | error fault => exact .uncalled hcalls hrun
  | resume t reply =>
    cases hcalls : σ.calls t with
    | none =>
      rw [System.next, hcalls] at hnext
      exact absurd hnext (by simp)
    | some a =>
      rw [System.next, hcalls] at hnext
      obtain rfl := Option.some.inj hnext
      cases reply with
      | error e => exact .failed hcalls
      | ok reply =>
        obtain ⟨result, elapsedMs⟩ := reply
        have hresume := resume_spec env h.unique (h.filed t a hcalls) result elapsedMs
        unfold System.after
        rcases hrun : Coroutines.resume env a (.ok (result, elapsedMs)) σ.site with
          ⟨outcome, s'⟩
        cases outcome with
        | ok next => exact .resumed hcalls hrun (hresume.of_ok hrun)
        | error fault => exact .resumed hcalls hrun (hresume.of_error hrun)
  | intervene action subject reason payload =>
    obtain rfl := Option.some.inj hnext
    exact .intervened
  | elsewhere kernel =>
    obtain rfl := Option.some.inj hnext
    exact .elsewhere

theorem Reaches.filing {ok : Act X W F → System W F → Prop} (h : Reaches env ok σ) :
    Filing σ.site σ.calls := by
  induction h with
  | created plan kernel =>
    exact ⟨(stepRecords_spec plan.steps).1, fun _ _ ha => absurd ha.symm (Option.some_ne_none _)⟩
  | next ev _ _ hnext ih =>
    cases turn ih hnext with
    | called _ hrun => exact (ih.call env _).of_ok hrun
    | uncalled _ hrun => exact (ih.call env _).of_error hrun
    | failed _ => exact ih.drop
    | resumed hcalls _ hresumed => exact ih.resume hcalls hresumed
    | intervened => exact ih.of_kept ((intervene_kept env _ _ _ _).result _)
    | elsewhere => exact ih.of_kept ⟨rfl, rfl⟩

end System

namespace Pair

def plan : WorkflowPlan ℚ where
  workflowId := "pair"
  goal := "two drafts"
  steps :=
    [{ stepId := "first", capability := "write", instruction := "draft" },
     { stepId := "second", capability := "write", instruction := "draft" }]

/-- Nothing raises. -/
def environment : Environment Unit Unit ℚ where
  policy := {}
  runtime := true
  evaluate _ world :=
    (.ok { retention := 0.5
           compatibility := 0.6
           transitionChannel := 0.2
           aftermathBalance := 0.0
           fateVector := none
           existenceRank := none }, world)
  audit _ world := (.ok (), world)

def kernel : Kernel Unit ℚ where
  registry := [{ spec := { agentId := "writer", role := "author", capabilities := ["write"] } }]
  world := ()

def result (stepId : String) : TaskResult ℚ where
  taskId := stepId
  agentId := "writer"
  ok := true
  latencyMs := 100.0

def succeeds (t : ℕ) (stepId : String) : Act Unit Unit ℚ := .resume t (.ok (result stepId, 100.0))

def system : System Unit ℚ := .created plan kernel

theorem reached {evs : List (Act Unit Unit ℚ)} {σ : System Unit ℚ}
    (h : System.run environment evs system = some σ) :
    System.Reaches environment (fun _ _ => True) σ :=
  (System.Reaches.created plan kernel).run (fun _ _ _ => trivial) h

end Pair

end MaestroKernel.Workflow.Coroutines
