import MaestroKernel.Workflow.Conduct

/-! # What a step of a workflow can do -/

namespace MaestroKernel.Workflow

variable {W F : Type} [Number F]

/-- Every dependency of the plan is a step of the plan. -/
def WorkflowPlan.Known (plan : WorkflowPlan F) : Prop :=
  ∀ step ∈ plan.steps, ∀ d ∈ step.dependsOn, ∃ other ∈ plan.steps, other.stepId = d

def Completed (steps : List StepRecord) (record : StepRecord) : Prop :=
  ∀ d ∈ record.step.dependsOn, ∃ r ∈ steps, r.step.stepId = d ∧ r.state = .completed

/-- A step is started only when it waits for nothing, by an active agent that can do it. -/
structure Start.Lawful (start : Start W F) : Prop where
  step : start.record ∈ start.workflow.steps
  pending : start.record.state = .pending
  completed : Completed start.workflow.steps start.record
  registered : start.agent ∈ start.kernel.registry
  active : start.agent.state = .active
  capable : start.record.step.capability ∈ start.agent.spec.capabilities

/-- How often a step may be started. -/
def allowance (p : KernelPolicy F) (step : WorkflowStep) : ℤ := max 1 (attemptLimit p step)

namespace Kernel

theorem mem_of_getAgent {k : Kernel W F} {agentId : String} {agent : AgentRecord F}
    (h : k.getAgent agentId = .ok agent) : agent ∈ k.registry := by
  unfold getAgent at h
  split at h
  · rename_i hfind
    cases h
    exact List.mem_of_find?_eq_some hfind
  · cases h

theorem mem_routeCandidates {policy : KernelPolicy F} {capability : String} {k : Kernel W F}
    {agent : AgentRecord F} (h : agent ∈ k.routeCandidates policy capability) :
    agent ∈ k.registry ∧ agent.state = .active ∧ capability ∈ agent.spec.capabilities := by
  have hmem : agent ∈ k.registry.filter fun r =>
      r.state = .active && capability ∈ r.spec.capabilities := by
    unfold routeCandidates at h
    split at h
    · exact List.mem_mergeSort.mp h
    · exact h
  simpa using hmem

theorem assignAgent_spec {policy : KernelPolicy F} {step : WorkflowStep} {k : Kernel W F}
    {agent : AgentRecord F} (h : k.assignAgent policy step = .ok agent) :
    agent ∈ k.registry ∧ agent.state = .active ∧ step.capability ∈ agent.spec.capabilities := by
  have hroute : ∀ candidate rest, k.routeCandidates policy step.capability = candidate :: rest →
      candidate ∈ k.registry ∧ candidate.state = .active ∧
        step.capability ∈ candidate.spec.capabilities := by
    intro candidate rest hcandidates
    exact mem_routeCandidates (by rw [hcandidates]; exact List.mem_cons_self)
  unfold assignAgent at h
  dsimp only at h
  split at h
  · split at h
    · cases h
    · rename_i hcandidates
      cases h
      exact hroute _ _ hcandidates
  · split at h
    · cases h
    · rename_i hget
      split at h
      · rename_i hactive
        cases h
        simp only [Bool.and_eq_true, decide_eq_true_eq] at hactive
        exact ⟨mem_of_getAgent hget, hactive⟩
      · split at h
        · cases h
        · rename_i hcandidates
          cases h
          exact hroute _ _ hcandidates

end Kernel

/-! ## The dict of the steps -/

namespace WorkflowRecord

variable {workflow : WorkflowRecord F} {steps : List StepRecord} {record r : StepRecord}

@[simp] theorem setStep_steps (workflow : WorkflowRecord F) (record : StepRecord) :
    (workflow.setStep record).steps =
      workflow.steps.map fun r => if r.step.stepId = record.step.stepId then record else r := rfl

theorem setStep_setStep (workflow : WorkflowRecord F) {first second : StepRecord}
    (h : first.step.stepId = second.step.stepId) :
    ((workflow.setStep first).setStep second).steps = (workflow.setStep second).steps := by
  simp only [setStep_steps, List.map_map]
  apply List.map_congr_left
  intro r _
  by_cases hr : r.step.stepId = second.step.stepId <;> simp [h, hr]

theorem step?_isSome (h : ∃ q ∈ workflow.steps, q.step.stepId = d) :
    ∃ q, workflow.step? d = some q := by
  obtain ⟨q, hq, hd⟩ := h
  apply Option.isSome_iff_exists.mp
  exact List.find?_isSome.mpr ⟨q, hq, by simpa using hd⟩

theorem step?_spec (h : workflow.step? stepId = some record) :
    record ∈ workflow.steps ∧ record.step.stepId = stepId :=
  ⟨List.mem_of_find?_eq_some h, by simpa using List.find?_some h⟩

theorem step?_of_mem (hunique : (workflow.steps.map fun r => r.step.stepId).Nodup)
    (h : record ∈ workflow.steps) : workflow.step? record.step.stepId = some record := by
  obtain ⟨q, hq⟩ := workflow.step?_isSome ⟨record, h, rfl⟩
  obtain ⟨hmem, hid⟩ := step?_spec hq
  rw [hq, List.inj_on_of_nodup_map hunique hmem h hid]

theorem dependencyOutputs_ok {dependencies : List String}
    (h : ∀ d ∈ dependencies, ∃ q ∈ workflow.steps, q.step.stepId = d) :
    ∃ outputs, workflow.dependencyOutputs dependencies = .ok outputs := by
  induction dependencies with
  | nil => exact ⟨[], rfl⟩
  | cons d dependencies ih =>
    obtain ⟨q, hq⟩ := workflow.step?_isSome (h d List.mem_cons_self)
    obtain ⟨outputs, hrest⟩ := ih fun d hd => h d (List.mem_cons_of_mem _ hd)
    exact ⟨(d, q.output) :: outputs, by rw [dependencyOutputs, hq, hrest]⟩

theorem allCompleted_ok {dependencies : List String}
    (h : ∀ d ∈ dependencies, ∃ q ∈ workflow.steps, q.step.stepId = d) :
    ∃ b, workflow.allCompleted dependencies = .ok b ∧
      (b = true → ∀ d ∈ dependencies, ∃ q ∈ workflow.steps,
        q.step.stepId = d ∧ q.state = .completed) := by
  induction dependencies with
  | nil => exact ⟨true, rfl, by simp⟩
  | cons d dependencies ih =>
    obtain ⟨q, hq⟩ := workflow.step?_isSome (h d List.mem_cons_self)
    obtain ⟨b, hb, hcompleted⟩ := ih fun d hd => h d (List.mem_cons_of_mem _ hd)
    by_cases hstate : q.state = .completed
    · refine ⟨b, by rw [allCompleted, hq]; simp only [hstate, if_true, hb], ?_⟩
      intro htrue e he
      rcases List.mem_cons.mp he with rfl | he
      · exact ⟨q, (step?_spec hq).1, (step?_spec hq).2, hstate⟩
      · exact hcompleted htrue e he
    · exact ⟨false, by rw [allCompleted, hq]; simp only [hstate, if_false], by simp⟩

theorem step?_congr {other : WorkflowRecord F} (h : other.steps = workflow.steps) (d : String) :
    other.step? d = workflow.step? d := by
  unfold step?
  rw [h]

theorem allCompleted_congr {other : WorkflowRecord F} (h : other.steps = workflow.steps)
    (dependencies : List String) :
    other.allCompleted dependencies = workflow.allCompleted dependencies := by
  induction dependencies with
  | nil => rfl
  | cons d dependencies ih => rw [allCompleted, allCompleted, step?_congr h, ih]

theorem readySteps_congr {other : WorkflowRecord F} (h : other.steps = workflow.steps)
    (steps : List StepRecord) : other.readySteps steps = workflow.readySteps steps := by
  induction steps with
  | nil => rfl
  | cons record records ih => rw [readySteps, readySteps, allCompleted_congr h, ih]

/-- `ready_steps` does not raise, and what it returns waits for nothing. -/
theorem readySteps_ok
    (hknown : ∀ r ∈ steps, ∀ d ∈ r.step.dependsOn, ∃ q ∈ workflow.steps, q.step.stepId = d) :
    ∃ ready, workflow.readySteps steps = .ok ready ∧ ready.Sublist steps ∧
      ∀ r ∈ ready, r.state = .pending ∧ Completed workflow.steps r := by
  induction steps with
  | nil => exact ⟨[], rfl, List.Sublist.refl _, by simp⟩
  | cons record records ih =>
    obtain ⟨ready, hready, hsub, hspec⟩ := ih fun r hr => hknown r (List.mem_cons_of_mem _ hr)
    rw [readySteps]
    by_cases hpending : record.state = .pending
    · obtain ⟨b, hb, hcompleted⟩ := allCompleted_ok (hknown record List.mem_cons_self)
      simp only [hpending, ne_eq, not_true_eq_false, if_false, hb, hready]
      cases b with
      | false => exact ⟨ready, rfl, hsub.cons _, hspec⟩
      | true =>
        refine ⟨record :: ready, rfl, hsub.cons_cons _, ?_⟩
        intro r hr
        rcases List.mem_cons.mp hr with rfl | hr
        · exact ⟨hpending, hcompleted rfl⟩
        · exact hspec r hr
    · simp only [hpending, ne_eq, not_false_eq_true, if_true]
      exact ⟨ready, hready, hsub.cons _, hspec⟩

end WorkflowRecord

/-! ## One step -/

namespace Run

variable {env : Environment W F} {runtime : Runtime W F} {record : StepRecord} {s s' : Run W F}

@[simp] theorem observeFromSteps_steps (env : Environment W F) (s : Run W F) :
    (s.observeFromSteps env).workflow.steps = s.workflow.steps := rfl

@[simp] theorem observeFromSteps_starts (env : Environment W F) (s : Run W F) :
    (s.observeFromSteps env).starts = s.starts := rfl

theorem observeFromSteps_state (env : Environment W F) (s : Run W F) :
    (s.observeFromSteps env).workflow.state ≠ .failed :=
  decideWorkflow_ne_failed _ _ _ _ _

/-- What a started step leaves behind: one more attempt and one more start. -/
structure Ran (env : Environment W F) (record : StepRecord) (s s' : Run W F)
    (start : Start W F) (after : StepRecord) : Prop where
  kernel : start.kernel = s.kernel
  workflow : start.workflow = s.workflow
  before : start.record = record
  assigned : s.kernel.assignAgent env.policy record.step = .ok start.agent
  starts : s'.starts = s.starts ++ [start]
  steps : s'.workflow.steps = (s.workflow.setStep after).steps
  step : after.step = record.step
  attempts : after.attempts = record.attempts + 1
  completed : start.result.ok = true → after.state = .completed
  failed : start.result.ok = false → after.state = .failed ∨
    after.state = .pending ∧ (after.attempts : ℤ) < attemptLimit env.policy record.step

theorem observeHandoffs_keeps (target : String) {dependencies : List String}
    (hknown : ∀ d ∈ dependencies, ∃ q ∈ s.workflow.steps, q.step.stepId = d) :
    ∃ s', observeHandoffs env record target dependencies s = (.ok (), s') ∧
      s'.workflow = s.workflow ∧ s'.starts = s.starts := by
  induction dependencies generalizing s with
  | nil => exact ⟨s, rfl, rfl, rfl⟩
  | cons d dependencies ih =>
    obtain ⟨q, hq⟩ := s.workflow.step?_isSome (hknown d List.mem_cons_self)
    have hrest : ∀ d ∈ dependencies, ∃ q ∈ s.workflow.steps, q.step.stepId = d :=
      fun d hd => hknown d (List.mem_cons_of_mem _ hd)
    rw [observeHandoffs, hq]
    dsimp only
    split
    · exact ih hrest
    · exact ih hrest

variable (env) in
theorem observeStepHandoffs_keeps
    (hknown : ∀ d ∈ record.step.dependsOn, ∃ q ∈ s.workflow.steps, q.step.stepId = d) :
    ∃ s', observeStepHandoffs env record s = (.ok (), s') ∧
      s'.workflow = s.workflow ∧ s'.starts = s.starts := by
  unfold observeStepHandoffs
  split
  · exact ⟨s, rfl, rfl, rfl⟩
  · exact observeHandoffs_keeps _ hknown

/-- The end of a step keeps what the runtime answered, or lets the step wait again. -/
theorem ran_settle {finished : StepRecord} {agent : AgentRecord F} {result : TaskResult F}
    {agentId : String} {latencyMs : F}
    (hassigned : s.kernel.assignAgent env.policy record.step = .ok agent)
    (hstarts : s'.starts = s.starts ++
      [{ kernel := s.kernel, workflow := s.workflow, record, agent, result }])
    (hsteps : s'.workflow.steps = (s.workflow.setStep finished).steps)
    (hstep : finished.step = record.step) (hattempts : finished.attempts = record.attempts + 1)
    (hstate : finished.state = if result.ok then .completed else .failed) :
    ∃ start after,
      Ran env record s (settle env finished agentId result latencyMs s').2 start after := by
  have hkept : ∀ t : Run W F, t.starts = s'.starts → t.workflow.steps = s'.workflow.steps →
      Ran env record s t { kernel := s.kernel, workflow := s.workflow, record, agent, result }
        finished := by
    intro t ht hsame
    refine ⟨rfl, rfl, rfl, hassigned, ht.trans hstarts, hsame.trans hsteps, hstep, hattempts,
      ?_, ?_⟩
    · intro hok
      change result.ok = true at hok
      rw [hstate, hok, if_pos rfl]
    · intro hok
      change result.ok = false at hok
      left
      rw [hstate, hok]
      rfl
  refine ⟨{ kernel := s.kernel, workflow := s.workflow, record, agent, result }, ?_⟩
  unfold settle
  split
  · exact ⟨finished, hkept s' rfl rfl⟩
  · dsimp only
    split
    · exact ⟨finished, hkept s' rfl rfl⟩
    · unfold retryOrGiveUp
      dsimp only
      split
      · rename_i hretry
        simp only [Bool.and_eq_true, Bool.not_eq_true', decide_eq_true_eq] at hretry
        refine ⟨{ finished with state := .pending }, rfl, rfl, rfl, hassigned, hstarts, ?_, hstep,
          hattempts, ?_, ?_⟩
        · rw [WorkflowRecord.setStep_steps, hsteps]
          exact s.workflow.setStep_setStep rfl
        · intro hok
          change result.ok = true at hok
          rw [hretry.1] at hok
          cases hok
        · exact fun _ => .inr ⟨rfl, hstep ▸ hretry.2⟩
      · split
        · exact ⟨finished, hkept _ rfl rfl⟩
        · exact ⟨finished, hkept _ rfl rfl⟩

variable (env runtime) in
theorem runStep_cases
    (hknown : ∀ d ∈ record.step.dependsOn, ∃ q ∈ s.workflow.steps, q.step.stepId = d) :
    (∃ e, runStep env runtime record s = (.error e, s)) ∨
      ∃ start after, Ran env record s (runStep env runtime record s).2 start after := by
  cases hassign : s.kernel.assignAgent env.policy record.step with
  | error e =>
    left
    exact ⟨e, by rw [runStep, hassign]⟩
  | ok agent =>
    right
    have hids : ∀ running : StepRecord, running.step = record.step →
        ∀ d ∈ record.step.dependsOn, ∃ q ∈ (s.workflow.setStep running).steps,
          q.step.stepId = d := by
      intro running hrunning d hd
      obtain ⟨q, hq, hid⟩ := hknown d hd
      refine ⟨_, List.mem_map_of_mem hq, ?_⟩
      by_cases hsame : q.step.stepId = running.step.stepId
      · rw [if_pos hsame, ← hsame, hid]
      · rw [if_neg hsame, hid]
    rw [runStep, hassign]
    dsimp only
    obtain ⟨outputs, houtputs⟩ := WorkflowRecord.dependencyOutputs_ok (hids
      { record with
        assignedAgentId := some agent.spec.agentId
        state := .running
        attempts := record.attempts + 1 } rfl)
    rw [houtputs]
    exact ran_settle hassign rfl (s.workflow.setStep_setStep rfl) rfl rfl rfl

end Run

end MaestroKernel.Workflow
