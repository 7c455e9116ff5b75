import MaestroKernel.Library.Procedure
import MaestroKernel.Workflow.Conduct

/-! # Workflow runs as coroutines

`run_workflow` gives way to other coroutines while it awaits the runtime, and only there.
A call is modelled from one await to the next: each stretch is a procedure over the
kernel and the workflow, which all calls share. The transition engine, the audit sink
and the runtime may raise. -/

namespace MaestroKernel.Workflow.Coroutines

open Proc

/-- Where a stretch may raise. An observation of the workflow notes the continuity value
that it found and the one that it wrote. -/
inductive Point (F : Type) where
  | runtimeMissing
  | startedAudit
  | readySteps
  | assignAgent
  | assignedAudit
  | dependencies
  | runtimeRun
  | agentLookup
  | agentEvaluate
  | agentAudit
  | retryAudit
  | giveUpAudit
  | handoffDependency
  | edgeEvaluate
  | edgeAudit
  | edgeEventAudit
  | workflowEvaluate (found written : F)
  | workflowAudit
  | workflowEventAudit
  | interveneAudit

/-- `X` are the exceptions of the code outside. -/
inductive Raised (X : Type) where
  | kernel (error : KernelError)
  | outside (error : X)

structure Fault (X F : Type) where
  point : Point F
  raised : Raised X

structure Environment (X W F : Type) [Number F] where
  policy : KernelPolicy F
  /-- Whether an `AgentRuntime` is configured. -/
  runtime : Bool
  /-- `evaluate_structural_transition` -/
  evaluate : Transition F → W → Except X (Report F) × W
  audit : AuditRecord F → W → Except X Unit × W

/-- A record that is observed. -/
inductive Subject where
  | agent (agentId : String)
  | edge (edgeId : String)
  | workflow
deriving DecidableEq

/-- What the calls share. `decisions` are the decisions that the governor has taken, each
with its record and the continuity value it is about; the code does not keep them. -/
structure Site (W F : Type) [Number F] where
  kernel : Kernel W F
  workflow : WorkflowRecord F
  decisions : List (Subject × F) := []

/-- A call that awaits the runtime: the step it runs, the agent and the task it gave to the
runtime, and the steps of its list that are left. A step record is a reference: what it holds
is read again. -/
structure Awaiting (F : Type) [Number F] where
  record : StepRecord
  agent : AgentSpec
  task : TaskEnvelope F
  rest : List StepRecord

variable {X W F : Type} [Number F]

def Awaiting.stepId (a : Awaiting F) : String := a.record.step.stepId

abbrev Stretch (X W F : Type) [Number F] (A : Type) : Type := Proc (Fault X F) (Site W F) A

def evaluate (env : Environment X W F) (point : Point F) (t : Transition F) :
    Stretch X W F (Report F) := fun s =>
  match env.evaluate t s.kernel.world with
  | (.ok report, world) => (.ok report, { s with kernel := { s.kernel with world } })
  | (.error e, world) =>
    (.error ⟨point, .outside e⟩, { s with kernel := { s.kernel with world } })

def audit (env : Environment X W F) (point : Point F) (record : AuditRecord F) :
    Stretch X W F Unit := fun s =>
  match env.audit record s.kernel.world with
  | (.ok _, world) => (.ok (), { s with kernel := { s.kernel with world } })
  | (.error e, world) =>
    (.error ⟨point, .outside e⟩, { s with kernel := { s.kernel with world } })

def emit (env : Environment X W F) (point : Point F) (event : MaestroEvent F) :
    Stretch X W F Unit := do
  modify fun s => { s with kernel := { s.kernel with events := s.kernel.events ++ [event] } }
  audit env point (.event event)

/-- A lookup of the kernel that may raise. -/
def demand {A : Type} (point : Point F) (lookup : Site W F → Except KernelError A) :
    Stretch X W F A := do
  match lookup (← read) with
  | .ok a => return a
  | .error e => raise ⟨point, .kernel e⟩

/-- What the governor decided. -/
def decided (subject : Subject) (psi : F) : Stretch X W F Unit :=
  modify fun s => { s with decisions := s.decisions ++ [(subject, psi)] }

/-! ## The observations -/

def observe (env : Environment X W F) (agentId : String) (telemetry : AgentTelemetry F) :
    Stretch X W F Unit := do
  let record ← demand .agentLookup fun s => s.kernel.getAgent agentId
  let previousCoeff := record.lastCoefficients.getD (fromAgentTelemetry {})
  let coeff := fromAgentTelemetry telemetry
  let (psi, dpsi) := stepPsi env.policy.dt record.psi coeff
  let record :=
    { record with
      previousPsi := record.psi
      psi
      failureStreak := telemetry.failureCount
      lastCoefficients := some coeff
      observations := record.observations + 1 }
  modify fun s => { s with kernel := s.kernel.setAgent record }
  let report ← evaluate env .agentEvaluate
    (transition agentId previousCoeff coeff record.previousPsi record.psi dpsi
      record.failureStreak)
  let decision := decideAgent env.policy record coeff dpsi report
  decided (.agent agentId) decision.psi
  modify fun s =>
    { s with kernel := s.kernel.setAgent { record with state := decision.newState } }
  audit env .agentAudit (.governance decision)

/-- `self.handoffs[edge_id] = record` -/
def setHandoff (id : String) (record : HandoffRecord F) (k : Kernel W F) : Kernel W F :=
  { k with
    handoffs :=
      if (k.handoffs.lookup id).isSome then
        k.handoffs.map fun entry => if entry.1 = id then (id, record) else entry
      else k.handoffs ++ [(id, record)] }

def observeHandoff (env : Environment X W F) (sourceAgentId targetAgentId : String)
    (telemetry : HandoffTelemetry F) : Stretch X W F Unit := do
  let id := edgeId sourceAgentId targetAgentId
  let record : HandoffRecord F :=
    ((← read).kernel.handoffs.lookup id).getD { sourceAgentId, targetAgentId }
  let previousCoeff := record.lastCoefficients.getD (fromHandoffTelemetry {})
  let coeff := fromHandoffTelemetry telemetry
  let (psi, dpsi) := stepPsi env.policy.dt record.psi coeff
  let record :=
    { record with
      previousPsi := record.psi
      psi
      lastCoefficients := some coeff
      observations := record.observations + 1 }
  modify fun s => { s with kernel := setHandoff id record s.kernel }
  let report ← evaluate env .edgeEvaluate
    (transition id previousCoeff coeff record.previousPsi record.psi dpsi
      (Number.truncate (pyMax 0.0 telemetry.reworkRate * 10.0)))
  let decision := decideEdge env.policy record coeff dpsi report
  decided (.edge id) decision.psi
  modify fun s =>
    { s with kernel := setHandoff id { record with state := decision.newState } s.kernel }
  audit env .edgeAudit (.edge decision)
  if decision.action = .reroute ∨ decision.action = .quarantine then
    emit env .edgeEventAudit
      { workflowId := none
        action := decision.action
        subject := id
        reason := decision.reason
        payload := .edgePsi decision.psi }

def observeWorkflow (env : Environment X W F) (telemetry : WorkflowTelemetry F) :
    Stretch X W F Unit := do
  let record := (← read).workflow
  let workflowId := record.plan.workflowId
  let found := record.psi
  let previousCoeff := record.lastCoefficients.getD (fromWorkflowTelemetry {})
  let coeff := fromWorkflowTelemetry telemetry
  let (psi, dpsi) := stepPsi env.policy.dt record.psi coeff
  let record := { record with previousPsi := record.psi, psi, lastCoefficients := some coeff }
  modify fun s => { s with workflow := record }
  let report ← evaluate env (.workflowEvaluate found psi)
    (transition workflowId previousCoeff coeff record.previousPsi record.psi dpsi
      (record.inState .failed).length)
  let decision := decideWorkflow env.policy record coeff dpsi report
  decided .workflow decision.psi
  modify fun s => { s with workflow := { record with state := decision.newState } }
  audit env .workflowAudit (.workflow decision)
  emit env .workflowEventAudit
    { workflowId := some workflowId
      action := decision.action
      subject := workflowId
      reason := decision.reason
      payload := .workflowPsi decision.psi }

/-- The telemetry that `_observe_workflow_from_steps` takes from the steps. -/
def stepsTelemetry (workflow : WorkflowRecord F) : WorkflowTelemetry F :=
  let number (n : ℕ) : F := ((n : ℤ) : F)
  let failedSteps := (workflow.inState .failed).length
  let total := number (max 1 workflow.steps.length)
  let completed := number (workflow.inState .completed).length
  let failed := number failedSteps
  let running := number (workflow.inState .running).length
  let progress := completed / total
  let blocking := failed / total
  { goalAlignment := if failedSteps = 0 then 0.9 else 0.55
    progressRate := progress
    completionConfidence := progress * (1.0 - blocking)
    coordinationQuality := if failedSteps = 0 then 0.85 else 0.45
    blockingRate := blocking
    reworkRate := blocking
    costPressure := 0.10 + 0.20 * failed
    latencyPressure := 0.05 + 0.10 * running
    riskPressure := 0.10 * failed
    demandRate := workflow.plan.priority
    businessPriority := workflow.plan.priority }

/-- `_observe_workflow_from_steps` -/
def observeFromSteps (env : Environment X W F) : Stretch X W F Unit := do
  observeWorkflow env (stepsTelemetry (← read).workflow)

/-! ## The stretches -/

/-- What a step record holds now. -/
def current (record : StepRecord) (s : Site W F) : StepRecord :=
  (s.workflow.step? record.step.stepId).getD record

def setStep (record : StepRecord) : Stretch X W F Unit :=
  modify fun s => { s with workflow := s.workflow.setStep record }

/-- `_observe_step_handoffs` for one dependency of a step that `target` was given. -/
def observeDependency (env : Environment X W F) (record : StepRecord) (target d : String) :
    Stretch X W F Unit := do
  let dependency ← demand .handoffDependency fun s =>
    match s.workflow.step? d with
    | none => .error (.unknownStep d)
    | some dependency => .ok dependency
  match dependency.assignedAgentId.filter fun agentId => agentId ≠ "" with
  | none => pure ()
  | some source =>
    observeHandoff env source target
      (Run.handoffTelemetry (record.state = .completed) (← read).workflow.plan.priority)

def observeHandoffs (env : Environment X W F) (record : StepRecord) (target : String) :
    List String → Stretch X W F Unit
  | [] => pure ()
  | d :: dependencies => do
      observeDependency env record target d
      observeHandoffs env record target dependencies

def observeStepHandoffs (env : Environment X W F) (record : StepRecord) : Stretch X W F Unit := do
  let record := current record (← read)
  match record.assignedAgentId.filter fun agentId => agentId ≠ "" with
  | none => pure ()
  | some target => observeHandoffs env record target record.step.dependsOn

/-- `_run_step` up to the call of the runtime. -/
def beginStep (env : Environment X W F) (record : StepRecord) (rest : List StepRecord) :
    Stretch X W F (Awaiting F) := do
  let agent ← demand .assignAgent fun s => s.kernel.assignAgent env.policy record.step
  let record := current record (← read)
  let running :=
    { record with
      assignedAgentId := some agent.spec.agentId
      state := .running
      attempts := record.attempts + 1 }
  setStep running
  let workflowId := (← read).workflow.plan.workflowId
  emit env .assignedAudit
    { workflowId := some workflowId
      action := .delegate
      subject := record.step.stepId
      reason := "assigned to " ++ agent.spec.agentId }
  let outputs ← demand .dependencies fun s =>
    s.workflow.dependencyOutputs record.step.dependsOn
  return ⟨record, agent.spec, Run.taskFor (← read).workflow running outputs, rest⟩

/-- `_run_step` from the result of the runtime on. -/
def finishStep (env : Environment X W F) (a : Awaiting F) (result : TaskResult F) (latencyMs : F) :
    Stretch X W F Unit := do
  let record := current a.record (← read)
  setStep
    { record with
      output := result.output
      error := result.error
      state := if result.ok then .completed else .failed }
  let agent ← demand .agentLookup fun s => s.kernel.getAgent a.agent.agentId
  let failureCount := if result.ok then 0 else agent.failureStreak + 1
  let plan := (← read).workflow.plan
  observe env a.agent.agentId (Run.resultTelemetry plan.priority result latencyMs failureCount)
  let record := current a.record (← read)
  let event (action : MaestroAction) (reason : String) : MaestroEvent F :=
    { workflowId := some plan.workflowId, action, subject := record.step.stepId, reason }
  if !result.ok && decide ((record.attempts : ℤ) < attemptLimit env.policy record.step) then
    setStep { record with state := .pending }
    emit env .retryAudit (event .retry "step failed; retry scheduled")
  else if !result.ok then
    emit env .giveUpAudit (event .reroute "step failed; retries exhausted")

/-- The loop from where the next step of the list is taken: to the next await, or to the end. -/
def conduct (env : Environment X W F) : List StepRecord → Stretch X W F (Option (Awaiting F))
  | record :: rest => do
      let a ← beginStep env record rest
      return some a
  | [] => do
      match ← demand .readySteps fun s => s.workflow.readySteps s.workflow.steps with
      | record :: rest =>
        let a ← beginStep env record rest
        return some a
      | [] =>
        observeFromSteps env
        return none

/-- `run_workflow` up to its first await. -/
def start (env : Environment X W F) : Stretch X W F (Option (Awaiting F)) := do
  if env.runtime = false then raise ⟨.runtimeMissing, .kernel .noRuntime⟩
  modify fun s => { s with workflow := { s.workflow with state := .running } }
  let workflowId := (← read).workflow.plan.workflowId
  emit env .startedAudit
    { workflowId := some workflowId
      action := .delegate
      subject := workflowId
      reason := "workflow started" }
  conduct env []

/-- What the runtime gave back: an exception, or a result together with the time that the
call took. -/
abbrev Reply (X F : Type) [Number F] : Type := Except X (TaskResult F × F)

/-- The result is recorded, and the hand-offs and the workflow observed. -/
def record (env : Environment X W F) (a : Awaiting F) (result : TaskResult F) (elapsedMs : F) :
    Stretch X W F Unit := do
  finishStep env a result (if result.latencyMs == 0.0 then elapsedMs else result.latencyMs)
  observeStepHandoffs env a.record
  observeFromSteps env

/-- `run_workflow` from one await to the next. -/
def resume (env : Environment X W F) (a : Awaiting F) :
    Reply X F → Stretch X W F (Option (Awaiting F))
  | .error e => raise ⟨.runtimeRun, .outside e⟩
  | .ok (result, elapsedMs) => do
      record env a result elapsedMs
      let state := (← read).workflow.state
      if state = .escalated ∨ state = .failed then return none
      else conduct env a.rest

def intervene (env : Environment X W F) (action : MaestroAction) (subject reason : String)
    (payload : EventPayload F) : Stretch X W F Unit := do
  modify fun s =>
    { s with
      workflow :=
        { s.workflow with
          state :=
            match action with
            | .pause => .paused
            | .escalate => .escalated
            | .finalize => .completed
            | .reroute => .degraded
            | _ => s.workflow.state } }
  let workflowId := (← read).workflow.plan.workflowId
  emit env .interveneAudit { workflowId := some workflowId, action, subject, reason, payload }

end MaestroKernel.Workflow.Coroutines
