import MaestroKernel.Workflow.Governor

/-! # The workflow kernel

`ProcessualMaestroKernel` as it runs one workflow. The runtime, the transition engine,
the audit sink and the clock are outside; they answer as the world that they keep among
themselves tells them. A run may raise, and what it did before stays done. -/

namespace MaestroKernel.Workflow

variable {W F : Type} [Number F]

structure TaskPayload where
  workflowId : String
  goal : String
  instruction : String
  dependencies : List (String × PyVal)
  metadata : PyVal

structure TaskEnvelope (F : Type) [Number F] where
  taskId : String
  requiredCapability : String
  payload : TaskPayload
  priority : F := 0.5

structure TaskResult (F : Type) [Number F] where
  taskId : String
  agentId : String
  ok : Bool
  output : PyVal := .none
  error : Option String := none
  latencyMs : F := 0.0
  cost : F := 0.0

inductive EventPayload (F : Type) where
  | empty
  | goal (goal : String)
  | edgePsi (psi : F)
  | workflowPsi (psi : F)

structure MaestroEvent (F : Type) where
  workflowId : Option String
  action : MaestroAction
  subject : String
  reason : String
  payload : EventPayload F := .empty

inductive AuditRecord (F : Type) where
  | event (event : MaestroEvent F)
  | governance (decision : GovernanceDecision F)
  | edge (decision : EdgeDecision F)
  | workflow (decision : WorkflowDecision F)

inductive KernelError where
  | noRuntime
  | unknownAgent (agentId : String)
  | unknownStep (stepId : String)
  | noActiveAgent (stepId capability : String)

/-- The dicts are lists in insertion order; agents are filed under the id of their spec. -/
structure Kernel (W F : Type) [Number F] where
  registry : List (AgentRecord F)
  handoffs : List (String × HandoffRecord F) := []
  events : List (MaestroEvent F) := []
  world : W

/-- While the runtime is awaited other tasks may use the kernel. -/
abbrev Runtime (W F : Type) [Number F] : Type :=
  AgentSpec → TaskEnvelope F → Kernel W F → TaskResult F × Kernel W F

structure Environment (W F : Type) [Number F] where
  policy : KernelPolicy F
  runtime : Option (Runtime W F)
  /-- `evaluate_structural_transition` -/
  evaluate : Transition F → W → Report F × W
  audit : AuditRecord F → W → W
  perfCounter : W → F × W

namespace Kernel

def emit (env : Environment W F) (event : MaestroEvent F) (k : Kernel W F) : Kernel W F :=
  { k with events := k.events ++ [event], world := env.audit (.event event) k.world }

def getAgent (k : Kernel W F) (agentId : String) : Except KernelError (AgentRecord F) :=
  match k.registry.find? fun r => r.spec.agentId = agentId with
  | some record => .ok record
  | none => .error (.unknownAgent agentId)

theorem getAgent_eq_ok {k : Kernel W F} {agentId : String} {agent : AgentRecord F} :
    k.getAgent agentId = .ok agent ↔
      (k.registry.find? fun r => r.spec.agentId = agentId) = some agent := by
  unfold getAgent
  cases k.registry.find? fun r => decide (r.spec.agentId = agentId) with
  | none => simp
  | some found => simp

theorem getAgent_agentId {k : Kernel W F} {agentId : String} {agent : AgentRecord F}
    (h : k.getAgent agentId = .ok agent) : agent.spec.agentId = agentId := by
  simpa using List.find?_some (getAgent_eq_ok.mp h)

def setAgent (k : Kernel W F) (record : AgentRecord F) : Kernel W F :=
  { k with
    registry := k.registry.map fun r => if r.spec.agentId = record.spec.agentId then record else r }

def observe (env : Environment W F) (agentId : String) (telemetry : AgentTelemetry F)
    (k : Kernel W F) : Except KernelError (GovernanceDecision F × Kernel W F) :=
  match k.getAgent agentId with
  | .error e => .error e
  | .ok record =>
    let previousCoeff := record.lastCoefficients.getD (fromAgentTelemetry {})
    let coeff := fromAgentTelemetry telemetry
    let (psi, dpsi) := stepPsi env.policy.dt record.psi coeff
    let record :=
      { record with
        previousPsi := record.psi
        psi
        failureStreak := telemetry.failureCount
        lastCoefficients := some coeff
        observations := record.observations + 1 }
    let (report, world) := env.evaluate
      (transition agentId previousCoeff coeff record.previousPsi record.psi dpsi
        record.failureStreak) k.world
    let decision := decideAgent env.policy record coeff dpsi report
    .ok (decision,
      { k.setAgent { record with state := decision.newState } with
        world := env.audit (.governance decision) world })

/-- The sort key `(psi, -failure_streak)`: whether `a` stands strictly below `b`. -/
def below (a b : AgentRecord F) : Bool :=
  if a.psi == b.psi then decide (-a.failureStreak < -b.failureStreak) else decide (a.psi < b.psi)

/-- `route_candidates`, which reads the required capability of the task only. -/
def routeCandidates (policy : KernelPolicy F) (requiredCapability : String) (k : Kernel W F) :
    List (AgentRecord F) :=
  let candidates := k.registry.filter fun r =>
    r.state = .active && requiredCapability ∈ r.spec.capabilities
  if policy.preferHighPsiAgents then candidates.mergeSort fun a b => !below a b else candidates

def assignAgent (policy : KernelPolicy F) (step : WorkflowStep) (k : Kernel W F) :
    Except KernelError (AgentRecord F) :=
  let route :=
    match k.routeCandidates policy step.capability with
    | [] => .error (.noActiveAgent step.stepId step.capability)
    | candidate :: _ => .ok candidate
  -- an empty id counts as no preference
  match step.preferredAgentId.filter fun agentId => agentId ≠ "" with
  | none => route
  | some agentId =>
    match k.getAgent agentId with
    | .error e => .error e
    | .ok preferred =>
      if preferred.state = .active && step.capability ∈ preferred.spec.capabilities then
        .ok preferred
      else route

def observeHandoff (env : Environment W F) (sourceAgentId targetAgentId : String)
    (telemetry : HandoffTelemetry F) (k : Kernel W F) : Kernel W F :=
  let id := edgeId sourceAgentId targetAgentId
  let record : HandoffRecord F := (k.handoffs.lookup id).getD { sourceAgentId, targetAgentId }
  let previousCoeff := record.lastCoefficients.getD (fromHandoffTelemetry {})
  let coeff := fromHandoffTelemetry telemetry
  let (psi, dpsi) := stepPsi env.policy.dt record.psi coeff
  let record :=
    { record with
      previousPsi := record.psi
      psi
      lastCoefficients := some coeff
      observations := record.observations + 1 }
  let (report, world) := env.evaluate
    (transition id previousCoeff coeff record.previousPsi record.psi dpsi
      (Number.truncate (pyMax 0.0 telemetry.reworkRate * 10.0))) k.world
  let decision := decideEdge env.policy record coeff dpsi report
  let record := { record with state := decision.newState }
  let handoffs :=
    if (k.handoffs.lookup id).isSome then
      k.handoffs.map fun entry => if entry.1 = id then (id, record) else entry
    else k.handoffs ++ [(id, record)]
  let k := { k with handoffs, world := env.audit (.edge decision) world }
  if decision.action = .reroute ∨ decision.action = .quarantine then
    k.emit env
      { workflowId := none
        action := decision.action
        subject := id
        reason := decision.reason
        payload := .edgePsi decision.psi }
  else k

end Kernel

/-! ## The steps of a workflow -/

namespace WorkflowRecord

/-- `workflow.steps[step_id]` -/
def step? (workflow : WorkflowRecord F) (stepId : String) : Option StepRecord :=
  workflow.steps.find? fun r => r.step.stepId = stepId

def setStep (workflow : WorkflowRecord F) (record : StepRecord) : WorkflowRecord F :=
  { workflow with
    steps := workflow.steps.map fun r => if r.step.stepId = record.step.stepId then record else r }

/-- The test of `ready_steps` over the dependencies of one step. -/
def allCompleted (workflow : WorkflowRecord F) : List String → Except KernelError Bool
  | [] => .ok true
  | d :: dependencies =>
    match workflow.step? d with
    | none => .error (.unknownStep d)
    | some r => if r.state = .completed then workflow.allCompleted dependencies else .ok false

def readySteps (workflow : WorkflowRecord F) : List StepRecord → Except KernelError (List StepRecord)
  | [] => .ok []
  | record :: records =>
    if record.state ≠ .pending then workflow.readySteps records
    else
      match workflow.allCompleted record.step.dependsOn with
      | .error e => .error e
      | .ok completed =>
        match workflow.readySteps records with
        | .error e => .error e
        | .ok ready => .ok (if completed then record :: ready else ready)

def dependencyOutputs (workflow : WorkflowRecord F) :
    List String → Except KernelError (List (String × PyVal))
  | [] => .ok []
  | d :: dependencies =>
    match workflow.step? d with
    | none => .error (.unknownStep d)
    | some r =>
      match workflow.dependencyOutputs dependencies with
      | .error e => .error e
      | .ok outputs => .ok ((d, r.output) :: outputs)

end WorkflowRecord

/-- A task that the runtime was given, with the kernel and the workflow as they stood when
its agent was chosen. -/
structure Start (W F : Type) [Number F] where
  kernel : Kernel W F
  workflow : WorkflowRecord F
  record : StepRecord
  agent : AgentRecord F
  result : TaskResult F

def Start.stepId (start : Start W F) : String := start.record.step.stepId

/-- A kernel with one of its workflows, and the tasks of it that were started. -/
structure Run (W F : Type) [Number F] where
  kernel : Kernel W F
  workflow : WorkflowRecord F
  starts : List (Start W F) := []

namespace Run

/-- The dict comprehension of `create_workflow`: a repeated id keeps its place and takes the
later step. -/
def stepRecords (steps : List WorkflowStep) : List StepRecord :=
  steps.foldl (fun records step =>
    if records.any fun r => r.step.stepId = step.stepId then
      records.map fun r => if r.step.stepId = step.stepId then { step := step } else r
    else records ++ [{ step := step }]) []

/-- `create_workflow` under an id that is free -/
def createWorkflow (env : Environment W F) (plan : WorkflowPlan F) (k : Kernel W F) : Run W F where
  kernel := k.emit env
    { workflowId := none
      action := .observe
      subject := plan.workflowId
      reason := "workflow created"
      payload := .goal plan.goal }
  workflow := { plan, steps := stepRecords plan.steps }

def observeWorkflow (env : Environment W F) (telemetry : WorkflowTelemetry F) (s : Run W F) :
    Run W F :=
  let record := s.workflow
  let workflowId := record.plan.workflowId
  let previousCoeff := record.lastCoefficients.getD (fromWorkflowTelemetry {})
  let coeff := fromWorkflowTelemetry telemetry
  let (psi, dpsi) := stepPsi env.policy.dt record.psi coeff
  let record := { record with previousPsi := record.psi, psi, lastCoefficients := some coeff }
  let (report, world) := env.evaluate
    (transition workflowId previousCoeff coeff record.previousPsi record.psi dpsi
      (record.inState .failed).length) s.kernel.world
  let decision := decideWorkflow env.policy record coeff dpsi report
  let kernel := { s.kernel with world := env.audit (.workflow decision) world }
  { s with
    workflow := { record with state := decision.newState }
    kernel := kernel.emit env
      { workflowId := some workflowId
        action := decision.action
        subject := workflowId
        reason := decision.reason
        payload := .workflowPsi decision.psi } }

/-- `_observe_workflow_from_steps` -/
def observeFromSteps (env : Environment W F) (s : Run W F) : Run W F :=
  let number (n : ℕ) : F := ((n : ℤ) : F)
  let failedSteps := (s.workflow.inState .failed).length
  let total := number (max 1 s.workflow.steps.length)
  let completed := number (s.workflow.inState .completed).length
  let failed := number failedSteps
  let running := number (s.workflow.inState .running).length
  let progress := completed / total
  let blocking := failed / total
  s.observeWorkflow env
    { goalAlignment := if failedSteps = 0 then 0.9 else 0.55
      progressRate := progress
      completionConfidence := progress * (1.0 - blocking)
      coordinationQuality := if failedSteps = 0 then 0.85 else 0.45
      blockingRate := blocking
      reworkRate := blocking
      costPressure := 0.10 + 0.20 * failed
      latencyPressure := 0.05 + 0.10 * running
      riskPressure := 0.10 * failed
      demandRate := s.workflow.plan.priority
      businessPriority := s.workflow.plan.priority }

/-- The telemetry of a hand-over to a step -/
def handoffTelemetry (ok : Bool) (priority : F) : HandoffTelemetry F where
  artifactQuality := if ok then 0.85 else 0.25
  contextPreservation := if ok then 0.80 else 0.30
  acceptanceRate := if ok then 0.90 else 0.20
  reworkRate := if ok then 0.05 else 0.75
  ambiguity := if ok then 0.10 else 0.70
  demandRate := priority

/-- `_observe_step_handoffs` over the dependencies of a step that `target` was given. -/
def observeHandoffs (env : Environment W F) (record : StepRecord) (target : String) :
    List String → Run W F → Except KernelError Unit × Run W F
  | [], s => (.ok (), s)
  | d :: dependencies, s =>
    match s.workflow.step? d with
    | none => (.error (.unknownStep d), s)
    | some dependency =>
      match dependency.assignedAgentId.filter fun agentId => agentId ≠ "" with
      | none => observeHandoffs env record target dependencies s
      | some source =>
        let telemetry := handoffTelemetry (record.state = .completed) s.workflow.plan.priority
        observeHandoffs env record target dependencies
          { s with kernel := s.kernel.observeHandoff env source target telemetry }

def observeStepHandoffs (env : Environment W F) (record : StepRecord) (s : Run W F) :
    Except KernelError Unit × Run W F :=
  match record.assignedAgentId.filter fun agentId => agentId ≠ "" with
  | none => (.ok (), s)
  | some target => observeHandoffs env record target record.step.dependsOn s

/-! ## `_run_step` -/

def taskFor (workflow : WorkflowRecord F) (record : StepRecord)
    (dependencies : List (String × PyVal)) : TaskEnvelope F where
  taskId := s!"{workflow.plan.workflowId}:{record.step.stepId}:{record.attempts}"
  requiredCapability := record.step.capability
  payload :=
    { workflowId := workflow.plan.workflowId
      goal := workflow.plan.goal
      instruction := record.step.instruction
      dependencies
      metadata := record.step.metadata }
  priority := workflow.plan.priority

/-- The call of the runtime with its latency, which the clock gives when the result does
not. -/
def perform (env : Environment W F) (runtime : Runtime W F) (agent : AgentSpec)
    (task : TaskEnvelope F) (k : Kernel W F) : TaskResult F × F × Kernel W F :=
  let (started, world) := env.perfCounter k.world
  let (result, k) := runtime agent task { k with world }
  if result.latencyMs == 0.0 then
    let (ended, world) := env.perfCounter k.world
    (result, (ended - started) * 1000.0, { k with world })
  else (result, result.latencyMs, k)

def resultTelemetry (priority : F) (result : TaskResult F) (latencyMs : F) (failureCount : ℤ) :
    AgentTelemetry F where
  successRate := if result.ok then 1.0 else 0.0
  cooperationSuccess := if result.ok then 0.65 else 0.25
  usefulHandoffRate := if result.ok then 0.65 else 0.20
  demandRate := pyMin 1.0 priority
  businessPriority := priority
  resourceCost := pyMin 1.0 result.cost
  failureCount
  latencyP95Ms := latencyMs

/-- The end of `_run_step`: a failed step that may be tried again waits again. -/
def retryOrGiveUp (env : Environment W F) (record : StepRecord) (ok : Bool) (s : Run W F) :
    Run W F :=
  let event (action : MaestroAction) (reason : String) : MaestroEvent F :=
    { workflowId := some s.workflow.plan.workflowId, action, subject := record.step.stepId, reason }
  if !ok && decide ((record.attempts : ℤ) < attemptLimit env.policy record.step) then
    { s with
      workflow := s.workflow.setStep { record with state := .pending }
      kernel := s.kernel.emit env (event .retry "step failed; retry scheduled") }
  else if !ok then
    { s with kernel := s.kernel.emit env (event .reroute "step failed; retries exhausted") }
  else s

/-- `_run_step` once the result is there -/
def settle (env : Environment W F) (record : StepRecord) (agentId : String)
    (result : TaskResult F) (latencyMs : F) (s : Run W F) : Except KernelError Unit × Run W F :=
  match s.kernel.getAgent agentId with
  | .error e => (.error e, s)
  | .ok agent =>
    let failureCount := if result.ok then 0 else agent.failureStreak + 1
    match s.kernel.observe env agentId
        (resultTelemetry s.workflow.plan.priority result latencyMs failureCount) with
    | .error e => (.error e, s)
    | .ok (_, kernel) => (.ok (), retryOrGiveUp env record result.ok { s with kernel })

def runStep (env : Environment W F) (runtime : Runtime W F) (record : StepRecord) (s : Run W F) :
    Except KernelError Unit × Run W F :=
  match s.kernel.assignAgent env.policy record.step with
  | .error e => (.error e, s)
  | .ok agent =>
    let running :=
      { record with
        assignedAgentId := some agent.spec.agentId
        state := .running
        attempts := record.attempts + 1 }
    let kernel := s.kernel.emit env
      { workflowId := some s.workflow.plan.workflowId
        action := .delegate
        subject := record.step.stepId
        reason := "assigned to " ++ agent.spec.agentId }
    let workflow := s.workflow.setStep running
    match workflow.dependencyOutputs record.step.dependsOn with
    | .error e => (.error e, { s with kernel, workflow })
    | .ok dependencies =>
      let (result, latencyMs, kernel) :=
        perform env runtime agent.spec (taskFor workflow running dependencies) kernel
      let finished :=
        { running with
          output := result.output
          error := result.error
          state := if result.ok then .completed else .failed }
      settle env finished agent.spec.agentId result latencyMs
        { kernel
          workflow := workflow.setStep finished
          starts := s.starts ++
            [{ kernel := s.kernel, workflow := s.workflow, record, agent, result }] }

/-- One pass over the steps that were ready; `true` when the workflow was stopped. The steps
are shared records, so each is read again when its turn comes. -/
def conductReady (env : Environment W F) (runtime : Runtime W F) :
    List String → Run W F → Except KernelError Bool × Run W F
  | [], s => (.ok false, s)
  | stepId :: ready, s =>
    match s.workflow.step? stepId with
    | none => (.error (.unknownStep stepId), s)
    | some record =>
      match runStep env runtime record s with
      | (.error e, s) => (.error e, s)
      | (.ok _, s) =>
        match observeStepHandoffs env ((s.workflow.step? stepId).getD record) s with
        | (.error e, s) => (.error e, s)
        | (.ok _, s) =>
          let s := s.observeFromSteps env
          if s.workflow.state = .escalated ∨ s.workflow.state = .failed then (.ok true, s)
          else conductReady env runtime ready s

/-- The `while` loop; `none` when the fuel does not suffice. -/
def loop (env : Environment W F) (runtime : Runtime W F) :
    ℕ → Run W F → Option (Except KernelError Unit × Run W F)
  | 0, _ => none
  | fuel + 1, s =>
    match s.workflow.readySteps s.workflow.steps with
    | .error e => some (.error e, s)
    | .ok [] => some (.ok (), s.observeFromSteps env)
    | .ok (record :: ready) =>
      match conductReady env runtime ((record :: ready).map fun r => r.step.stepId) s with
      | (.error e, s) => some (.error e, s)
      | (.ok true, s) => some (.ok (), s)
      | (.ok false, s) => loop env runtime fuel s

def runWorkflow (env : Environment W F) (fuel : ℕ) (s : Run W F) :
    Option (Except KernelError Unit × Run W F) :=
  match env.runtime with
  | none => some (.error .noRuntime, s)
  | some runtime =>
    let kernel := s.kernel.emit env
      { workflowId := some s.workflow.plan.workflowId
        action := .delegate
        subject := s.workflow.plan.workflowId
        reason := "workflow started" }
    loop env runtime fuel { s with kernel, workflow := { s.workflow with state := .running } }

end Run

end MaestroKernel.Workflow
