import MaestroKernel.Adaptive.Reports

/-! # Checkpoint schedules

A poll decides whether a checkpoint is due, and its decision is kept. A call that is to
create a checkpoint decides the same way first, when it has a coalescing window, and creates
none when the decision repeats the one before it. -/

namespace MaestroKernel.Adaptive

open Workflow

structure CheckpointScheduleDecision where
  workflowId : String
  due : Bool
  trigger : Option CheckpointKind
  reason : String
  lastCheckpointAt : Option ℚ
  nextDueAt : Option ℚ
  event : Option String
  milestone : Bool
  final : Bool
  createdAt : ℚ

structure CheckpointCoalescingDecision where
  workflowId : String
  originalDecision : CheckpointScheduleDecision
  effectiveDecision : CheckpointScheduleDecision
  coalesced : Bool
  reason : String
  cooldownSeconds : ℚ

def riskEvents : List String :=
  ["repeated_failure", "high_cost_spike", "handoff_degradation", "workflow_loop",
    "critical_agent_failure", "human_escalation"]

def nonCoalescableEvents : List String := ["critical_agent_failure", "human_escalation"]

/-- A call for a workflow, with what it finds in the kernel and the clock readings that it takes:
`inspectedAt` and `checkedAt` where `now` is not given, `createdAt` and `coalescedAt` for the
decisions it makes. -/
structure CheckpointCall (W F : Type) [Number F] where
  kernel : Kernel W F
  workflow : WorkflowRecord F
  profile : TaskProfile
  policy : PolicyProfile F
  event : Option String := none
  milestone : Bool := false
  final : Bool := false
  now : Option ℚ := none
  coalesceWindowSeconds : ℚ
  inspectedAt : ℚ
  createdAt : ℚ
  coalescedAt : ℚ
  checkedAt : ℚ

variable {W F : Type} [Number F]

def CheckpointCall.workflowId (call : CheckpointCall W F) : String :=
  call.workflow.plan.workflowId

/-! ## The controller and the scheduler -/

def inspect (call : CheckpointCall W F) (lastCheckpointAt : Option ℚ) :
    CheckpointScheduleDecision :=
  let now := call.now.getD call.inspectedAt
  let decision (due : Bool) (trigger : Option CheckpointKind) (reason : String)
      (nextDueAt : Option ℚ) : CheckpointScheduleDecision :=
    { workflowId := call.workflowId
      due
      trigger
      reason
      lastCheckpointAt
      nextDueAt
      event := call.event
      milestone := call.milestone
      final := call.final
      createdAt := call.createdAt }
  let nextDueAt :=
    match lastCheckpointAt, call.policy.checkpointIntervalMinutes with
    | some last, some interval => some (last + interval * 60)
    | _, _ => none
  if call.final then decision true (some .final) "final checkpoint requested" nextDueAt
  else if call.event.any fun event => event ∈ riskEvents then
    decision true (some .eventBased) ("risk event detected: " ++ call.event.getD "None") nextDueAt
  else if call.milestone then
    decision true (some .milestone) "milestone checkpoint requested" nextDueAt
  else
    match call.policy.checkpointIntervalMinutes with
    | none => decision false none "policy has no periodic checkpoint interval" nextDueAt
    | some interval =>
      match lastCheckpointAt with
      | none =>
        decision true (some (if call.profile.duration = .long then .hourly else .milestone))
          "first scheduled checkpoint is due" (some (now + interval * 60))
      | some last =>
        if last + interval * 60 ≤ now then
          decision true (some (if 60 ≤ interval then .hourly else .milestone))
            "checkpoint interval elapsed" nextDueAt
        else decision false none "checkpoint interval has not elapsed" nextDueAt

/-- `coalesce_checkpoint_decision`; the effective decision reads the clock anew. -/
def coalesceCheckpointDecision (decision : CheckpointScheduleDecision)
    (previousDecision : Option CheckpointScheduleDecision) (cooldownSeconds coalescedAt : ℚ) :
    CheckpointCoalescingDecision :=
  let kept (reason : String) : CheckpointCoalescingDecision :=
    { workflowId := decision.workflowId
      originalDecision := decision
      effectiveDecision := decision
      coalesced := false
      reason
      cooldownSeconds }
  match previousDecision with
  | none => kept "checkpoint coalescing disabled or not applicable"
  | some previous =>
    if cooldownSeconds ≤ 0 ∨ decision.due = false then
      kept "checkpoint coalescing disabled or not applicable"
    else if decision.trigger = some .final ∨
        (decision.event.any fun event => event ∈ nonCoalescableEvents) = true then
      kept "final or critical event checkpoints are never coalesced"
    else if previous.due = false then kept "previous checkpoint schedule decision was not due"
    else if previous.trigger = decision.trigger ∧ previous.event = decision.event ∧
        decision.createdAt - previous.createdAt ≤ cooldownSeconds then
      let reason :=
        "coalesced duplicate checkpoint within " ++ wholeSeconds cooldownSeconds ++ "s cooldown"
      { kept reason with
        effectiveDecision :=
          { decision with
            due := false
            reason
            createdAt := coalescedAt }
        coalesced := true }
    else kept "checkpoint is distinct or outside coalescing window"

def checkpointKind (call : CheckpointCall W F) (lastCheckpointAt : Option ℚ) (now : ℚ) :
    Option CheckpointKind :=
  if call.final then some .final
  else if call.event.any fun event => event ∈ riskEvents then some .eventBased
  else if call.milestone then some .milestone
  else
    match call.policy.checkpointIntervalMinutes with
    | none => none
    | some interval =>
      match lastCheckpointAt with
      | none => some (if call.profile.duration = .long then .hourly else .milestone)
      | some last =>
        if interval * 60 ≤ now - last then
          some (if 60 ≤ interval then .hourly else .milestone)
        else none

/-! ## The toolkit -/

/-- A checkpoint that was created, with the reading at which its call decided. -/
structure Creation where
  workflowId : String
  trigger : CheckpointKind
  event : Option String
  createdAt : ℚ

/-- What the scheduler and the toolkit keep for each workflow. `created` lists the checkpoints,
and `answered` tells whether the call that made the last schedule decision of a workflow
created one; the code keeps neither. -/
structure Schedule (F : Type) [Number F] where
  lastCheckpointAt : String → Option ℚ := fun _ => none
  counter : String → ℕ := fun _ => 0
  scheduleDecisions : String → List CheckpointScheduleDecision := fun _ => []
  coalescingDecisions : String → List CheckpointCoalescingDecision := fun _ => []
  reports : String → List (CheckpointReport F) := fun _ => []
  created : List Creation := []
  answered : String → Bool := fun _ => false

def extend {A : Type} (lists : String → List A) (workflowId : String) (a : A) : String → List A :=
  Function.update lists workflowId (lists workflowId ++ [a])

namespace Schedule

def previousDecision (σ : Schedule F) (workflowId : String) :
    Option CheckpointScheduleDecision :=
  (σ.coalescingDecisions workflowId).getLast?.map CheckpointCoalescingDecision.originalDecision

/-- What a call finds due before it coalesces. -/
def inspection (σ : Schedule F) (call : CheckpointCall W F) : CheckpointScheduleDecision :=
  inspect call (σ.lastCheckpointAt call.workflowId)

def checkpointScheduleDecision (call : CheckpointCall W F) (σ : Schedule F) :
    CheckpointScheduleDecision × Schedule F :=
  let coalescing := coalesceCheckpointDecision (σ.inspection call)
    (σ.previousDecision call.workflowId) call.coalesceWindowSeconds call.coalescedAt
  let effective := coalescing.effectiveDecision
  (effective,
    { σ with
      scheduleDecisions := extend σ.scheduleDecisions call.workflowId effective
      coalescingDecisions := extend σ.coalescingDecisions call.workflowId coalescing
      answered := Function.update σ.answered call.workflowId false })

/-- `CheckpointScheduler.maybe_checkpoint` -/
def schedulerCheckpoint (call : CheckpointCall W F) (σ : Schedule F) :
    Option (CheckpointReport F) × Schedule F :=
  let now := call.now.getD call.checkedAt
  match checkpointKind call (σ.lastCheckpointAt call.workflowId) now with
  | none => (none, σ)
  | some kind =>
    let number := σ.counter call.workflowId + 1
    let report := buildReport call.kernel call.workflow call.profile call.policy kind number now
    (some report,
      { σ with
        counter := Function.update σ.counter call.workflowId number
        lastCheckpointAt := Function.update σ.lastCheckpointAt call.workflowId (some now) })

/-- `maybe_checkpoint` from where the schedule lets it pass. -/
def createCheckpoint (call : CheckpointCall W F) (σ : Schedule F) :
    Option (CheckpointReport F) × Schedule F :=
  match σ.schedulerCheckpoint call with
  | (none, σ) => (none, σ)
  | (some report, σ) =>
    (some report,
      { σ with
        reports := extend σ.reports call.workflowId report
        created := σ.created ++ [⟨call.workflowId, report.kind, call.event, call.createdAt⟩] })

def maybeCheckpoint (call : CheckpointCall W F) (σ : Schedule F) :
    Option (CheckpointReport F) × Schedule F :=
  if 0 < call.coalesceWindowSeconds then
    let (schedule, σ) := σ.checkpointScheduleDecision call
    if schedule.due = false then (none, σ)
    else
      let (report, σ) := σ.createCheckpoint call
      (report, { σ with answered := Function.update σ.answered call.workflowId report.isSome })
  else σ.createCheckpoint call

end Schedule

inductive CheckpointAct (W F : Type) [Number F] where
  | poll (call : CheckpointCall W F)
  | checkpoint (call : CheckpointCall W F)

namespace Schedule

def step (σ : Schedule F) : CheckpointAct W F → Schedule F
  | .poll call => (σ.checkpointScheduleDecision call).2
  | .checkpoint call => (σ.maybeCheckpoint call).2

def run (acts : List (CheckpointAct W F)) : Schedule F := acts.foldl step {}

end Schedule

end MaestroKernel.Adaptive
