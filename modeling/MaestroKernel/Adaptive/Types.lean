import MaestroKernel.Workflow.Governor

/-! # The types of the adaptive toolkit -/

namespace MaestroKernel.Adaptive

open Workflow

inductive TaskDuration where
  | short | medium | long
deriving DecidableEq

inductive RiskLevel where
  | low | medium | high | critical
deriving DecidableEq

inductive PolicyName where
  | fast | balanced | conservative | longRunning | qualityFirst | costSaving | exploratory
  | criticalSafety

inductive RuntimeMode where
  | observe | recommend | controlledAdaptive | restrictedCritical
deriving DecidableEq

inductive CheckpointKind where
  | hourly | eventBased | milestone | final
deriving DecidableEq

structure TaskProfile where
  duration : TaskDuration
  risk : RiskLevel
  requiresAudit : Bool := true

structure PolicyProfile (F : Type) [Number F] where
  name : PolicyName
  policyVersion : String
  kernelPolicy : KernelPolicy F
  checkpointIntervalMinutes : Option ℤ
  runtimeMode : RuntimeMode
  minSampleSize : ℤ
  humanGateRequired : Bool := false

/-- How Python writes a float: `f"{x:.2f}"` and `json.dumps(x)`. -/
structure Formatting (F : Type) where
  fixed2 : F → String
  json : F → String

/-- `f"{seconds:.0f}"` -/
def wholeSeconds (seconds : ℚ) : String :=
  let floor := ⌊seconds⌋
  let rest := seconds - floor
  toString (if rest < 1 / 2 ∨ rest = 1 / 2 ∧ floor % 2 = 0 then floor else floor + 1)

/-- The members of `MaestroAction`, in their order. -/
def maestroActions : List MaestroAction :=
  [.delegate, .handoff, .parallelize, .retry, .reroute, .merge, .pause, .quarantine, .archive,
    .reactivate, .escalate, .finalize, .observe]

def actionValue : MaestroAction → String
  | .delegate => "delegate"
  | .handoff => "handoff"
  | .parallelize => "parallelize"
  | .retry => "retry"
  | .reroute => "reroute"
  | .merge => "merge"
  | .pause => "pause"
  | .quarantine => "quarantine"
  | .archive => "archive"
  | .reactivate => "reactivate"
  | .escalate => "escalate"
  | .finalize => "finalize"
  | .observe => "observe"

def RiskLevel.value : RiskLevel → String
  | .low => "low"
  | .medium => "medium"
  | .high => "high"
  | .critical => "critical"

def CheckpointKind.value : CheckpointKind → String
  | .hourly => "hourly"
  | .eventBased => "event_based"
  | .milestone => "milestone"
  | .final => "final"

end MaestroKernel.Adaptive
