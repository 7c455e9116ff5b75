import MaestroKernel.Adaptive.Reports

/-! # Runtime commands

A checkpoint recommendation becomes a command, which the adapter executes on the kernel when it
is authorised and neither throttled nor a duplicate. -/

namespace MaestroKernel.Adaptive

open Workflow

variable {F : Type} [Number F]

/-- The payload that a checkpoint report gives its command. -/
structure CommandPayload (F : Type) where
  checkpointNumber : ℕ
  policyVersion : String
  risks : List String
  confidence : F

structure RuntimeCommand (F : Type) where
  workflowId : String
  action : MaestroAction
  subject : String
  reason : String
  payload : CommandPayload F
  authorized : Bool := false
  requiresHumanApproval : Bool := false
  requestId : Option ℕ := none
  dryRun : Bool := true

/-- An event of `intervene`. -/
structure Intervention where
  workflowId : String
  action : MaestroAction
  subject : String
  reason : String

/-- A key that is given, or the hash of a command, which stands for what is hashed. -/
inductive Fingerprint where
  | explicit (key : String)
  | content (workflowId : String) (action : MaestroAction) (subject reason : String)
      (checkpointNumber : ℕ) (policyVersion : String) (risks : List String) (confidence : String)
      (dryRun : Bool)
deriving DecidableEq

def commandFingerprint (fmt : Formatting F) (command : RuntimeCommand F)
    (idempotencyKey : Option String) : Fingerprint :=
  match idempotencyKey.filter fun key => key ≠ "" with
  | some key => .explicit key
  | none =>
    .content command.workflowId command.action command.subject command.reason
      command.payload.checkpointNumber command.payload.policyVersion command.payload.risks
      (fmt.json command.payload.confidence) command.dryRun

structure RuntimeCommandDeduplicationResult where
  workflowId : String
  commandFingerprint : Fingerprint
  duplicate : Bool
  suppressed : Bool
  reason : String
  action : MaestroAction

def deduplicateRuntimeCommand (fmt : Formatting F) (command : RuntimeCommand F)
    (seenFingerprints : List Fingerprint) (idempotencyKey : Option String)
    (preventDuplicate : Bool) : RuntimeCommandDeduplicationResult :=
  let fingerprint := commandFingerprint fmt command idempotencyKey
  let duplicate := preventDuplicate && !command.dryRun && decide (fingerprint ∈ seenFingerprints)
  { workflowId := command.workflowId
    commandFingerprint := fingerprint
    duplicate
    suppressed := duplicate
    reason :=
      if duplicate then "duplicate non-dry-run runtime command suppressed by idempotency guard"
      else if command.dryRun then "dry-run command is not recorded as a mutating idempotency key"
      else "runtime command is unique for this workflow and payload"
    action := command.action }

inductive ResultPayload (F : Type) where
  | command (payload : CommandPayload F)
  | throttled (subject : String) (cooldownSeconds : ℚ)
  | duplicate (fingerprint : Fingerprint)
  | event (event : Intervention)

structure RuntimeCommandResult (F : Type) where
  workflowId : String
  action : MaestroAction
  executed : Bool
  dryRun : Bool
  authorized : Bool
  requiresHumanApproval : Bool
  reason : String
  requestId : Option ℕ
  eventPayload : ResultPayload F
  createdAt : ℚ

/-- The subject under which the throttle counts a result. -/
def RuntimeCommandResult.subject (result : RuntimeCommandResult F) : String :=
  match result.eventPayload with
  | .throttled subject _ => if subject = "" then result.workflowId else subject
  | _ => result.workflowId

/-! ## The throttle -/

/-- `last_seen_by_key`: when an action was last seen on a subject. -/
abbrev LastSeen : Type := List ((MaestroAction × String) × ℚ)

/-- What `recent_commands` leave in `last_seen_by_key`. -/
def recentlySeen (recent : List (RuntimeCommandResult F)) (cooldownSeconds now : ℚ) : LastSeen :=
  recent.foldl
    (fun seen result =>
      if cooldownSeconds ≤ 0 ∨ now - result.createdAt ≤ cooldownSeconds then
        let key := (result.action, result.subject)
        (key, max result.createdAt ((seen.lookup key).getD 0)) :: seen
      else seen)
    []

/-- What the throttle says of one command, and what it leaves in `last_seen_by_key`. -/
def throttleCommand (protectedActions : List MaestroAction) (cooldownSeconds now : ℚ)
    (index : ℕ) (command : RuntimeCommand F) (seen : LastSeen) : (Bool × List String) × LastSeen :=
  let key := (command.action, command.subject)
  let text (reason : String) := ["command " ++ toString index ++ " " ++ reason]
  if command.dryRun then
    ((true, text "allowed because dry-run commands do not mutate runtime state"), seen)
  else if command.action ∈ protectedActions then
    ((true, text ("allowed because " ++ actionValue command.action ++
      " is protected from throttling")), (key, now) :: seen)
  else if cooldownSeconds ≤ 0 then
    ((true, text "allowed because throttling is disabled"), (key, now) :: seen)
  else if (seen.lookup key).any fun lastSeenAt => now - lastSeenAt < cooldownSeconds then
    ((false, text ("suppressed by " ++ wholeSeconds cooldownSeconds ++
      "s action/subject throttle")), seen)
  else ((true, []), (key, now) :: seen)

def throttleCommands (protectedActions : List MaestroAction) (cooldownSeconds now : ℚ) :
    ℕ → List (RuntimeCommand F) → LastSeen → List (ℕ × Bool × List String) × LastSeen
  | _, [], seen => ([], seen)
  | index, command :: commands, seen =>
    let (verdict, seen) := throttleCommand protectedActions cooldownSeconds now index command seen
    let (verdicts, seen) :=
      throttleCommands protectedActions cooldownSeconds now (index + 1) commands seen
    ((index, verdict) :: verdicts, seen)

structure RuntimeCommandThrottlePlan where
  workflowId : String
  inputCount : ℕ
  allowedIndices : List ℕ
  suppressedIndices : List ℕ
  cooldownSeconds : ℚ
  protectedActions : List MaestroAction
  throttleKeyCount : ℕ
  reasons : List String

def planRuntimeCommandThrottle (workflowId : String) (commands : List (RuntimeCommand F))
    (recentCommands : List (RuntimeCommandResult F)) (cooldownSeconds now : ℚ)
    (protectedActions : List MaestroAction) : RuntimeCommandThrottlePlan :=
  let protectedActions := if protectedActions = [] then [.escalate, .finalize] else protectedActions
  let (verdicts, seen) := throttleCommands protectedActions cooldownSeconds now 0 commands
    (recentlySeen recentCommands cooldownSeconds now)
  { workflowId
    inputCount := commands.length
    allowedIndices := (verdicts.filter fun v => v.2.1).map Prod.fst
    suppressedIndices := (verdicts.filter fun v => !v.2.1).map Prod.fst
    cooldownSeconds
    protectedActions := (commands.map RuntimeCommand.action).filter fun a => a ∈ protectedActions
    throttleKeyCount := (seen.map Prod.fst).dedup.length
    reasons :=
      verdicts.flatMap (fun v => v.2.2) ++
        if commands.isEmpty then ["no runtime commands to throttle"] else [] }

def stateActions : List MaestroAction := [.pause, .reroute, .escalate, .finalize]

/-- What the adapter does with a command: it gives a reason not to execute it, or executes it. -/
def refusal (command : RuntimeCommand F) : Option String :=
  if command.requiresHumanApproval then some "blocked pending human approval"
  else if !command.authorized then some "blocked because command is not authorized"
  else if command.dryRun then some "dry run only; no runtime mutation performed"
  else if command.action = .observe then some "observe action is read-only"
  else if command.action ∉ stateActions then
    some ("runtime adapter does not execute action " ++ actionValue command.action ++
      "; host runtime must handle it")
  else none

/-- `execute`, with the event that it emits if it executes. -/
def executeCommand (command : RuntimeCommand F) (now : ℚ) :
    RuntimeCommandResult F × Option Intervention :=
  let result (executed : Bool) (reason : String) (eventPayload : ResultPayload F) :
      RuntimeCommandResult F :=
    { workflowId := command.workflowId
      action := command.action
      executed
      dryRun := command.dryRun
      authorized := command.authorized
      requiresHumanApproval := command.requiresHumanApproval
      reason
      requestId := command.requestId
      eventPayload
      createdAt := now }
  match refusal command with
  | some reason => (result false reason (.command command.payload), none)
  | none =>
    let event : Intervention :=
      { workflowId := command.workflowId
        action := command.action
        subject := command.subject
        reason := command.reason }
    (result true "executed through kernel runtime boundary" (.event event), some event)

end MaestroKernel.Adaptive
