import MaestroKernel.Adaptive.Types
import MaestroKernel.Library.JsonLayouts

/-! # Batches of runtime commands

`plan_runtime_command_batch` says which commands of a list it would allow, from the fingerprints that
were recorded before; commands that are taken one by one record theirs as they go. -/

namespace MaestroKernel.Adaptive.Batches

open JsonText
open Workflow (MaestroAction)

structure Platform where
  floats : FloatText
  /-- The hexadecimal digest of a text. -/
  sha256 : String → String

/-- A command, with its payload as `_safe_dict` leaves it. -/
structure RuntimeCommand where
  workflowId : String
  action : MaestroAction
  subject : String
  reason : String
  payload : List (String × Value)
  dryRun : Bool := true

variable (env : Platform)

def commandFingerprint (command : RuntimeCommand) (idempotencyKey : Option String) : String :=
  match idempotencyKey.filter fun key => key ≠ "" with
  | some key => "explicit:" ++ key
  | none =>
    env.sha256 (dumpsSortedIn dense env.floats (.obj
      [("workflow_id", .str command.workflowId),
        ("action", .str (actionValue command.action)),
        ("subject", .str command.subject),
        ("reason", .str command.reason),
        ("payload", .obj command.payload),
        ("dry_run", .bool command.dryRun)]))

structure RuntimeCommandDeduplicationResult where
  workflowId : String
  commandFingerprint : String
  duplicate : Bool
  suppressed : Bool
  reason : String
  action : MaestroAction

def deduplicateRuntimeCommand (command : RuntimeCommand) (seenFingerprints : List String)
    (idempotencyKey : Option String) (preventDuplicate : Bool) :
    RuntimeCommandDeduplicationResult :=
  let fingerprint := commandFingerprint env command idempotencyKey
  let duplicate := preventDuplicate && !command.dryRun && decide (fingerprint ∈ seenFingerprints)
  { workflowId := command.workflowId
    commandFingerprint := fingerprint
    duplicate := duplicate
    suppressed := duplicate
    reason :=
      if duplicate then "duplicate non-dry-run runtime command suppressed by idempotency guard"
      else if command.dryRun then "dry-run command is not recorded as a mutating idempotency key"
      else "runtime command is unique for this workflow and payload"
    action := command.action }

/-! ## The batch plan -/

/-- What the loop makes of a command. -/
inductive Verdict where
  | allowed
  | duplicate
  | limited
deriving DecidableEq

def keyed (commands : List RuntimeCommand) (idempotencyKeys : List (Option String)) :
    List (RuntimeCommand × Option String) :=
  commands.zipIdx.map fun (command, index) => (command, (idempotencyKeys[index]?).join)

/-- The body of the loop, after so many mutating commands were allowed. -/
def judge (seenFingerprints : List String) (maxMutatingCommands : ℤ) (preventDuplicate : Bool)
    (mutatingAllowed : ℕ) (item : RuntimeCommand × Option String) : Verdict :=
  if preventDuplicate ∧ item.1.dryRun = false ∧
      commandFingerprint env item.1 item.2 ∈ seenFingerprints then .duplicate
  else if item.1.dryRun = false ∧ max 0 maxMutatingCommands ≤ mutatingAllowed then .limited
  else .allowed

/-- The loop of `plan_runtime_command_batch`. -/
def judgeAll (seenFingerprints : List String) (maxMutatingCommands : ℤ) (preventDuplicate : Bool) :
    ℕ → List (RuntimeCommand × Option String) → List Verdict
  | _, [] => []
  | mutatingAllowed, item :: items =>
    let verdict :=
      judge env seenFingerprints maxMutatingCommands preventDuplicate mutatingAllowed item
    verdict :: judgeAll seenFingerprints maxMutatingCommands preventDuplicate
      (if verdict = .allowed ∧ item.1.dryRun = false then mutatingAllowed + 1
        else mutatingAllowed) items

def verdictReason : ℕ × Verdict → List String
  | (_, .allowed) => []
  | (index, .duplicate) => ["command " ++ toString index ++ " suppressed as duplicate"]
  | (index, .limited) => ["command " ++ toString index ++ " suppressed by mutating batch limit"]

structure RuntimeCommandBatchPlan where
  workflowId : String
  inputCount : ℕ
  allowedCount : ℕ
  suppressedCount : ℕ
  maxMutatingCommands : ℤ
  fingerprints : List String
  reasons : List String

/-- The verdicts that `plan_runtime_command_batch` counts. -/
def batchVerdicts (commands : List RuntimeCommand) (seenFingerprints : List String)
    (maxMutatingCommands : ℤ) (preventDuplicate : Bool) (idempotencyKeys : List (Option String)) :
    List Verdict :=
  judgeAll env seenFingerprints maxMutatingCommands preventDuplicate 0
    (keyed commands idempotencyKeys)

def planRuntimeCommandBatch (workflowId : String) (commands : List RuntimeCommand)
    (seenFingerprints : List String) (maxMutatingCommands : ℤ) (preventDuplicate : Bool)
    (idempotencyKeys : List (Option String)) : RuntimeCommandBatchPlan :=
  let verdicts := batchVerdicts env commands seenFingerprints maxMutatingCommands preventDuplicate
    idempotencyKeys
  let reasons := (verdicts.zipIdx.map Prod.swap).flatMap verdictReason
  { workflowId := workflowId
    inputCount := commands.length
    allowedCount := verdicts.count .allowed
    suppressedCount := verdicts.countP (· ≠ .allowed)
    maxMutatingCommands := maxMutatingCommands
    fingerprints := (keyed commands idempotencyKeys).map fun item =>
      commandFingerprint env item.1 item.2
    reasons := if reasons = [] then
      ["runtime command batch is within dedupe and mutating limits"] else reasons }

/-- The commands that are allowed in their order, each recording its fingerprint, up to the limit of
mutating ones. -/
def oneByOne (maxMutatingCommands : ℤ) :
    List String → ℕ → List (RuntimeCommand × Option String) → List Bool
  | _, _, [] => []
  | seen, mutating, (command, key) :: items =>
    let result := deduplicateRuntimeCommand env command seen key true
    if command.dryRun then true :: oneByOne maxMutatingCommands seen mutating items
    else if result.suppressed ∨ max 0 maxMutatingCommands ≤ mutating then
      false :: oneByOne maxMutatingCommands seen mutating items
    else true :: oneByOne maxMutatingCommands (result.commandFingerprint :: seen) (mutating + 1)
      items

def allowedFingerprints (items : List (RuntimeCommand × Option String)) (verdicts : List Bool) :
    List String :=
  ((items.zip verdicts).filter fun (item, allowed) => allowed && !item.1.dryRun).map
    fun (item, _) => commandFingerprint env item.1 item.2

/-- The plan agrees with the commands taken one by one, and allows no two mutating commands of one
fingerprint. -/
structure Agrees (commands : List RuntimeCommand) (seenFingerprints : List String)
    (maxMutatingCommands : ℤ) (idempotencyKeys : List (Option String)) : Prop where
  verdicts : (batchVerdicts env commands seenFingerprints maxMutatingCommands true
      idempotencyKeys).map (fun verdict => decide (verdict = .allowed)) =
    oneByOne env maxMutatingCommands seenFingerprints 0 (keyed commands idempotencyKeys)
  distinct : (allowedFingerprints env (keyed commands idempotencyKeys)
    ((batchVerdicts env commands seenFingerprints maxMutatingCommands true
      idempotencyKeys).map fun verdict => decide (verdict = .allowed))).Nodup

def unseen (seenFingerprints : List String) (items : List (RuntimeCommand × Option String)) :
    List String :=
  ((items.filter fun item => !item.1.dryRun).map fun item =>
    commandFingerprint env item.1 item.2).filter (· ∉ seenFingerprints)

/-! ## Agreement -/

section Agreement

variable {env} {seen fresh : List String} {limit : ℤ} {mutating : ℕ}
  {item : RuntimeCommand × Option String} {items : List (RuntimeCommand × Option String)}

theorem unseen_cons_of_dryRun (h : item.1.dryRun = true) :
    unseen env seen (item :: items) = unseen env seen items := by
  simp [unseen, h]

theorem unseen_cons_of_seen (h : commandFingerprint env item.1 item.2 ∈ seen) :
    unseen env seen (item :: items) = unseen env seen items := by
  cases hdry : item.1.dryRun with
  | true => exact unseen_cons_of_dryRun hdry
  | false => simp [unseen, hdry, h]

theorem unseen_cons_of_mutating (hdry : item.1.dryRun = false)
    (h : commandFingerprint env item.1 item.2 ∉ seen) : unseen env seen (item :: items) =
      commandFingerprint env item.1 item.2 :: unseen env seen items := by
  simp [unseen, hdry, h]

/-- The verdicts on commands that follow commands with the fingerprints `fresh`. -/
theorem verdicts_eq_iff (mutating : ℕ) :
    (judgeAll env seen limit true mutating items).map (fun verdict => decide (verdict = .allowed)) =
        oneByOne env limit (fresh ++ seen) mutating items ↔
      ((unseen env seen items).take (limit.toNat - mutating)).Nodup ∧
        List.Disjoint fresh ((unseen env seen items).take (limit.toNat - mutating)) := by
  induction items generalizing fresh mutating with
  | nil => simp [judgeAll, oneByOne, unseen]
  | cons item items ih =>
    obtain ⟨command, key⟩ := item
    by_cases hdry : command.dryRun = true
    · -- a dry run is allowed by both
      have hjudge : judge env seen limit true mutating (command, key) = .allowed := by
        simp [judge, hdry]
      rw [unseen_cons_of_dryRun hdry, ← ih, judgeAll, hjudge, oneByOne, if_pos hdry]
      simp [hdry]
    · have hmutating : command.dryRun = false := Bool.eq_false_iff.mpr hdry
      by_cases hseen : commandFingerprint env command key ∈ seen
      · -- a fingerprint of an earlier batch is refused by both
        have hjudge : judge env seen limit true mutating (command, key) = .duplicate := by
          simp [judge, hmutating, hseen]
        rw [unseen_cons_of_seen hseen, ← ih, judgeAll, hjudge, oneByOne, if_neg hdry]
        simp [deduplicateRuntimeCommand, hmutating, hseen]
      · rw [unseen_cons_of_mutating hmutating hseen]
        by_cases hlimit : max 0 limit ≤ mutating
        · -- at the limit both refuse
          have hjudge : judge env seen limit true mutating (command, key) = .limited := by
            simp [judge, hmutating, hseen, hlimit]
          have hnone : limit.toNat - mutating = 0 := by omega
          have hrefused : oneByOne env limit (fresh ++ seen) mutating ((command, key) :: items) =
              false :: oneByOne env limit (fresh ++ seen) mutating items := by
            simp only [oneByOne]
            rw [if_neg hdry, if_pos (.inr hlimit)]
          have hrest := @ih fresh mutating
          rw [hnone] at hrest ⊢
          rw [judgeAll, hjudge, hrefused]
          simpa using hrest
        · have hjudge : judge env seen limit true mutating (command, key) = .allowed := by
            simp [judge, hseen, hlimit]
          have hroom : limit.toNat - mutating = (limit.toNat - (mutating + 1)) + 1 := by omega
          rw [hroom, List.take_succ_cons, judgeAll, hjudge, oneByOne, if_neg hdry]
          by_cases hfresh : commandFingerprint env command key ∈ fresh
          · -- a repeat inside the batch is allowed by the plan alone
            simp [deduplicateRuntimeCommand, hmutating, hfresh]
          · have hrest := @ih (commandFingerprint env command key :: fresh) (mutating + 1)
            rw [List.cons_append] at hrest
            simp [deduplicateRuntimeCommand, hmutating, hseen, hfresh, hlimit, hrest,
              and_comm, and_left_comm]

theorem allowedFingerprints_eq (mutating : ℕ) :
    allowedFingerprints env items ((judgeAll env seen limit true mutating items).map
        fun verdict => decide (verdict = .allowed)) =
      (unseen env seen items).take (limit.toNat - mutating) := by
  induction items generalizing mutating with
  | nil => simp [allowedFingerprints, unseen]
  | cons item items ih =>
    obtain ⟨command, key⟩ := item
    by_cases hdry : command.dryRun = true
    · have hjudge : judge env seen limit true mutating (command, key) = .allowed := by
        simp [judge, hdry]
      rw [unseen_cons_of_dryRun hdry, ← ih, judgeAll, hjudge]
      simp [allowedFingerprints, hdry]
    · have hmutating : command.dryRun = false := Bool.eq_false_iff.mpr hdry
      by_cases hseen : commandFingerprint env command key ∈ seen
      · have hjudge : judge env seen limit true mutating (command, key) = .duplicate := by
          simp [judge, hmutating, hseen]
        rw [unseen_cons_of_seen hseen, ← ih, judgeAll, hjudge]
        simp [allowedFingerprints]
      · rw [unseen_cons_of_mutating hmutating hseen]
        by_cases hlimit : max 0 limit ≤ mutating
        · have hjudge : judge env seen limit true mutating (command, key) = .limited := by
            simp [judge, hmutating, hseen, hlimit]
          have hnone : limit.toNat - mutating = 0 := by omega
          have hrest := ih mutating
          rw [hnone] at hrest ⊢
          rw [judgeAll, hjudge, List.take_zero]
          simpa [allowedFingerprints] using hrest
        · have hjudge : judge env seen limit true mutating (command, key) = .allowed := by
            simp [judge, hseen, hlimit]
          have hroom : limit.toNat - mutating = (limit.toNat - (mutating + 1)) + 1 := by omega
          rw [hroom, List.take_succ_cons, ← ih, judgeAll, hjudge]
          simp [allowedFingerprints, hmutating]

end Agreement

/-- The plan agrees with the commands taken one by one just when the mutating commands within the
limit that were not seen before have different fingerprints. -/
theorem plan_agrees_iff (commands : List RuntimeCommand) (seenFingerprints : List String)
    (maxMutatingCommands : ℤ) (idempotencyKeys : List (Option String)) :
    Agrees env commands seenFingerprints maxMutatingCommands idempotencyKeys ↔
      ((unseen env seenFingerprints (keyed commands idempotencyKeys)).take
        maxMutatingCommands.toNat).Nodup := by
  have hverdicts := @verdicts_eq_iff env seenFingerprints [] maxMutatingCommands
    (keyed commands idempotencyKeys) 0
  have hdistinct := @allowedFingerprints_eq env seenFingerprints maxMutatingCommands
    (keyed commands idempotencyKeys) 0
  rw [List.nil_append, Nat.sub_zero] at hverdicts
  rw [Nat.sub_zero] at hdistinct
  constructor
  · intro h
    exact (hverdicts.mp h.verdicts).1
  · intro hnodup
    refine ⟨hverdicts.mpr ⟨hnodup, List.disjoint_nil_left _⟩, ?_⟩
    rw [batchVerdicts, hdistinct]
    exact hnodup

namespace Sample

def platform : Platform where
  floats := bitFloats
  sha256 := fun text => text

def pause : RuntimeCommand where
  workflowId := "wf-1"
  action := .pause
  subject := "wf-1"
  reason := "checkpoint recommendation: hourly"
  payload := []
  dryRun := false

/-- A batch that repeats a command under one key. -/
theorem repeat_not_agreed :
    ¬ Agrees platform [pause, pause] [] 2 [some "pause-wf-1", some "pause-wf-1"] := by
  rintro ⟨-, hdistinct⟩
  revert hdistinct
  decide +kernel

end Sample

end MaestroKernel.Adaptive.Batches
