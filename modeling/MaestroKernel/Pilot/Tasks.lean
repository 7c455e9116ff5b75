import MaestroKernel.Library.Checked
import MaestroKernel.Library.First
import MaestroKernel.Market.Catalog

/-! # Pilot tasks

`integration_pilot_controls.py`: the tasks of an integration pilot, what a supervisor does with them,
and their activation permission keys. The terms of a task, which no function here reads, are left
out, and so is the audit file. -/

namespace MaestroKernel.Pilot

open Checked
open Market (strip strip_eq_self)

/-! ## Tasks -/

inductive TaskStatus where
  | draft
  | claimIssued
  | claimed
  | onboardingInProgress
  | pendingOperatorInputs
  | pendingSupervisorReview
  | sandboxGrantIssued
  | sandboxActive
  | suspended
  | revoked
  | cancelled
  | expired
  | completed
  | productionReviewRequired
  | activationPermissionIssued
deriving DecidableEq

def taskStatuses : List (String × TaskStatus) := [
  ("draft", .draft),
  ("claim_issued", .claimIssued),
  ("claimed", .claimed),
  ("onboarding_in_progress", .onboardingInProgress),
  ("pending_operator_inputs", .pendingOperatorInputs),
  ("pending_supervisor_review", .pendingSupervisorReview),
  ("sandbox_grant_issued", .sandboxGrantIssued),
  ("sandbox_active", .sandboxActive),
  ("suspended", .suspended),
  ("revoked", .revoked),
  ("cancelled", .cancelled),
  ("expired", .expired),
  ("completed", .completed),
  ("production_review_required", .productionReviewRequired),
  ("activation_permission_issued", .activationPermissionIssued)]

/-- `DISABLED_STATUSES` -/
def TaskStatus.disabled : TaskStatus → Bool
  | .suspended => true
  | .revoked => true
  | .cancelled => true
  | .expired => true
  | _ => false

/-- A digest as `hexdigest` writes it. -/
abbrev Digest :=
  { text : String // text.toList.length = 64 ∧
      text.toList.all (fun c => c.isDigit || ('a' ≤ c && c ≤ 'f')) = true }

structure TimelineEvent where
  action : String
  actor : String
  reason : String := ""
  atTime : String

structure Task where
  taskId : String
  status : TaskStatus
  publicReasonForClient : String
  internalReasonForSupervisor : String
  sandboxOnly : Bool := true
  sandboxGrantDisabled : Bool := true
  integrationKeyRevoked : Bool := false
  runtimeConnectorGrantDisabled : Bool := true
  activationPermissionKeyId : String := ""
  activationPermissionKeyHash : Option Digest := none
  activationPermissionIssuedAt : String := ""
  activationPermissionExpiresAt : String := ""
  activationPermissionIssuedBy : String := ""
  createdAt : String
  updatedAt : String
  createdBy : String
  timeline : List TimelineEvent

/-- What a caller sees of a task: the hash of its key is taken out, and the key is masked. -/
structure SafeTask where
  task : Task
  maskedActivationPermissionKey : String

def sanitizeTask (task : Task) : SafeTask where
  task := { task with activationPermissionKeyHash := none }
  maskedActivationPermissionKey :=
    if task.activationPermissionKeyId = "" then ""
    else task.activationPermissionKeyId ++ ".************************"

inductive Raised where
  | overflowError
  | typeError
deriving DecidableEq

/-- A point in time, in microseconds since the start of year 1 in UTC. -/
structure Instant where
  microseconds : ℤ
  aware : Bool

structure Platform where
  /-- `datetime.fromisoformat(text.replace("Z", "+00:00"))` -/
  fromisoformat : String → Option Instant
  /-- `_iso` of a time in UTC. -/
  iso : ℤ → String
  sha256 : String → Digest

/-- The microseconds from the start of year 1 to the end of year 9999. -/
def maxInstant : ℤ := 315537897600 * 1000000

def day : ℤ := 86400 * 1000000

/-- `_utcnow`: a reading of the clock without its microseconds. -/
def utcnow (reading : ℤ) : ℤ := reading - reading % 1000000

/-- `_clean_string`, of a value that has been written with `str`. -/
def cleanString (value : Option String) (default : String := "") : String :=
  match value with
  | none => default
  | some text => if strip text = "" then default else strip text

def parseActivationPermissionExpiry (env : Platform) (value : String) :
    Except Raised (Option ℤ) :=
  let cleaned := cleanString (some value)
  if cleaned = "" then .ok none
  else match env.fromisoformat cleaned with
    | none => .ok none
    | some parsed =>
      if parsed.aware = false then .ok none
      else if parsed.microseconds < 0 ∨ maxInstant ≤ parsed.microseconds then
        .error .overflowError
      else .ok (some parsed.microseconds)

/-- `raw_key.partition(".")`, where the separator is found. -/
def partition (rawKey : String) : Option (String × String) :=
  match rawKey.toList.dropWhile (· ≠ '.') with
  | [] => none
  | _ :: secret => some (String.ofList (rawKey.toList.takeWhile (· ≠ '.')), String.ofList secret)

/-- `secrets.compare_digest`, of two texts: both have to be ASCII. -/
def compareDigest (provided stored : String) : Except Raised Bool :=
  if provided.toList.all (fun c => c.toNat < 128) && stored.toList.all (fun c => c.toNat < 128) then
    .ok (provided = stored)
  else .error .typeError

inductive Action where
  | suspend
  | resume
  | revoke
  | cancel
deriving DecidableEq

def actions : List (String × Action) :=
  [("suspend", .suspend), ("resume", .resume), ("revoke", .revoke), ("cancel", .cancel)]

/-- `status_by_action` -/
def Action.status : Action → TaskStatus
  | .suspend => .suspended
  | .resume => .pendingSupervisorReview
  | .revoke => .revoked
  | .cancel => .cancelled

def Action.stops (action : Action) : Bool := action ≠ .resume

def Action.ends (action : Action) : Bool := action = .revoke || action = .cancel

inductive Call where
  | createIntegrationTask (status publicReason internalReason : Option String) (createdBy : String)
  | controlIntegrationTask (taskId : String) (action : Option String) (actor reason : String)
  | issueActivationPermissionKey (taskId : String) (expiresAt : Option String) (issuedBy : String)
  | validateActivationPermissionKey (taskId rawKey : String)

/-- What a call draws: its readings of the clock, `uuid4().hex[:16]` and `token_urlsafe(32)`. -/
structure Draw where
  now : ℤ
  event : ℤ
  uuid : String
  token : String
  uuid_hex : uuid.toList.all (fun c => c.isDigit || ('a' ≤ c && c ≤ 'f')) = true
  token_ne : token ≠ ""

inductive Reply where
  | refused (error : String) (task : Option SafeTask)
  | created (task : SafeTask)
  | controlled (action : Action) (task : SafeTask)
  | issued (activationPermissionKeyOnce : String) (task : SafeTask)
  | valid (task : SafeTask)

/-! ## Functions -/

section Functions

variable (env : Platform)

def findTask (tasks : List Task) (taskId : String) : Option Task :=
  tasks.find? fun task => task.taskId = taskId

/-- The task is changed in place. -/
def putTask (tasks : List Task) (task : Task) : List Task :=
  First.replace (fun other => other.taskId = task.taskId) task tasks

def timelineEvent (draw : Draw) (action actor : String) (reason : String := "") :
    TimelineEvent where
  action := action
  actor := actor
  reason := reason
  atTime := env.iso (utcnow draw.event)

def createIntegrationTask (draw : Draw) (status publicReason internalReason : Option String)
    (createdBy : String) : Task where
  taskId := "itask_" ++ draw.uuid
  status := (taskStatuses.lookup (cleanString status "pending_supervisor_review")).getD
    .pendingSupervisorReview
  publicReasonForClient := cleanString publicReason
  internalReasonForSupervisor := cleanString internalReason
  createdAt := env.iso (utcnow draw.now)
  updatedAt := env.iso (utcnow draw.now)
  createdBy := createdBy
  timeline := [timelineEvent env draw "created" createdBy]

def controlTask (draw : Draw) (task : Task) (name : String) (action : Action)
    (actor reason : String) : Task :=
  { task with
    status := action.status
    updatedAt := env.iso (utcnow draw.now)
    publicReasonForClient := if reason = "" then task.publicReasonForClient else reason
    internalReasonForSupervisor := reason
    sandboxGrantDisabled := action.stops || task.sandboxGrantDisabled
    runtimeConnectorGrantDisabled := action.stops || task.runtimeConnectorGrantDisabled
    integrationKeyRevoked := action.ends || task.integrationKeyRevoked
    timeline := task.timeline ++ [timelineEvent env draw name actor reason] }

def controlIntegrationTask (draw : Draw) (tasks : List Task) (taskId : String)
    (action : Option String) (actor reason : String) : List Task × Reply :=
  let name := cleanString action
  match actions.lookup name with
  | none => (tasks, .refused "unsupported_task_action" none)
  | some action =>
    match findTask tasks taskId with
    | none => (tasks, .refused "task_not_found" none)
    | some task =>
      let controlled := controlTask env draw task name action actor reason
      (putTask tasks controlled, .controlled action (sanitizeTask controlled))

/-- `activation_permission_already_issued` -/
def Task.alreadyIssued (task : Task) : Bool :=
  task.activationPermissionKeyId ≠ "" || task.activationPermissionKeyHash.isSome ||
    task.activationPermissionIssuedAt ≠ "" || task.status = .activationPermissionIssued

def Draw.keyId (draw : Draw) : String := "iapk_" ++ draw.uuid

def Draw.rawKey (draw : Draw) : String := draw.keyId ++ "." ++ draw.token

/-- The expiry that is stored: the one that is asked for, or seven days from now. -/
def expiryText (draw : Draw) (expiresAt : Option String) : Except Raised String :=
  if cleanString expiresAt ≠ "" then .ok (cleanString expiresAt)
  else if maxInstant ≤ utcnow draw.now + 7 * day then .error .overflowError
  else .ok (env.iso (utcnow draw.now + 7 * day))

def issueTask (draw : Draw) (task : Task) (expiresAt issuedBy : String) : Task :=
  { task with
    activationPermissionKeyId := draw.keyId
    activationPermissionKeyHash := some (env.sha256 draw.rawKey)
    activationPermissionIssuedAt := env.iso (utcnow draw.now)
    activationPermissionExpiresAt := expiresAt
    activationPermissionIssuedBy := issuedBy
    status := .activationPermissionIssued
    updatedAt := env.iso (utcnow draw.now)
    sandboxOnly := true
    sandboxGrantDisabled := true
    runtimeConnectorGrantDisabled := true
    timeline := task.timeline ++
      [timelineEvent env draw "activation_permission_key_issued" issuedBy] }

def issueActivationPermissionKey (draw : Draw) (tasks : List Task) (taskId : String)
    (expiresAt : Option String) (issuedBy : String) : Except Raised (List Task × Reply) :=
  match findTask tasks taskId with
  | none => .ok (tasks, .refused "task_not_found" none)
  | some task =>
    if task.status.disabled then
      .ok (tasks, .refused "task_not_eligible_for_activation_permission"
        (some (sanitizeTask task)))
    else if task.alreadyIssued then
      .ok (tasks, .refused "activation_permission_key_already_issued" (some (sanitizeTask task)))
    else do
      let expiry ← expiryText env draw expiresAt
      let issued := issueTask env draw task expiry issuedBy
      pure (putTask tasks issued, .issued draw.rawKey (sanitizeTask issued))

def keyMatches (rawKey storedKeyId : String) (storedKeyHash : Digest) : Except Raised Bool :=
  match partition rawKey with
  | none => .ok false
  | some (providedKeyId, providedSecret) =>
    if providedSecret = "" then .ok false
    else do
      let same ← compareDigest providedKeyId storedKeyId
      pure (same && env.sha256 rawKey = storedKeyHash)

/-- The answer about a key of a task that has one. -/
def validateStored (now : ℤ) (task : Task) (rawKey : String) : Except Raised Reply := do
  let expiresAt ← parseActivationPermissionExpiry env task.activationPermissionExpiresAt
  match task.activationPermissionKeyHash, expiresAt with
  | some storedKeyHash, some expiresAt =>
    if cleanString (some task.activationPermissionKeyId) = "" then
      pure (.refused "activation_permission_key_metadata_invalid" (some (sanitizeTask task)))
    else if expiresAt ≤ utcnow now then
      pure (.refused "activation_permission_key_expired" (some (sanitizeTask task)))
    else do
      let matched ← keyMatches env rawKey (cleanString (some task.activationPermissionKeyId))
        storedKeyHash
      pure (if matched then .valid (sanitizeTask task)
        else .refused "invalid_activation_permission_key" (some (sanitizeTask task)))
  | _, _ => pure (.refused "activation_permission_key_metadata_invalid" (some (sanitizeTask task)))

def validateActivationPermissionKey (now : ℤ) (tasks : List Task) (taskId rawKey : String) :
    Except Raised Reply :=
  match findTask tasks taskId with
  | none => .ok (.refused "task_not_found" none)
  | some task =>
    if task.status ≠ .activationPermissionIssued ∨ task.status.disabled = true ∨
        task.integrationKeyRevoked = true then
      .ok (.refused "activation_permission_key_inactive" (some (sanitizeTask task)))
    else validateStored env now task rawKey

/-- A call that raises has saved nothing. -/
def perform (tasks : List Task) (draw : Draw) : Call → Except Raised (List Task × Reply)
  | .createIntegrationTask status publicReason internalReason createdBy =>
    let task := createIntegrationTask env draw status publicReason internalReason createdBy
    .ok (tasks ++ [task], .created (sanitizeTask task))
  | .controlIntegrationTask taskId action actor reason =>
    .ok (controlIntegrationTask env draw tasks taskId action actor reason)
  | .issueActivationPermissionKey taskId expiresAt issuedBy =>
    issueActivationPermissionKey env draw tasks taskId expiresAt issuedBy
  | .validateActivationPermissionKey taskId rawKey => do
      let reply ← validateActivationPermissionKey env draw.now tasks taskId rawKey
      pure (tasks, reply)

end Functions

/-! ## Activation permission keys

A key is the identifier of the task's key, a dot and a secret. What is split off a key that has been
issued is its own identifier, and no digest but its own opens the task. -/

/-! ### Texts -/

/-- A character of a key identifier. -/
def isPlain (c : Char) : Prop := 48 ≤ c.toNat ∧ c.toNat ≤ 122

theorem isPlain_hex {c : Char} (h : (c.isDigit || ('a' ≤ c && c ≤ 'f')) = true) : isPlain c := by
  simp only [Char.isDigit, Bool.or_eq_true, Bool.and_eq_true, decide_eq_true_eq] at h
  rcases h with ⟨h₁, h₂⟩ | ⟨h₁, h₂⟩
  · have h₁' := UInt32.le_iff_toNat_le.mp h₁
    have h₂' := UInt32.le_iff_toNat_le.mp h₂
    have hval : c.toNat = c.val.toNat := rfl
    simp at h₁' h₂'
    rw [isPlain, hval]
    omega
  · have h₁' := UInt32.le_iff_toNat_le.mp h₁
    have h₂' := UInt32.le_iff_toNat_le.mp h₂
    have hval : c.toNat = c.val.toNat := rfl
    simp at h₁' h₂'
    rw [isPlain, hval]
    omega

theorem isPlain.not_space {c : Char} (h : isPlain c) : Durable.pyIsSpace c = false := by
  obtain ⟨hlow, hhigh⟩ := h
  simp only [Durable.pyIsSpace]
  simp
  omega

theorem isPlain.ne_dot {c : Char} (h : isPlain c) : c ≠ '.' := by
  rintro rfl
  exact absurd h.1 (by decide)

namespace Draw

variable (draw : Draw)

theorem keyId_plain : ∀ c ∈ draw.keyId.toList, isPlain c := by
  intro c hmem
  rw [keyId, String.toList_append, List.mem_append] at hmem
  rcases hmem with hprefix | huuid
  · have hchars : "iapk_".toList = ['i', 'a', 'p', 'k', '_'] := by decide
    rw [hchars] at hprefix
    simp only [List.mem_cons, List.not_mem_nil, or_false] at hprefix
    rcases hprefix with rfl | rfl | rfl | rfl | rfl <;> exact ⟨by decide, by decide⟩
  · exact isPlain_hex (List.all_eq_true.mp draw.uuid_hex c huuid)

theorem keyId_ne : draw.keyId ≠ "" := by
  intro h
  have hlength := congrArg (fun s : String => s.toList.length) h
  have hprefix : "iapk_".toList.length = 5 := by decide
  simp only [keyId, String.toList_append, List.length_append, hprefix] at hlength
  simp at hlength

@[simp] theorem cleanString_keyId : cleanString (some draw.keyId) = draw.keyId := by
  have hstrip : strip draw.keyId = draw.keyId :=
    strip_eq_self fun c hmem => (draw.keyId_plain c hmem).not_space
  rw [cleanString, hstrip, if_neg draw.keyId_ne]

theorem partition_rawKey : partition draw.rawKey = some (draw.keyId, draw.token) := by
  have hplain : ∀ c ∈ draw.keyId.toList, decide (c ≠ '.') = true := fun c hmem =>
    decide_eq_true (draw.keyId_plain c hmem).ne_dot
  have hlist : draw.rawKey.toList = draw.keyId.toList ++ '.' :: draw.token.toList := by
    have hdot : ".".toList = ['.'] := by decide
    rw [rawKey, String.toList_append, String.toList_append, hdot, List.append_assoc,
      List.singleton_append]
  rw [partition, hlist, List.dropWhile_append_of_pos hplain,
    List.dropWhile_cons_of_neg (by decide), List.takeWhile_append_of_pos hplain,
    List.takeWhile_cons_of_neg (by decide), List.append_nil]
  simp only [String.ofList_toList]

theorem compareDigest_keyId : compareDigest draw.keyId draw.keyId = .ok true := by
  have hascii : draw.keyId.toList.all (fun c => c.toNat < 128) = true := by
    rw [List.all_eq_true]
    intro c hmem
    have hplain := (draw.keyId_plain c hmem).2
    simp only [decide_eq_true_eq]
    omega
  rw [compareDigest, hascii, Bool.and_self, if_pos rfl, decide_eq_true rfl]

end Draw

/-! ### Matching -/

section Matching

variable {env : Platform} {draw : Draw} {digest : Digest} {raw : String}

theorem keyMatches_rawKey :
    keyMatches env draw.rawKey draw.keyId (env.sha256 draw.rawKey) = .ok true := by
  rw [keyMatches, draw.partition_rawKey]
  simp only [draw.token_ne, if_false, draw.compareDigest_keyId]
  simp [bind, Except.bind, pure, Except.pure]

theorem sha256_of_keyMatches {keyId : String} (h : keyMatches env raw keyId digest = .ok true) :
    env.sha256 raw = digest := by
  unfold keyMatches at h
  split at h
  · cases h
  · split at h
    · cases h
    · simp only [bind_ok, pure_ok, Bool.and_eq_true, decide_eq_true_eq] at h
      obtain ⟨_, -, -, hsame⟩ := h
      exact hsame

end Matching

end MaestroKernel.Pilot
