import MaestroKernel.Library.Histories
import MaestroKernel.Pilot.Tasks

/-! # The life of a pilot task

What a task has gone through is read off the answers of the calls, newest first. The laws compare it
with the task in the store: which tasks are disabled, which keys validate, and what a resumed task
can still do. -/

namespace MaestroKernel.Pilot

open Checked Histories

/-! ## Histories -/

/-- The tasks, and what the calls have answered, newest first. -/
structure World where
  tasks : List Task := []
  history : List Reply := []

def step (env : Platform) (w : World) (call : Call × Draw) : World :=
  match perform env w.tasks call.2 call.1 with
  | .ok (tasks, reply) => ⟨tasks, reply :: w.history⟩
  | .error _ => w

structure IssuedKey where
  raw : String
  expiresAt : String

namespace Reply

variable (taskId : String)

def stops : Reply → Bool
  | controlled action safe => safe.task.taskId = taskId && action.stops
  | _ => false

def ends : Reply → Bool
  | controlled action safe => safe.task.taskId = taskId && action.ends
  | _ => false

def resumes : Reply → Bool
  | controlled action safe => safe.task.taskId = taskId && action = .resume
  | _ => false

def key? : Reply → Option IssuedKey
  | issued raw safe =>
    if safe.task.taskId = taskId then some ⟨raw, safe.task.activationPermissionExpiresAt⟩
    else none
  | _ => none

end Reply

/-- The task has been revoked or cancelled. -/
def ended (taskId : String) (history : List Reply) : Bool := history.any (Reply.ends taskId)

def issuedKeys (taskId : String) (history : List Reply) : List IssuedKey :=
  history.filterMap (Reply.key? taskId)

/-- The last key of the task, when the task has not been stopped since. -/
def liveKey (taskId : String) : List Reply → Option IssuedKey
  | [] => none
  | reply :: before =>
    (reply.key? taskId).or (if reply.stops taskId then none else liveKey taskId before)

/-- The task has been resumed, and not been stopped since. -/
def resumed (taskId : String) : List Reply → Bool
  | [] => false
  | reply :: before => !reply.stops taskId && (reply.resumes taskId || resumed taskId before)

theorem mem_issuedKeys_of_live {taskId : String} {history : List Reply} {key : IssuedKey}
    (h : liveKey taskId history = some key) : key ∈ issuedKeys taskId history := by
  induction history with
  | nil => cases h
  | cons reply before ih =>
    rw [liveKey] at h
    rw [issuedKeys, List.filterMap_cons]
    cases hkey : reply.key? taskId with
    | some issued =>
      rw [hkey, Option.some_or] at h
      obtain rfl := Option.some.inj h
      exact List.mem_cons_self
    | none =>
      rw [hkey, Option.none_or, Option.ite_none_left_eq_some] at h
      exact ih h.2

/-- The answer says nothing about the task. -/
structure Reply.Neutral (taskId : String) (reply : Reply) : Prop where
  stops : reply.stops taskId = false
  ends : reply.ends taskId = false
  resumes : reply.resumes taskId = false
  key : reply.key? taskId = none

section Neutral

variable {taskId : String} {reply : Reply} {history : List Reply}

theorem Reply.Neutral.controlled {action : Action} {safe : SafeTask} (h : safe.task.taskId ≠ taskId) :
    (Reply.controlled action safe).Neutral taskId := by
  constructor
  · simp [Reply.stops, h]
  · simp [Reply.ends, h]
  · simp [Reply.resumes, h]
  · rfl

theorem Reply.Neutral.issued {raw : String} {safe : SafeTask} (h : safe.task.taskId ≠ taskId) :
    (Reply.issued raw safe).Neutral taskId :=
  ⟨rfl, rfl, rfl, if_neg h⟩

theorem Reply.Neutral.ended_cons (h : reply.Neutral taskId) :
    ended taskId (reply :: history) = ended taskId history := by
  rw [ended, List.any_cons, h.ends, Bool.false_or, ended]

theorem Reply.Neutral.issuedKeys_cons (h : reply.Neutral taskId) :
    issuedKeys taskId (reply :: history) = issuedKeys taskId history := by
  rw [issuedKeys, List.filterMap_cons, h.key, issuedKeys]

theorem Reply.Neutral.liveKey_cons (h : reply.Neutral taskId) :
    liveKey taskId (reply :: history) = liveKey taskId history := by
  rw [liveKey, h.key, h.stops, Option.none_or, if_neg Bool.false_ne_true]

theorem Reply.Neutral.resumed_cons (h : reply.Neutral taskId) :
    resumed taskId (reply :: history) = resumed taskId history := by
  rw [resumed, h.stops, h.resumes, Bool.not_false, Bool.true_and, Bool.false_or]

end Neutral

/-! ## The laws -/

section Laws

variable (env : Platform)

/-- The key opens the task at a reading of the clock. -/
def Validates (tasks : List Task) (taskId rawKey : String) (now : ℤ) : Prop :=
  ∃ safe, validateActivationPermissionKey env now tasks taskId rawKey = .ok (.valid safe)

/-- The expiry, where it is a time, lies ahead. -/
def Unexpired (expiresAt : String) (now : ℤ) : Prop :=
  ∀ t, parseActivationPermissionExpiry env expiresAt = .ok (some t) → utcnow now < t

/-- A key can still be issued that validates. -/
def CanIssue (tasks : List Task) (taskId : String) : Prop :=
  ∀ (draw : Draw) (expiresAt : Option String) (issuedBy text : String) (t : ℤ),
    expiryText env draw expiresAt = .ok text →
      parseActivationPermissionExpiry env text = .ok (some t) → utcnow draw.now < t →
        ∃ tasks' safe, perform env tasks draw
            (.issueActivationPermissionKey taskId expiresAt issuedBy) =
              .ok (tasks', .issued draw.rawKey safe) ∧
          Validates env tasks' taskId draw.rawKey draw.now

structure Lawful (w : World) : Prop where
  /-- A task that was revoked or cancelled is disabled. -/
  ended : ∀ taskId, ended taskId w.history = true →
    ∃ task, findTask w.tasks taskId = some task ∧ task.status.disabled = true
  /-- No key is issued after that. -/
  keyless : ∀ taskId later reply before, w.history = later ++ reply :: before →
    (reply.key? taskId).isSome = true → Pilot.ended taskId before = false
  single : ∀ taskId raw raw' now, Validates env w.tasks taskId raw now →
    Validates env w.tasks taskId raw' now → raw = raw'
  /-- A key validates from its issue to its expiry, as long as the task is not stopped. -/
  live : ∀ taskId key now, liveKey taskId w.history = some key → Unexpired env key.expiresAt now →
    Validates env w.tasks taskId key.raw now
  only : ∀ taskId raw now, Validates env w.tasks taskId raw now →
    ∃ key ∈ issuedKeys taskId w.history, key.raw = raw
  /-- A task that was only suspended and is resumed has a key, or can get one. -/
  resumed : ∀ taskId, resumed taskId w.history = true → Pilot.ended taskId w.history = false →
    (∃ key ∈ issuedKeys taskId w.history, ∀ now, Unexpired env key.expiresAt now →
      Validates env w.tasks taskId key.raw now) ∨ CanIssue env w.tasks taskId

/-- A call that resumes finds a task that was not ended and has no key yet, and a key is issued with
an expiry that can be read and a digest of its own. -/
def Careful (w : World) (call : Call × Draw) : Prop :=
  match call.1 with
  | .controlIntegrationTask taskId action _ _ =>
    actions.lookup (cleanString action) = some .resume → ∀ task,
      findTask w.tasks taskId = some task →
        task.integrationKeyRevoked = false ∧ task.activationPermissionKeyId = ""
  | .issueActivationPermissionKey taskId expiresAt _ => ∀ task text,
      findTask w.tasks taskId = some task → task.status.disabled = false →
        task.alreadyIssued = false → expiryText env call.2 expiresAt = .ok text →
          (∃ t, parseActivationPermissionExpiry env text = .ok (some t)) ∧
            ∀ raw, env.sha256 raw = env.sha256 call.2.rawKey → raw = call.2.rawKey
  | _ => True

end Laws

/-! ## The store follows the history -/

def Task.NoKey (task : Task) : Prop :=
  task.activationPermissionKeyId = "" ∧ task.activationPermissionKeyHash = none ∧
    task.activationPermissionIssuedAt = ""

structure Task.HasKey (env : Platform) (key : IssuedKey) (task : Task) : Prop where
  drawn : ∃ draw : Draw, task.activationPermissionKeyId = draw.keyId ∧ key.raw = draw.rawKey
  hash : task.activationPermissionKeyHash = some (env.sha256 key.raw)
  own : ∀ raw, env.sha256 raw = env.sha256 key.raw → raw = key.raw
  expiry : task.activationPermissionExpiresAt = key.expiresAt
  reads : ∃ t, parseActivationPermissionExpiry env key.expiresAt = .ok (some t)

structure Follows (env : Platform) (taskId : String) (history : List Reply) (task : Task) : Prop where
  ends : task.integrationKeyRevoked = ended taskId history
  disabled : task.integrationKeyRevoked = true → task.status.disabled = true
  keys : issuedKeys taskId history = [] ∧ task.NoKey ∨
    ∃ key, issuedKeys taskId history = [key] ∧ task.HasKey env key
  live : (liveKey taskId history).isSome = true →
    task.status = .activationPermissionIssued ∧ task.integrationKeyRevoked = false
  resumed : resumed taskId history = true →
    task.NoKey ∧ task.status.disabled = false ∧ task.status ≠ .activationPermissionIssued ∨
      (liveKey taskId history).isSome = true

/-- Nothing has happened to the task. -/
structure Untouched (taskId : String) (history : List Reply) : Prop where
  ends : ended taskId history = false
  keys : issuedKeys taskId history = []
  live : liveKey taskId history = none
  resumed : resumed taskId history = false

structure Inv (env : Platform) (w : World) : Prop where
  absent : ∀ taskId, findTask w.tasks taskId = none → Untouched taskId w.history
  present : ∀ taskId task, findTask w.tasks taskId = some task → Follows env taskId w.history task
  keyless : ∀ taskId later reply before, w.history = later ++ reply :: before →
    (reply.key? taskId).isSome = true → ended taskId before = false

section Inv

variable {env : Platform} {taskId : String} {history : List Reply} {task : Task} {reply : Reply}
  {tasks : List Task} {w : World}

theorem Follows.neutral (h : Follows env taskId history task) (hneutral : reply.Neutral taskId) :
    Follows env taskId (reply :: history) task := by
  refine ⟨?_, h.disabled, ?_, ?_, ?_⟩
  · rw [hneutral.ended_cons]
    exact h.ends
  · rw [hneutral.issuedKeys_cons]
    exact h.keys
  · rw [hneutral.liveKey_cons]
    exact h.live
  · rw [hneutral.resumed_cons, hneutral.liveKey_cons]
    exact h.resumed

theorem Untouched.neutral (h : Untouched taskId history) (hneutral : reply.Neutral taskId) :
    Untouched taskId (reply :: history) :=
  ⟨hneutral.ended_cons.trans h.ends, hneutral.issuedKeys_cons.trans h.keys,
    hneutral.liveKey_cons.trans h.live, hneutral.resumed_cons.trans h.resumed⟩

theorem keyless_cons
    (hnew : ∀ taskId, (reply.key? taskId).isSome = true → ended taskId history = false)
    (h : ∀ taskId later reply before, history = later ++ reply :: before →
      (reply.key? taskId).isSome = true → ended taskId before = false) :
    ∀ taskId later reply' before, reply :: history = later ++ reply' :: before →
      (reply'.key? taskId).isSome = true → ended taskId before = false := by
  intro taskId later reply' before hsplit hkey
  cases later with
  | nil =>
    obtain ⟨rfl, rfl⟩ := List.cons.inj hsplit
    exact hnew taskId hkey
  | cons first later =>
    obtain ⟨-, hrest⟩ := List.cons.inj hsplit
    exact h taskId later reply' before hrest hkey

theorem Inv.neutral (h : Inv env w) (hneutral : ∀ taskId, reply.Neutral taskId) :
    Inv env ⟨w.tasks, reply :: w.history⟩ := by
  refine ⟨?_, ?_, ?_⟩
  · exact fun taskId hnone => (h.absent taskId hnone).neutral (hneutral taskId)
  · exact fun taskId task hsome => (h.present taskId task hsome).neutral (hneutral taskId)
  · refine keyless_cons (fun taskId hkey => ?_) h.keyless
    rw [(hneutral taskId).key] at hkey
    cases hkey

theorem findTask_id (h : findTask tasks taskId = some task) : task.taskId = taskId := by
  simpa using List.find?_some h

theorem findTask_putTask_self {old : Task} (hfound : findTask tasks taskId = some old)
    (hid : task.taskId = taskId) : findTask (putTask tasks task) taskId = some task := by
  have hpredicate : (fun other : Task => decide (other.taskId = task.taskId)) =
      fun other => decide (other.taskId = taskId) := by
    rw [hid]
  rw [findTask, putTask, hpredicate]
  exact First.find?_replace_self hfound (by simp [hid])

theorem findTask_putTask_of_ne (h : task.taskId ≠ taskId) :
    findTask (putTask tasks task) taskId = findTask tasks taskId := by
  refine First.find?_replace_of_disjoint ?_ (by simp [h])
  intro other hsame
  simp only [decide_eq_true_eq] at hsame
  simp [hsame, h]

/-- A task that is found is changed, and the answer is about it. -/
theorem Inv.put {old : Task} (h : Inv env w) (hfound : findTask w.tasks taskId = some old)
    (hid : task.taskId = taskId) (hneutral : ∀ other, taskId ≠ other → reply.Neutral other)
    (hfollows : Follows env taskId (reply :: w.history) task)
    (hkeyless : (reply.key? taskId).isSome = true → ended taskId w.history = false) :
    Inv env ⟨putTask w.tasks task, reply :: w.history⟩ := by
  refine ⟨?_, ?_, ?_⟩
  · intro other hnone
    by_cases hsame : taskId = other
    · subst hsame
      rw [findTask_putTask_self hfound hid] at hnone
      cases hnone
    · rw [findTask_putTask_of_ne (hid ▸ hsame)] at hnone
      exact (h.absent other hnone).neutral (hneutral other hsame)
  · intro other found hsome
    by_cases hsame : taskId = other
    · subst hsame
      rw [findTask_putTask_self hfound hid] at hsome
      obtain rfl := Option.some.inj hsome
      exact hfollows
    · rw [findTask_putTask_of_ne (hid ▸ hsame)] at hsome
      exact (h.present other found hsome).neutral (hneutral other hsame)
  · refine keyless_cons (fun other hkey => ?_) h.keyless
    by_cases hsame : taskId = other
    · subst hsame
      exact hkeyless hkey
    · rw [(hneutral other hsame).key] at hkey
      cases hkey

/-! ## One call -/

theorem Task.HasKey.keyId_ne {key : IssuedKey} (h : task.HasKey env key) :
    task.activationPermissionKeyId ≠ "" := by
  obtain ⟨draw, hid, -⟩ := h.drawn
  rw [hid]
  exact draw.keyId_ne

theorem Follows.noKey (h : Follows env taskId history task)
    (hnone : task.activationPermissionKeyId = "") :
    issuedKeys taskId history = [] ∧ task.NoKey :=
  h.keys.resolve_right fun ⟨_, _, hkey⟩ => hkey.keyId_ne hnone

theorem noKey_of_not_issued (h : task.alreadyIssued = false) :
    task.activationPermissionKeyId = "" ∧ task.status ≠ .activationPermissionIssued := by
  simp only [Task.alreadyIssued, Bool.or_eq_false_iff, decide_eq_false_iff_not, not_not] at h
  exact ⟨h.1.1.1, h.2⟩

theorem refused_neutral {error : String} {safe : Option SafeTask} :
    (Reply.refused error safe).Neutral taskId := ⟨rfl, rfl, rfl, rfl⟩

theorem created_neutral {safe : SafeTask} : (Reply.created safe).Neutral taskId :=
  ⟨rfl, rfl, rfl, rfl⟩

theorem valid_neutral {safe : SafeTask} : (Reply.valid safe).Neutral taskId := ⟨rfl, rfl, rfl, rfl⟩

/-- A task is added at the end. -/
theorem Inv.created (h : Inv env w) (draw : Draw) (status publicReason internalReason : Option String)
    (createdBy : String) {safe : SafeTask} :
    Inv env ⟨w.tasks ++ [createIntegrationTask env draw status publicReason internalReason createdBy],
      .created safe :: w.history⟩ := by
  refine ⟨?_, ?_, ?_⟩
  · intro taskId hnone
    rw [findTask, List.find?_append, Option.or_eq_none_iff] at hnone
    exact (h.absent taskId hnone.1).neutral created_neutral
  · intro taskId task hsome
    rw [findTask, List.find?_append, Option.or_eq_some_iff] at hsome
    rcases hsome with hold | ⟨hnone, hnew⟩
    · exact (h.present taskId task hold).neutral created_neutral
    · obtain rfl := List.mem_singleton.mp (List.mem_of_find?_eq_some hnew)
      have huntouched := h.absent taskId hnone
      refine Follows.neutral ⟨?_, ?_, ?_, ?_, ?_⟩ created_neutral
      · exact huntouched.ends.symm
      · exact fun hrevoked => by cases hrevoked
      · exact .inl ⟨huntouched.keys, rfl, rfl, rfl⟩
      · rw [huntouched.live]
        exact fun hlive => by cases hlive
      · rw [huntouched.resumed]
        exact fun hresumed => by cases hresumed
  · refine keyless_cons (fun taskId hkey => ?_) h.keyless
    cases hkey

theorem Follows.controlled (h : Follows env taskId history task) (hid : task.taskId = taskId)
    {draw : Draw} {name actor reason : String} {action : Action}
    (hcareful : action = .resume →
      task.integrationKeyRevoked = false ∧ task.activationPermissionKeyId = "") :
    let controlled := controlTask env draw task name action actor reason
    Follows env taskId (.controlled action (sanitizeTask controlled) :: history) controlled := by
  intro controlled
  have hsame : controlled.taskId = taskId := hid
  have hstops : (Reply.controlled action (sanitizeTask controlled)).stops taskId = action.stops := by
    simp [Reply.stops, sanitizeTask, hsame]
  have hends : (Reply.controlled action (sanitizeTask controlled)).ends taskId = action.ends := by
    simp [Reply.ends, sanitizeTask, hsame]
  have hkeys : issuedKeys taskId (.controlled action (sanitizeTask controlled) :: history) =
      issuedKeys taskId history := rfl
  refine ⟨?_, ?_, ?_, ?_, ?_⟩
  · rw [ended, List.any_cons, hends]
    exact congrArg (action.ends || ·) h.ends
  · intro hrevoked
    cases action with
    | resume =>
      have hnot := (hcareful rfl).1
      have hold : controlled.integrationKeyRevoked = task.integrationKeyRevoked := rfl
      rw [hold, hnot] at hrevoked
      cases hrevoked
    | suspend => rfl
    | revoke => rfl
    | cancel => rfl
  · rw [hkeys]
    rcases h.keys with ⟨hnone, hnokey⟩ | ⟨key, hissued, hkey⟩
    · exact .inl ⟨hnone, hnokey⟩
    · exact .inr ⟨key, hissued, hkey.drawn, hkey.hash, hkey.own, hkey.expiry, hkey.reads⟩
  · rw [liveKey, hstops]
    cases action with
    | resume =>
      intro hlive
      have hnone := (h.noKey (hcareful rfl).2).1
      obtain ⟨key, hkey⟩ := Option.isSome_iff_exists.mp hlive
      have hmem := mem_issuedKeys_of_live (hkey : liveKey taskId history = some key)
      rw [hnone] at hmem
      cases hmem
    | suspend => exact fun hlive => by cases hlive
    | revoke => exact fun hlive => by cases hlive
    | cancel => exact fun hlive => by cases hlive
  · rw [Pilot.resumed, hstops]
    cases action with
    | resume =>
      have hnokey := (h.noKey (hcareful rfl).2).2
      exact fun _ => .inl ⟨hnokey, rfl, TaskStatus.noConfusion⟩
    | suspend => exact fun hresumed => by cases hresumed
    | revoke => exact fun hresumed => by cases hresumed
    | cancel => exact fun hresumed => by cases hresumed

theorem Follows.issued (h : Follows env taskId history task) (hid : task.taskId = taskId)
    {draw : Draw} {text : String} (issuedBy : String) (henabled : task.status.disabled = false)
    (hnew : task.alreadyIssued = false)
    (hreads : ∃ t, parseActivationPermissionExpiry env text = .ok (some t))
    (hown : ∀ raw, env.sha256 raw = env.sha256 draw.rawKey → raw = draw.rawKey) :
    let issued := issueTask env draw task text issuedBy
    Follows env taskId (.issued draw.rawKey (sanitizeTask issued) :: history) issued ∧
      ended taskId history = false := by
  intro issued
  have hsame : issued.taskId = taskId := hid
  have hkey : (Reply.issued draw.rawKey (sanitizeTask issued)).key? taskId =
      some ⟨draw.rawKey, text⟩ := if_pos hsame
  have hrevoked : task.integrationKeyRevoked = false := by
    by_contra hrevoked
    rw [h.disabled (Bool.of_not_eq_false hrevoked)] at henabled
    cases henabled
  have hlive : liveKey taskId (.issued draw.rawKey (sanitizeTask issued) :: history) =
      some ⟨draw.rawKey, text⟩ := by
    rw [liveKey, hkey, Option.some_or]
  refine ⟨⟨?_, ?_, ?_, ?_, ?_⟩, ?_⟩
  · exact h.ends
  · intro hnot
    have hold : issued.integrationKeyRevoked = task.integrationKeyRevoked := rfl
    rw [hold, hrevoked] at hnot
    cases hnot
  · refine .inr ⟨⟨draw.rawKey, text⟩, ?_, ⟨draw, rfl, rfl⟩, rfl, hown, rfl, hreads⟩
    have hnone := (h.noKey (noKey_of_not_issued hnew).1).1
    rw [issuedKeys, List.filterMap_cons, hkey]
    exact congrArg (List.cons _) hnone
  · exact fun _ => ⟨rfl, hrevoked⟩
  · exact fun _ => .inr (by rw [hlive]; rfl)
  · rw [← h.ends, hrevoked]

theorem validate_neutral {now : ℤ} {rawKey : String}
    (h : validateActivationPermissionKey env now tasks taskId rawKey = .ok reply) (other : String) :
    reply.Neutral other := by
  unfold validateActivationPermissionKey at h
  split at h
  · obtain rfl := Except.ok.inj h
    exact refused_neutral
  · split at h
    · obtain rfl := Except.ok.inj h
      exact refused_neutral
    · simp only [validateStored, bind_ok] at h
      obtain ⟨expiry, -, h⟩ := h
      split at h
      · split at h
        · obtain rfl := Except.ok.inj h
          exact refused_neutral
        · split at h
          · obtain rfl := Except.ok.inj h
            exact refused_neutral
          · simp only [bind_ok, pure_ok] at h
            obtain ⟨matched, -, rfl⟩ := h
            split
            · exact valid_neutral
            · exact refused_neutral
      · obtain rfl := Except.ok.inj h
        exact refused_neutral

theorem Inv.step (h : Inv env w) {call : Call × Draw} (hcareful : Careful env w call) :
    Inv env (step env w call) := by
  obtain ⟨call, draw⟩ := call
  rw [Pilot.step]
  cases call with
  | createIntegrationTask status publicReason internalReason createdBy =>
    exact h.created draw status publicReason internalReason createdBy
  | controlIntegrationTask taskId name actor reason =>
    simp only [perform, controlIntegrationTask]
    cases haction : actions.lookup (cleanString name) with
    | none => exact h.neutral fun _ => refused_neutral
    | some action =>
      cases hfound : findTask w.tasks taskId with
      | none => exact h.neutral fun _ => refused_neutral
      | some task =>
        have hid := findTask_id hfound
        refine h.put hfound hid (fun other hne => .controlled fun hsame => hne ?_)
          ((h.present taskId task hfound).controlled hid ?_) fun hkey => by cases hkey
        · exact hid.symm.trans hsame
        · rintro rfl
          exact hcareful haction task hfound
  | issueActivationPermissionKey taskId expiresAt issuedBy =>
    simp only [perform, issueActivationPermissionKey]
    cases hfound : findTask w.tasks taskId with
    | none => exact h.neutral fun _ => refused_neutral
    | some task =>
      dsimp only
      cases henabled : task.status.disabled with
      | true => exact h.neutral fun _ => refused_neutral
      | false =>
        cases hnew : task.alreadyIssued with
        | true => exact h.neutral fun _ => refused_neutral
        | false =>
          cases htext : expiryText env draw expiresAt with
          | error e => exact h
          | ok text =>
            obtain ⟨hreads, hown⟩ := hcareful task text hfound henabled hnew htext
            have hid := findTask_id hfound
            obtain ⟨hfollows, hkeyless⟩ := (h.present taskId task hfound).issued hid
              issuedBy henabled hnew hreads hown
            exact h.put hfound hid (fun other hne => .issued fun hsame =>
              hne (hid.symm.trans hsame)) hfollows fun _ => hkeyless
  | validateActivationPermissionKey taskId rawKey =>
    simp only [perform]
    cases hreply : validateActivationPermissionKey env draw.now w.tasks taskId rawKey with
    | error e => exact h
    | ok reply => exact h.neutral fun other => validate_neutral hreply other

/-! ## What validates -/

theorem Task.HasKey.validates {key : IssuedKey} {now : ℤ} (h : task.HasKey env key)
    (hfound : findTask tasks taskId = some task) (hstatus : task.status = .activationPermissionIssued)
    (hkept : task.integrationKeyRevoked = false) (hunexpired : Unexpired env key.expiresAt now) :
    Validates env tasks taskId key.raw now := by
  obtain ⟨draw, hid, hraw⟩ := h.drawn
  obtain ⟨t, hreads⟩ := h.reads
  have hahead : ¬ t ≤ utcnow now := not_le.mpr (hunexpired t hreads)
  have hmatched : keyMatches env key.raw draw.keyId (env.sha256 key.raw) = .ok true := by
    rw [hraw]
    exact keyMatches_rawKey
  refine ⟨sanitizeTask task, ?_⟩
  rw [validateActivationPermissionKey, hfound]
  dsimp only
  rw [if_neg (by simp [hstatus, hkept, TaskStatus.disabled]), validateStored, h.expiry,
    hreads, h.hash]
  simp only [bind, Except.bind, pure, Except.pure, hid, draw.cleanString_keyId, draw.keyId_ne,
    if_false, hahead, hmatched, if_true]

theorem of_validates {raw : String} {now : ℤ} (hfound : findTask tasks taskId = some task)
    (h : Validates env tasks taskId raw now) :
    task.activationPermissionKeyHash = some (env.sha256 raw) := by
  obtain ⟨safe, h⟩ := h
  rw [validateActivationPermissionKey, hfound] at h
  dsimp only at h
  split at h
  · cases h
  · simp only [validateStored, bind_ok] at h
    obtain ⟨expiry, -, h⟩ := h
    split at h
    · rename_i digest expiresAt hdigest
      split at h
      · cases h
      · split at h
        · cases h
        · simp only [bind_ok, pure_ok] at h
          obtain ⟨matched, hmatched, h⟩ := h
          split at h
          · rename_i htrue
            rw [htrue] at hmatched
            rw [hdigest, sha256_of_keyMatches hmatched]
          · cases h
    · cases h

theorem Inv.only (h : Inv env w) {raw : String} {now : ℤ}
    (hvalid : Validates env w.tasks taskId raw now) :
    ∃ key, issuedKeys taskId w.history = [key] ∧ key.raw = raw := by
  cases hfound : findTask w.tasks taskId with
  | none =>
    obtain ⟨safe, hreply⟩ := hvalid
    rw [validateActivationPermissionKey, hfound] at hreply
    cases hreply
  | some task =>
    have hdigest := of_validates hfound hvalid
    rcases (h.present taskId task hfound).keys with ⟨-, hnokey⟩ | ⟨key, hissued, hkey⟩
    · rw [hnokey.2.1] at hdigest
      cases hdigest
    · refine ⟨key, hissued, ?_⟩
      rw [hkey.hash, Option.some.injEq] at hdigest
      exact (hkey.own raw hdigest.symm).symm

theorem Inv.live (h : Inv env w) {key : IssuedKey} {now : ℤ}
    (hlive : liveKey taskId w.history = some key) (hunexpired : Unexpired env key.expiresAt now) :
    Validates env w.tasks taskId key.raw now := by
  cases hfound : findTask w.tasks taskId with
  | none =>
    rw [(h.absent taskId hfound).live] at hlive
    cases hlive
  | some task =>
    have hfollows := h.present taskId task hfound
    obtain ⟨hstatus, hkept⟩ := hfollows.live (by rw [hlive]; rfl)
    have hmem := mem_issuedKeys_of_live hlive
    rcases hfollows.keys with ⟨hnone, -⟩ | ⟨issued, hissued, hkey⟩
    · rw [hnone] at hmem
      cases hmem
    · rw [hissued, List.mem_singleton] at hmem
      subst hmem
      exact hkey.validates hfound hstatus hkept hunexpired

theorem canIssue (hfound : findTask tasks taskId = some task)
    (hnokey : task.NoKey) (henabled : task.status.disabled = false)
    (hstatus : task.status ≠ .activationPermissionIssued)
    (hkept : task.integrationKeyRevoked = false) : CanIssue env tasks taskId := by
  intro draw expiresAt issuedBy text t htext hreads hahead
  have hnew : task.alreadyIssued = false := by
    obtain ⟨hid, hhash, hissued⟩ := hnokey
    simp [Task.alreadyIssued, hid, hhash, hissued, hstatus]
  have hold : task.taskId = taskId := findTask_id hfound
  have hid : (issueTask env draw task text issuedBy).taskId = taskId := hold
  have hput := findTask_putTask_self hfound hid
  refine ⟨putTask tasks (issueTask env draw task text issuedBy),
    sanitizeTask (issueTask env draw task text issuedBy), ?_, ?_⟩
  · simp only [perform, issueActivationPermissionKey, hfound, henabled, Bool.false_eq_true,
      if_false, hnew, htext, bind, Except.bind, pure, Except.pure]
  · have hmatched : keyMatches env draw.rawKey draw.keyId (env.sha256 draw.rawKey) = .ok true :=
      keyMatches_rawKey
    refine ⟨sanitizeTask (issueTask env draw task text issuedBy), ?_⟩
    rw [validateActivationPermissionKey, hput]
    dsimp only
    rw [if_neg (by simp [issueTask, hkept, TaskStatus.disabled]), validateStored]
    simp only [issueTask, hreads, bind, Except.bind, pure, Except.pure, draw.cleanString_keyId,
      draw.keyId_ne, if_false, not_le.mpr hahead, hmatched, if_true]

theorem Inv.resumed (h : Inv env w) (hresumed : resumed taskId w.history = true)
    (hopen : ended taskId w.history = false) :
    (∃ key ∈ issuedKeys taskId w.history, ∀ now, Unexpired env key.expiresAt now →
      Validates env w.tasks taskId key.raw now) ∨ CanIssue env w.tasks taskId := by
  cases hfound : findTask w.tasks taskId with
  | none =>
    rw [(h.absent taskId hfound).resumed] at hresumed
    cases hresumed
  | some task =>
    have hfollows := h.present taskId task hfound
    rcases hfollows.resumed hresumed with ⟨hnokey, henabled, hstatus⟩ | hlive
    · exact .inr (canIssue hfound hnokey henabled hstatus (hfollows.ends.trans hopen))
    · obtain ⟨key, hkey⟩ := Option.isSome_iff_exists.mp hlive
      exact .inl ⟨key, mem_issuedKeys_of_live hkey, fun now hunexpired => h.live hkey hunexpired⟩

theorem Inv.lawful (h : Inv env w) : Lawful env w := by
  refine ⟨?_, h.keyless, ?_, fun taskId key now => h.live, ?_, fun taskId => h.resumed⟩
  · intro taskId hended
    cases hfound : findTask w.tasks taskId with
    | none =>
      rw [(h.absent taskId hfound).ends] at hended
      cases hended
    | some task =>
      have hfollows := h.present taskId task hfound
      exact ⟨task, rfl, hfollows.disabled (hfollows.ends.trans hended)⟩
  · intro taskId raw raw' now hvalid hvalid'
    obtain ⟨key, hissued, rfl⟩ := h.only hvalid
    obtain ⟨key', hissued', rfl⟩ := h.only hvalid'
    obtain rfl := List.singleton_inj.mp (hissued.symm.trans hissued')
    rfl
  · intro taskId raw now hvalid
    obtain ⟨key, hissued, hraw⟩ := h.only hvalid
    exact ⟨key, hissued ▸ List.mem_singleton_self key, hraw⟩

theorem inv_start : Inv env {} := by
  refine ⟨fun _ _ => ⟨rfl, rfl, rfl, rfl⟩, ?_, ?_⟩
  · intro taskId task hfound
    cases hfound
  · intro taskId later reply before hsplit
    cases later with
    | nil => cases hsplit
    | cons first later => cases hsplit

end Inv

/-- The laws hold after every run of careful calls. -/
theorem pilot_tasks_are_lawful (env : Platform) (calls : List (Call × Draw))
    (h : Along (step env) (Careful env) {} calls) : Lawful env (after (step env) {} calls) :=
  (h.invariant inv_start fun _ _ hinv hcareful => hinv.step hcareful).lawful

/-! ## Samples -/

namespace Sample

def midnight : ℤ := 739251 * day

def nextWeek : String := "2025-01-08T00:00:00Z"

def draw : Draw where
  now := midnight
  event := midnight
  uuid := "0123456789abcdef"
  token := "0123456789ABCDEFGHIJKLMNOPQRSTUVWXYZabcdefg"
  uuid_hex := by decide +kernel
  token_ne := by decide +kernel

def keyHex : String := "0212d2a75a86f26f8f6764128c67924ec6a66b34dc67ca216c41401ba73bf7a0"

theorem keyHex_hex : keyHex.toList.length = 64 ∧
    keyHex.toList.all (fun c => c.isDigit || ('a' ≤ c && c ≤ 'f')) = true := by
  decide +kernel

def keyDigest : Digest := ⟨keyHex, keyHex_hex⟩

def otherDigest : Digest :=
  ⟨"0000000000000000000000000000000000000000000000000000000000000000", by decide +kernel⟩

def platform : Platform where
  fromisoformat text := if text = nextWeek then some ⟨midnight + 7 * day, true⟩ else none
  iso t := if t = midnight then "2025-01-01T00:00:00Z" else nextWeek
  sha256 raw := if raw = draw.rawKey then keyDigest else otherDigest

def taskId : String := "itask_0123456789abcdef"

def control (action : String) : Call × Draw :=
  (.controlIntegrationTask taskId (some action) "supervisor" "", draw)

def create : Call × Draw := (.createIntegrationTask none none none "supervisor", draw)

def issue : Call × Draw := (.issueActivationPermissionKey taskId none "supervisor", draw)

theorem revoked_resumed :
    let w := after (step platform) {} [create, control "revoke", control "resume"]
    ended taskId w.history = true ∧
      (findTask w.tasks taskId).all (fun task => !task.status.disabled) = true := by
  decide +kernel

/-- A task that has been revoked is resumed. -/
theorem not_lawful : ¬ ∀ (env : Platform) (calls : List (Call × Draw)),
    Lawful env (after (step env) {} calls) := by
  intro h
  obtain ⟨hended, henabled⟩ := revoked_resumed
  obtain ⟨task, hfound, hdisabled⟩ := (h platform _).ended taskId hended
  rw [hfound, Option.all_some, hdisabled] at henabled
  cases henabled

def careful : List (Call × Draw) := [create, control "suspend", control "resume", issue]

theorem rawKey_own (raw : String) (h : platform.sha256 raw = platform.sha256 draw.rawKey) :
    raw = draw.rawKey := by
  by_contra hne
  have hother : platform.sha256 raw = otherDigest := if_neg hne
  have hkey : platform.sha256 draw.rawKey = keyDigest := by simp only [platform, if_true]
  rw [hother, hkey] at h
  exact absurd h (by decide +kernel)

theorem careful_along : Along (step platform) (Careful platform) {} careful := by
  refine ⟨trivial, ?_, ?_, ?_, trivial⟩
  · intro haction
    exact absurd haction (by decide +kernel)
  · intro _ task hfound
    have hfields : (findTask (after (step platform) {} [create, control "suspend"]).tasks
        taskId).all (fun task => task.integrationKeyRevoked = false ∧
          task.activationPermissionKeyId = "") = true := by
      decide +kernel
    have hsame : findTask (after (step platform) {} [create, control "suspend"]).tasks taskId =
        some task := hfound
    rw [hsame] at hfields
    exact of_decide_eq_true hfields
  · intro task text _ _ _ htext
    have hweek : expiryText platform draw none = .ok nextWeek := by decide +kernel
    obtain rfl := Except.ok.inj (hweek.symm.trans htext)
    refine ⟨⟨midnight + 7 * day, ?_⟩, rawKey_own⟩
    decide +kernel

theorem careful_lawful : Lawful platform (after (step platform) {} careful) :=
  pilot_tasks_are_lawful platform careful careful_along

end Sample

end MaestroKernel.Pilot
