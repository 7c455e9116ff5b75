import MaestroKernel.Library.Checked
import MaestroKernel.Library.Once
import MaestroKernel.Library.Table
import MaestroKernel.Market.Catalog

/-! # The delivery ledger of evaluation executions

A claim is persisted before the network request that it stands for, so that a crash cannot lead to
a second one. One ledger is a file for each owner that keeps its newest records, the other a table
of the database. -/

namespace MaestroKernel.Evaluation

open Market (Platform Datetime strip)
open Checked

def EVALUATION_DELIVERY_MAX_RECORDS : ℕ := 500

inductive DeliveryState where
  | accepted | executing | executed | evidencePersisted | failed
deriving DecidableEq

def DeliveryState.value : DeliveryState → String
  | .accepted => "accepted"
  | .executing => "executing"
  | .executed => "executed"
  | .evidencePersisted => "evidence_persisted"
  | .failed => "failed"

inductive DeliveryFailure where
  | deliveryError (text : String)
  | idempotencyConflict (text : String)
  | replayBlocked (text : String)
  | typeError
  | osError

/-- What `claim_evaluation_execution` is called with. -/
structure Claim where
  ownerId : String
  grantId : String
  apiKeyId : String
  idempotencyKey : String
  requestFingerprint : String
  taskId : String
  bindingId : String

/-- The fields of a JSON object. -/
abbrev Fields : Type := List (String × Json)

/-- The items of a dict. -/
abbrev Items : Type := List (PyKey × PyVal)

def FORBIDDEN_REPLAY_KEYS : List String :=
  ["api_key", "authorization", "canonical_input", "credentials", "raw_response", "request_body",
   "response_body", "secret", "task_input"]

def forbiddenKey (env : Platform) : PyKey → Bool
  | .str s => env.lower (strip s) ∈ FORBIDDEN_REPLAY_KEYS
  | _ => false

mutual

def containsForbiddenReplayKey (env : Platform) : PyVal → Bool
  | .dict items => containsForbiddenItems env items
  | .list xs => containsForbiddenList env xs
  | _ => false

def containsForbiddenList (env : Platform) : List PyVal → Bool
  | [] => false
  | x :: xs => containsForbiddenReplayKey env x || containsForbiddenList env xs

def containsForbiddenItems (env : Platform) : Items → Bool
  | [] => false
  | (key, nested) :: items =>
    forbiddenKey env key || containsForbiddenReplayKey env nested ||
      containsForbiddenItems env items

end

def validateSafeReplayResponse (env : Platform) (replayResponse : Items) :
    Except DeliveryFailure Unit :=
  raiseIf (containsForbiddenReplayKey env (.dict replayResponse) = true)
    (.deliveryError "evaluation_replay_payload_contains_sensitive_material")

/-- What `json.dumps` makes of a dict. -/
def dumpFields (sortKeys : Bool) (items : Items) : Except DeliveryFailure Fields :=
  match (PyVal.dict items).dumps sortKeys with
  | some (.obj fields) => .ok fields
  | _ => .error .typeError

/-! ## The ledger file -/

namespace File

structure Record where
  recordId : String
  idempotencyKeySha256 : String
  requestFingerprint : String
  evaluationGrantId : String
  apiKeyId : String
  taskId : String
  bindingId : String
  state : DeliveryState
  stateHistory : List (DeliveryState × String)
  acceptedAt : String
  executionStartedAt : String
  executedAt : Option String := none
  evidencePersistedAt : Option String := none
  evidence : Option Fields := none
  replayResponse : Option Fields := none
  failedAt : Option String := none
  failureCode : Option String := none
  networkOutcome : Option String := none
  rawTaskInputPersisted : Bool := false
  rawSecretVisible : Bool := false

/-- `records` is a dict under `record_id`. -/
structure Ledger where
  records : List Record
  order : List String

def Ledger.empty : Ledger := ⟨[], []⟩

/-- `records.get(record_id)` -/
def Ledger.get? (ledger : Ledger) (recordId : String) : Option Record :=
  Table.get? Record.recordId ledger.records recordId

/-- The record is changed where it stands. -/
def Ledger.put (ledger : Ledger) (record : Record) : Ledger :=
  { ledger with records := Table.put Record.recordId ledger.records record }

/-- `records.pop(record_id, None)` -/
def Ledger.pop (ledger : Ledger) (recordId : String) : Ledger :=
  { ledger with records := ledger.records.filter fun record => record.recordId ≠ recordId }

/-- The loop of `_trim`, over the order that is left. -/
def trimFrom (ledger : Ledger) : List String → Ledger
  | [] => { ledger with order := [] }
  | oldest :: order =>
    if EVALUATION_DELIVERY_MAX_RECORDS < (oldest :: order).length then
      trimFrom (ledger.pop oldest) order
    else { ledger with order := oldest :: order }

def trim (ledger : Ledger) : Ledger := trimFrom ledger ledger.order

def recordId (env : Platform) (grantId apiKeyId idempotencyKey : String) : String :=
  env.sha256 ("\x00".intercalate [grantId, apiKeyId, idempotencyKey])

def claimRecord (env : Platform) (claim : Claim) (normalizedKey : String) (now : Datetime) :
    Record where
  recordId := recordId env claim.grantId claim.apiKeyId normalizedKey
  idempotencyKeySha256 := env.sha256 normalizedKey
  requestFingerprint := claim.requestFingerprint
  evaluationGrantId := claim.grantId
  apiKeyId := claim.apiKeyId
  taskId := env.lower (strip claim.taskId)
  bindingId := strip claim.bindingId
  state := .executing
  stateHistory := [(.accepted, env.isoformat now), (.executing, env.isoformat now)]
  acceptedAt := env.isoformat now
  executionStartedAt := env.isoformat now

inductive Reply where
  | claimed (record : Record)
  | replay (record : Record) (response : Fields)
  | completed (record : Record)
  | failed

def answerExisting (claim : Claim) (existing : Record) : Except DeliveryFailure Reply := do
  raiseIf (existing.requestFingerprint ≠ claim.requestFingerprint)
    (.idempotencyConflict "evaluation_idempotency_key_payload_mismatch")
  if existing.state = .evidencePersisted then
    let replay ← demand existing.replayResponse
      (.replayBlocked "evaluation_replay_evidence_unavailable")
    pure (.replay existing replay)
  else throw (.replayBlocked ("evaluation_replay_blocked_" ++ existing.state.value))

/-- `claim_evaluation_execution`: the reply, and the ledger that it saves. -/
def claimEvaluationExecution (env : Platform) (claim : Claim) (now : Datetime) (ledger : Ledger) :
    Except DeliveryFailure (Reply × Ledger) := do
  let normalizedKey := strip claim.idempotencyKey
  raiseIf (normalizedKey = "") (.deliveryError "evaluation_idempotency_key_required")
  match ledger.get? (recordId env claim.grantId claim.apiKeyId normalizedKey) with
  | some existing => do
      let reply ← answerExisting claim existing
      pure (reply, ledger)
  | none =>
    let record := claimRecord env claim normalizedKey now
    pure (.claimed record,
      trim ⟨ledger.records ++ [record], ledger.order ++ [record.recordId]⟩)

def Record.complete (record : Record) (evidence replayResponse : Fields) (now : String) : Record :=
  { record with
    state := .evidencePersisted
    stateHistory := record.stateHistory ++ [(.executed, now), (.evidencePersisted, now)]
    executedAt := some now
    evidencePersistedAt := some now
    evidence := some evidence
    replayResponse := some replayResponse
    rawTaskInputPersisted := false
    rawSecretVisible := false }

def completeEvaluationExecution (env : Platform) (recordId : String)
    (evidence replayResponse : Items) (now : Datetime) (ledger : Ledger) :
    Except DeliveryFailure (Reply × Ledger) := do
  validateSafeReplayResponse env replayResponse
  let record ← demand (ledger.get? recordId) (.deliveryError "evaluation_delivery_claim_missing")
  raiseIf (record.state ≠ .executing) (.deliveryError "evaluation_delivery_state_invalid")
  let evidence ← dumpFields true evidence
  let replayResponse ← dumpFields true replayResponse
  let record := record.complete evidence replayResponse (env.isoformat now)
  pure (.completed record, ledger.put record)

/-- `str(failure_code or "evaluation_execution_failed")[:200]` -/
def failureText (failureCode : String) : String :=
  let text := if failureCode = "" then "evaluation_execution_failed" else failureCode
  String.ofList (text.toList.take 200)

def Record.fail (record : Record) (failureCode now : String) : Record :=
  { record with
    state := .failed
    failedAt := some now
    failureCode := some (failureText failureCode)
    networkOutcome := some "unknown"
    stateHistory := record.stateHistory ++ [(.failed, now)] }

def failEvaluationExecution (env : Platform) (recordId failureCode : String) (now : Datetime)
    (ledger : Ledger) : Except DeliveryFailure (Reply × Ledger) :=
  match ledger.get? recordId with
  | none => .ok (.failed, ledger)
  | some record =>
    if record.state = .evidencePersisted then .ok (.failed, ledger)
    else
      let record := record.fail failureCode (env.isoformat now)
      .ok (.failed, ledger.put record)

end File

/-! ## The table -/

namespace Postgres

structure EvaluationRuntimeDelivery where
  recordId : String
  ownerIdSha256 : String
  grantId : String
  apiKeyId : String
  idempotencyKeySha256 : String
  requestFingerprint : String
  taskId : String
  bindingId : String
  state : DeliveryState
  stateHistory : List (DeliveryState × String)
  evidence : Option Fields := none
  replayResponse : Option Fields := none
  acceptedAt : Datetime
  executionStartedAt : Datetime
  executedAt : Option Datetime := none
  evidencePersistedAt : Option Datetime := none
  failedAt : Option Datetime := none
  failureCode : Option String := none
  networkOutcome : Option String := none
  rawTaskInputPersisted : Bool := false
  rawSecretVisible : Bool := false

abbrev Rows : Type := List EvaluationRuntimeDelivery

/-- The columns of `uq_evaluation_runtime_delivery_authority_key`. -/
def EvaluationRuntimeDelivery.authority (row : EvaluationRuntimeDelivery) :
    String × String × String × String :=
  (row.ownerIdSha256, row.grantId, row.apiKeyId, row.idempotencyKeySha256)

/-- The lengths of the columns and the check on the state. -/
@[mk_iff] structure EvaluationRuntimeDelivery.Check (row : EvaluationRuntimeDelivery) :
    Prop where
  recordId : row.recordId.length ≤ 64
  ownerIdSha256 : row.ownerIdSha256.length ≤ 64
  grantId : row.grantId.length ≤ 160
  apiKeyId : row.apiKeyId.length ≤ 160
  idempotencyKeySha256 : row.idempotencyKeySha256.length ≤ 64
  requestFingerprint : row.requestFingerprint.length ≤ 64
  taskId : row.taskId.length ≤ 160
  bindingId : row.bindingId.length ≤ 160
  state : row.state = .executing ∨ row.state = .evidencePersisted ∨ row.state = .failed

instance EvaluationRuntimeDelivery.decidableCheck (row : EvaluationRuntimeDelivery) :
    Decidable row.Check :=
  decidable_of_iff _ row.check_iff.symm

def recordId (env : Platform) (ownerId grantId apiKeyId idempotencyKey : String) : String :=
  env.sha256 ("\x00".intercalate [ownerId, grantId, apiKeyId, idempotencyKey])

/-- The values that a claim inserts. -/
def claimRow (env : Platform) (claim : Claim) (normalizedKey : String) (now : Datetime) :
    EvaluationRuntimeDelivery where
  recordId := recordId env claim.ownerId claim.grantId claim.apiKeyId normalizedKey
  ownerIdSha256 := env.sha256 claim.ownerId
  grantId := claim.grantId
  apiKeyId := claim.apiKeyId
  idempotencyKeySha256 := env.sha256 normalizedKey
  requestFingerprint := claim.requestFingerprint
  taskId := env.lower (strip claim.taskId)
  bindingId := strip claim.bindingId
  state := .executing
  stateHistory := [(.accepted, env.isoformat now), (.executing, env.isoformat now)]
  acceptedAt := now
  executionStartedAt := now

/-- What the callers are shown of a row. -/
structure Receipt where
  recordId : String
  requestFingerprint : Option String
  state : DeliveryState
  evidence : Option Items := none
  replayResponse : Option Items := none
  rawTaskInputPersisted : Bool := false
  rawSecretVisible : Bool := false

inductive Reply where
  | claimed (record : Receipt)
  | replay (record : Receipt) (response : Fields)
  | completed (record : Receipt)
  | failed

def unavailable : DeliveryFailure := .deliveryError "evaluation_delivery_database_unavailable"

/-- The answer from a row that is there. -/
def answerExisting (claim : Claim) (existing : EvaluationRuntimeDelivery) :
    Except DeliveryFailure Reply := do
  raiseIf (existing.requestFingerprint ≠ claim.requestFingerprint)
    (.idempotencyConflict "evaluation_idempotency_key_payload_mismatch")
  raiseIf (existing.state ≠ .evidencePersisted)
    (.replayBlocked ("evaluation_replay_blocked_" ++ existing.state.value))
  let replay ← demand existing.replayResponse
    (.replayBlocked "evaluation_replay_evidence_unavailable")
  pure (.replay
    { recordId := existing.recordId
      requestFingerprint := some existing.requestFingerprint
      state := existing.state
      rawTaskInputPersisted := existing.rawTaskInputPersisted
      rawSecretVisible := existing.rawSecretVisible } replay)

def claimEvaluationExecution (env : Platform) (claim : Claim) (now : Datetime) (rows : Rows) :
    Except DeliveryFailure (Reply × Rows) := do
  let normalizedKey := strip claim.idempotencyKey
  raiseIf (normalizedKey = "") (.deliveryError "evaluation_idempotency_key_required")
  let row := claimRow env claim normalizedKey now
  raiseIf (¬ row.Check) unavailable
  -- `on_conflict_do_nothing` without a target: any unique constraint
  if ∃ existing ∈ rows,
      existing.recordId = row.recordId ∨ existing.authority = row.authority then do
    let existing ← demand (Table.get? EvaluationRuntimeDelivery.recordId rows row.recordId)
      (.deliveryError "evaluation_delivery_claim_conflict_unresolved")
    let reply ← answerExisting claim existing
    pure (reply, rows)
  else
    pure (.claimed
      { recordId := row.recordId
        requestFingerprint := some row.requestFingerprint
        state := .executing }, rows ++ [row])

def completeEvaluationExecution (env : Platform) (recordId : String)
    (evidence replayResponse : Items) (now : Datetime) (rows : Rows) :
    Except DeliveryFailure (Reply × Rows) := do
  validateSafeReplayResponse env replayResponse
  let row ← demand (Table.get? EvaluationRuntimeDelivery.recordId rows recordId)
    (.deliveryError "evaluation_delivery_claim_missing")
  raiseIf (row.state ≠ .executing) (.deliveryError "evaluation_delivery_state_invalid")
  let evidenceFields ← (dumpFields false evidence).mapError fun _ => unavailable
  let replayFields ← (dumpFields false replayResponse).mapError fun _ => unavailable
  let row : EvaluationRuntimeDelivery :=
    { row with
      state := .evidencePersisted
      stateHistory := row.stateHistory ++
        [(.executed, env.isoformat now), (.evidencePersisted, env.isoformat now)]
      evidence := some evidenceFields
      replayResponse := some replayFields
      executedAt := some now
      evidencePersistedAt := some now
      rawTaskInputPersisted := false
      rawSecretVisible := false }
  pure (.completed
    { recordId := recordId
      requestFingerprint := none
      state := .evidencePersisted
      evidence := some evidence
      replayResponse := some replayResponse },
    Table.put EvaluationRuntimeDelivery.recordId rows row)

def failEvaluationExecution (env : Platform) (recordId failureCode : String) (now : Datetime)
    (rows : Rows) : Except DeliveryFailure (Reply × Rows) :=
  match Table.get? EvaluationRuntimeDelivery.recordId rows recordId with
  | none => .ok (.failed, rows)
  | some row =>
    if row.state = .evidencePersisted then .ok (.failed, rows)
    else
      .ok (.failed, Table.put EvaluationRuntimeDelivery.recordId rows
        { row with
          state := .failed
          stateHistory := row.stateHistory ++ [(.failed, env.isoformat now)]
          failedAt := some now
          failureCode := some (File.failureText failureCode)
          networkOutcome := some "unknown" })

end Postgres

/-! ## Calls -/

inductive Request where
  | claim (claim : Claim)
  | complete (ownerId recordId : String) (evidence replayResponse : Items)
  | fail (ownerId recordId failureCode : String)

/-- Whether what a call writes is stored, and whether its caller then learns the answer. -/
inductive Storage where
  | available | unavailable | answerLost

/-- A call at a clock reading. -/
structure Call where
  request : Request
  now : Datetime
  storage : Storage := .available

/-- A claim whose answer is not lost. -/
def Claim.call (now : Datetime) (claim : Claim) : Call := { request := .claim claim, now := now }

/-- How a call on a store ends. -/
def settle {R S : Type} (storage : Storage) (failure : DeliveryFailure) (s : S) :
    Except DeliveryFailure (R × S) → Except DeliveryFailure R × S
  | .error e => (.error e, s)
  | .ok (reply, s') =>
    match storage with
    | .available => (.ok reply, s')
    | .unavailable => (.error failure, s)
    | .answerLost => (.error failure, s')

/-- What a claim stands for: the grant, the key and the idempotency key. -/
abbrev Execution : Type := String × String × String

def Claim.execution (claim : Claim) : Execution :=
  (claim.grantId, claim.apiKeyId, strip claim.idempotencyKey)

/-- The ledgers under the digests of their owners. A file that is missing reads as empty. -/
abbrev Disk : Type := String → File.Ledger

def Request.ownerId : Request → String
  | .claim execution => execution.ownerId
  | .complete ownerId _ _ _ => ownerId
  | .fail ownerId _ _ => ownerId

def File.perform (env : Platform) (now : Datetime) (ledger : Ledger) :
    Request → Except DeliveryFailure (Reply × Ledger)
  | .claim claim => claimEvaluationExecution env claim now ledger
  | .complete _ recordId evidence replayResponse =>
    completeEvaluationExecution env recordId evidence replayResponse now ledger
  | .fail _ recordId failureCode => failEvaluationExecution env recordId failureCode now ledger

def Postgres.perform (env : Platform) (now : Datetime) (rows : Rows) :
    Request → Except DeliveryFailure (Reply × Rows)
  | .claim claim => claimEvaluationExecution env claim now rows
  | .complete _ recordId evidence replayResponse =>
    completeEvaluationExecution env recordId evidence replayResponse now rows
  | .fail _ recordId failureCode => failEvaluationExecution env recordId failureCode now rows

/-- How a call ends on the ledger of its owner. -/
def File.respond (env : Platform) (call : Call) (ledger : Ledger) :
    Except DeliveryFailure Reply × Ledger :=
  settle call.storage .osError ledger (perform env call.now ledger call.request)

def Postgres.respond (env : Platform) (call : Call) (rows : Rows) :
    Except DeliveryFailure Reply × Rows :=
  settle call.storage unavailable rows (perform env call.now rows call.request)

/-- The executions that the ledger files let start. -/
def files (env : Platform) : Granter Call (Except DeliveryFailure File.Reply) Disk Execution where
  step call disk :=
    let path := env.sha256 call.request.ownerId
    let response := File.respond env call (disk path)
    (response.1, Function.update disk path response.2)
  grants call answer :=
    match call.request, answer with
    | .claim claim, .ok (.claimed _) => some claim.execution
    | _, _ => none

/-- The executions that the table lets start. -/
def table (env : Platform) :
    Granter Call (Except DeliveryFailure Postgres.Reply) Postgres.Rows Execution where
  step call rows := Postgres.respond env call rows
  grants call answer :=
    match call.request, answer with
    | .claim claim, .ok (.claimed _) => some claim.execution
    | _, _ => none

end MaestroKernel.Evaluation
