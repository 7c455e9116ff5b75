import MaestroKernel.Library.Interaction
import MaestroKernel.Library.Outbox
import MaestroKernel.Library.Table
import Mathlib.Data.List.Sort

/-! # Dispatchers over an outbox

Dispatchers and operators are clients of one table. Each statement of theirs is a transaction of its
own, and they interleave at the statements; a client that crashes performs no further one. Beside
the table the world keeps the claim ids handed out and, in order, what each client did. -/

namespace MaestroKernel.Delivery

open Interaction Outbox

/-! ## Outbox tables

Both outboxes of the service have the same columns for their dispatchers, and the statements that
claim, finalise and redrive their rows read and write nothing else. Instants are counted in
microseconds. -/

abbrev Uuid : Type := ℕ

/-- The columns of a row; `data` are those that no dispatcher writes. -/
structure OutboxRow (D : Type) where
  id : Uuid
  availableAt : ℤ
  attemptCount : ℕ
  claimId : Option Uuid
  claimedAt : Option ℤ
  deliveredAt : Option ℤ
  deadLetteredAt : Option ℤ
  lastErrorCode : Option String
  createdAt : ℤ
  data : D

/-- The primary key is unique. -/
structure OutboxTable (D : Type) where
  rows : List (OutboxRow D)
  nodup : (rows.map OutboxRow.id).Nodup

/-! ### The statements -/

section Statements

variable {D : Type}

namespace OutboxRow

/-- The `WHERE` of `claim_batch`. -/
def due (now leaseTimeout : ℤ) (row : OutboxRow D) : Bool :=
  row.deliveredAt.isNone && row.deadLetteredAt.isNone && row.availableAt ≤ now &&
    row.claimedAt.all fun claimedAt => claimedAt ≤ now - leaseTimeout

/-- `ORDER BY available_at, created_at`; `tie` is how the database orders what this leaves open. -/
def before (tie : Uuid → ℕ) (a b : OutboxRow D) : Prop :=
  a.availableAt < b.availableAt ∨ a.availableAt = b.availableAt ∧
    (a.createdAt < b.createdAt ∨ a.createdAt = b.createdAt ∧ tie a.id ≤ tie b.id)

instance decidableBefore (tie : Uuid → ℕ) : DecidableRel (before (D := D) tie) :=
  fun _ _ => inferInstanceAs (Decidable (_ ∨ _))

/-- What `claim_batch` makes of a row. -/
def claim (now : ℤ) (claimId : Uuid) (row : OutboxRow D) : OutboxRow D :=
  { row with claimId := some claimId, claimedAt := some now, attemptCount := row.attemptCount + 1 }

/-- The `WHERE` of `mark_delivered` and `mark_failed`. -/
def heldUnder (outboxId claimId : Uuid) (row : OutboxRow D) : Bool :=
  row.id = outboxId && row.claimId = some claimId && row.deliveredAt.isNone &&
    row.deadLetteredAt.isNone

/-- The `WHERE` of `redrive_dead_letter`. -/
def redrivable (outboxId : Uuid) (row : OutboxRow D) : Bool :=
  row.id = outboxId && row.deliveredAt.isNone && row.deadLetteredAt.isSome &&
    row.claimId.isNone && row.claimedAt.isNone

def delivered (deliveredAt : ℤ) (row : OutboxRow D) : OutboxRow D :=
  { row with
    deliveredAt := some deliveredAt, claimId := none, claimedAt := none, lastErrorCode := none }

def failed (availableAt : ℤ) (errorCode : String) (deadLetteredAt : Option ℤ)
    (row : OutboxRow D) : OutboxRow D :=
  { row with
    availableAt := availableAt, claimId := none, claimedAt := none,
    lastErrorCode := some errorCode, deadLetteredAt := deadLetteredAt }

def redriven (availableAt : ℤ) (row : OutboxRow D) : OutboxRow D :=
  { row with
    availableAt := availableAt, deadLetteredAt := none, claimId := none, claimedAt := none,
    lastErrorCode := none }

end OutboxRow

namespace OutboxTable

/-- `UPDATE … WHERE p`, with the number of rows that it changes. -/
def update (table : OutboxTable D) (p : OutboxRow D → Bool) (f : OutboxRow D → OutboxRow D)
    (hf : ∀ row, (f row).id = row.id) : ℕ × OutboxTable D :=
  ((table.rows.filter p).length,
    { rows := table.rows.map fun row => if p row then f row else row
      nodup := by
        rw [Table.map_map_of_agree fun row _ => by split <;> simp [hf]]
        exact table.nodup })

/-- The `SELECT` of `claim_batch`: rows that another transaction has locked are skipped. -/
def select (table : OutboxTable D) (now leaseTimeout : ℤ) (batchSize : ℕ) (locked : Uuid → Bool)
    (tie : Uuid → ℕ) : List (OutboxRow D) :=
  let due := table.rows.filter fun row => row.due now leaseTimeout && !locked row.id
  (due.insertionSort (OutboxRow.before tie)).take batchSize

/-- The claim ids that the selected rows get, in their order. -/
def assign (selected : List (OutboxRow D)) (uuids : List Uuid) : List (Uuid × Uuid) :=
  (selected.map OutboxRow.id).zip uuids

def claimRow (now : ℤ) (assigned : List (Uuid × Uuid)) (row : OutboxRow D) : OutboxRow D :=
  match Table.get? Prod.fst assigned row.id with
  | some (_, claimId) => row.claim now claimId
  | none => row

theorem claimRow_id (now : ℤ) (assigned : List (Uuid × Uuid)) (row : OutboxRow D) :
    (claimRow now assigned row).id = row.id := by
  unfold claimRow
  split <;> rfl

def claim (table : OutboxTable D) (now : ℤ) (assigned : List (Uuid × Uuid)) : OutboxTable D where
  rows := table.rows.map (claimRow now assigned)
  nodup := by
    rw [Table.map_map_of_agree fun row _ => claimRow_id now assigned row]
    exact table.nodup

end OutboxTable

end Statements

/-! ## Clients -/

/-- An action on a row, or a finalisation that found no row under its claim id. -/
inductive Event where
  | acted (action : Action Uuid)
  | stale (claimId : Uuid)

structure Note where
  client : ℕ
  row : Uuid
  event : Event

def Note.action? (row : Uuid) (note : Note) : Option (Action Uuid) :=
  match note.event with
  | .acted action => if note.row = row then some action else none
  | .stale _ => none

/-- What was done to a row, in order. -/
def history (log : List Note) (row : Uuid) : List (Action Uuid) := log.filterMap (Note.action? row)

/-- What a client did, in order. -/
def own (t : ℕ) (log : List Note) : List Note := log.filter fun note => note.client = t

structure World (D : Type) where
  table : OutboxTable D
  issued : List Uuid
  log : List Note

namespace World

variable {D : Type}

/-- The claim ids in the table are known, and nothing has been done yet. -/
def start (table : OutboxTable D) : World D :=
  ⟨table, table.rows.filterMap OutboxRow.claimId, []⟩

/-- `claim_batch`, where `uuid4` yields `uuids`, none of them issued before. -/
def claim (t : ℕ) (now leaseTimeout : ℤ) (batchSize : ℕ) (locked : Uuid → Bool) (tie : Uuid → ℕ)
    (uuids : List Uuid) (w : World D) : Option (List (OutboxRow D) × World D) :=
  let selected := w.table.select now leaseTimeout batchSize locked tie
  let claimIds := uuids.take selected.length
  if claimIds.length = selected.length ∧ claimIds.Nodup ∧ ∀ id ∈ claimIds, id ∉ w.issued then
    let assigned := OutboxTable.assign selected claimIds
    some (selected.map (OutboxTable.claimRow now assigned),
      { table := w.table.claim now assigned
        issued := w.issued ++ claimIds
        log := w.log ++ assigned.map fun a => ⟨t, a.1, .acted (.claimed a.2)⟩ })
  else none

/-- An update of the row that is held under the claim id; `result.rowcount == 1` is returned. -/
def settle (t : ℕ) (outboxId claimId : Uuid) (f : OutboxRow D → OutboxRow D)
    (hf : ∀ row, (f row).id = row.id) (action : Action Uuid) (w : World D) : Bool × World D :=
  let (rowcount, table) := w.table.update (OutboxRow.heldUnder outboxId claimId) f hf
  (rowcount = 1,
    { w with
      table := table
      log := w.log ++ [⟨t, outboxId, if rowcount = 1 then .acted action else .stale claimId⟩] })

def markDelivered (t : ℕ) (outboxId claimId : Uuid) (deliveredAt : ℤ) (w : World D) :
    Bool × World D :=
  w.settle t outboxId claimId (OutboxRow.delivered deliveredAt) (fun _ => rfl)
    (.finalised claimId .delivered)

def markFailed (t : ℕ) (outboxId claimId : Uuid) (availableAt : ℤ) (errorCode : String)
    (deadLetteredAt : Option ℤ) (w : World D) : Bool × World D :=
  w.settle t outboxId claimId (OutboxRow.failed availableAt errorCode deadLetteredAt)
    (fun _ => rfl)
    (if deadLetteredAt.isSome then .finalised claimId .dead else .rescheduled claimId)

/-- `redrive_dead_letter`: the availability and the attempts of the row that it opens again. -/
def redriveDeadLetter (t : ℕ) (outboxId : Uuid) (availableAt : ℤ) (w : World D) :
    Option (ℤ × ℕ) × World D :=
  match w.table.rows.find? (OutboxRow.redrivable outboxId) with
  | none => (none, w)
  | some row =>
    (some (availableAt, row.attemptCount),
      { w with
        table := (w.table.update (OutboxRow.redrivable outboxId) (OutboxRow.redriven availableAt)
          fun _ => rfl).2
        log := w.log ++ [⟨t, outboxId, .acted .redriven⟩] })

end World

/-- What a client asks: the clock, the repository, or `q` of something outside. -/
inductive Command (Q : Type) where
  | clock
  | ask (q : Q)
  | claimBatch (now leaseTimeout : ℤ) (batchSize : ℕ)
  | markDelivered (outboxId claimId : Uuid) (deliveredAt : ℤ)
  | markFailed (outboxId claimId : Uuid) (availableAt : ℤ) (errorCode : String)
      (deadLetteredAt : Option ℤ)
  | redriveDeadLetter (outboxId : Uuid) (availableAt : ℤ)

/-- A claim comes with the joined columns `J` of its row. -/
def Reply (D J : Type) {Q : Type} (A : Q → Type) : Command Q → Type
  | .clock => ℤ
  | .ask q => A q
  | .claimBatch .. => List (OutboxRow D × J)
  | .markDelivered .. => Bool
  | .markFailed .. => Bool
  | .redriveDeadLetter .. => Option (ℤ × ℕ)

/-- What no client chooses. -/
structure Chance (J : Type) {Q : Type} (A : Q → Type) where
  now : ℤ
  answer : (q : Q) → A q
  joined : Uuid → J
  locked : Uuid → Bool := fun _ => false
  tie : Uuid → ℕ := id
  uuids : List Uuid := []

section Machine

variable {D J Q : Type} {A : Q → Type}

def exec (e : Chance J A) (t : ℕ) (c : Command Q) (w : World D) :
    Option (Reply D J A c × World D) :=
  match c with
  | .clock => some (e.now, w)
  | .ask q => some (e.answer q, w)
  | .claimBatch now leaseTimeout batchSize =>
    (w.claim t now leaseTimeout batchSize e.locked e.tie e.uuids).map fun (rows, w) =>
      (rows.map fun row => (row, e.joined row.id), w)
  | .markDelivered outboxId claimId deliveredAt =>
    some (w.markDelivered t outboxId claimId deliveredAt)
  | .markFailed outboxId claimId availableAt errorCode deadLetteredAt =>
    some (w.markFailed t outboxId claimId availableAt errorCode deadLetteredAt)
  | .redriveDeadLetter outboxId availableAt => some (w.redriveDeadLetter t outboxId availableAt)

abbrev Client (D J : Type) {Q : Type} (A : Q → Type) (α : Type) : Type :=
  Prog (Command Q) (Reply D J A) α

def outboxMachine {ι α : Type} (code : ι → Client D J A α) :
    Machine ι (Command Q) (Reply D J A) α (Chance J A) (World D) :=
  ⟨exec, code⟩

end Machine

end MaestroKernel.Delivery
