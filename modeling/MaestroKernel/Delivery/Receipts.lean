import MaestroKernel.Delivery.Attempts

/-! # What a dispatcher of notifications counts

`CommercialNotificationDispatcher` claims a batch of `admin_market_notification_outbox`, hands each
notification to an adapter and finalises its row under the claim id. It counts a finalisation that it
has asked for, whether or not its claim was outdated by then. So its counts are right exactly when
none of its claims was, and nothing but the lease bounds the claims of a row. -/

namespace MaestroKernel.Delivery.Notification

open Interaction Outbox

/-! ## The code -/

/-- The columns of `admin_market_notification_outbox` that no dispatcher writes. -/
structure CommercialNotification where
  eventRef : String
  eventType : String
  aggregateType : String
  aggregateRef : String
  recipientCustomerRef : String
  payload : List (String × String)

structure CommercialNotificationClaim where
  outboxId : Uuid
  claimId : Uuid
  event : CommercialNotification
  attemptCount : ℕ

/-- What the dispatcher asks of its adapter: whether `deliver` returns. -/
inductive Question where
  | deliver (claim : CommercialNotificationClaim)

def Answer : Question → Type
  | .deliver _ => Bool

structure CommercialNotificationDispatchResult where
  claimed : ℕ
  delivered : ℕ
  retryScheduled : ℕ
  deadLettered : ℕ
deriving DecidableEq

abbrev Notifier (α : Type) : Type := Client CommercialNotification Unit Answer α

def second : ℤ := 1000000

def retryDelay (attemptCount : ℕ) : ℤ := min 3600 (30 * 2 ^ (attemptCount - 1)) * second

/-- The claims of a batch; a claimed row has a claim id. -/
def claimsOf (rows : List (OutboxRow CommercialNotification × Unit)) :
    List CommercialNotificationClaim :=
  rows.filterMap fun (row, _) => row.claimId.map fun claimId =>
    ⟨row.id, claimId, row.data, row.attemptCount⟩

def clock : Notifier ℤ := .perform Command.clock

def claimBatch (now leaseTimeout : ℤ) (batchSize : ℕ) :
    Notifier (List CommercialNotificationClaim) := do
  let rows ← Prog.perform (Command.claimBatch now leaseTimeout batchSize)
  let claims : List (OutboxRow CommercialNotification × Unit) := rows
  pure (claimsOf claims)

def deliver (claim : CommercialNotificationClaim) : Notifier Bool :=
  .perform (Command.ask (Question.deliver claim))

def markDelivered (outboxId claimId : Uuid) (deliveredAt : ℤ) : Notifier Bool :=
  .perform (Command.markDelivered outboxId claimId deliveredAt)

def markFailed (outboxId claimId : Uuid) (availableAt : ℤ) (errorCode : String)
    (deadLetteredAt : Option ℤ) : Notifier Bool :=
  .perform (Command.markFailed outboxId claimId availableAt errorCode deadLetteredAt)

/-- `max_attempts` is any integer. -/
structure CommercialNotificationDispatcher where
  maxAttempts : ℤ := 5

namespace CommercialNotificationDispatcher

/-- The body of the loop of `dispatch_once`. -/
def dispatch (d : CommercialNotificationDispatcher) (now : ℤ)
    (counts : CommercialNotificationDispatchResult) (claim : CommercialNotificationClaim) :
    Notifier CommercialNotificationDispatchResult := do
  if ← deliver claim then
    let _ ← markDelivered claim.outboxId claim.claimId now
    pure { counts with delivered := counts.delivered + 1 }
  else
    let isDead := decide ((claim.attemptCount : ℤ) ≥ d.maxAttempts)
    let _ ← markFailed claim.outboxId claim.claimId (now + retryDelay claim.attemptCount)
      "notification_delivery_failed" (if isDead then some now else none)
    pure { counts with
      deadLettered := counts.deadLettered + isDead.toNat
      retryScheduled := counts.retryScheduled + (!isDead).toNat }

/-- `dispatch_once`, which raises on an invalid batch size. -/
def dispatchOnce (d : CommercialNotificationDispatcher) (batchSize : ℤ) :
    Notifier (Except String CommercialNotificationDispatchResult) := do
  let now ← clock
  if batchSize < 1 ∨ batchSize > 500 then pure (.error "Notification batch_size is invalid.")
  else
    let claims ← claimBatch now (300 * second) batchSize.toNat
    let result ← claims.foldlM (d.dispatch now) ⟨claims.length, 0, 0, 0⟩
    pure (.ok result)

end CommercialNotificationDispatcher

/-- One call of `dispatch_once`. -/
structure Op where
  dispatcher : CommercialNotificationDispatcher
  batchSize : ℤ

abbrev Outcome : Type := Except String CommercialNotificationDispatchResult

def code (op : Op) : Notifier Outcome := op.dispatcher.dispatchOnce op.batchSize

def machine : Machine Op (Command Question) (Reply CommercialNotification Unit Answer) Outcome
    (Chance Unit Answer) (World CommercialNotification) :=
  outboxMachine code

/-! ## What the dispatcher counts -/

namespace CommercialNotificationDispatchResult

/-- The counts that the notes of a dispatcher bear out. -/
def ofTally (counts : Tally) : CommercialNotificationDispatchResult :=
  ⟨counts.claimed, counts.delivered, counts.rescheduled, counts.dead⟩

/-- The claims that are counted as finalised. -/
def finished (r : CommercialNotificationDispatchResult) : ℕ :=
  r.delivered + r.retryScheduled + r.deadLettered

/-- The counts are those of the notes but for the outdated claims, which are counted as well. -/
structure Counts (counts : Tally) (r : CommercialNotificationDispatchResult) : Prop where
  claimed : r.claimed = counts.claimed
  finished : r.finished = counts.delivered + counts.rescheduled + counts.dead + counts.stale
  exact_of_current : counts.stale = 0 → r = ofTally counts

theorem Counts.exact_iff {counts : Tally} {r : CommercialNotificationDispatchResult}
    (h : Counts counts r) : r = ofTally counts ↔ counts.stale = 0 := by
  constructor
  · intro heq
    have hfinished := h.finished
    rw [heq] at hfinished
    simp only [CommercialNotificationDispatchResult.finished, ofTally] at hfinished
    omega
  · exact h.exact_of_current

end CommercialNotificationDispatchResult

open CommercialNotificationDispatchResult (Counts finished)

/-- A dispatcher reschedules below its maximum, and nobody redrives. -/
def licence : Licence Op where
  reschedule := fun op attempts => (attempts : ℤ) < op.dispatcher.maxAttempts
  redrive := fun _ => False

/-- A batch ends with every claim of it counted; an invalid one ends before anything is done. -/
def post : Op → Outcome → List Note → Prop
  | _, .ok r, notes => r.Counts (tally notes) ∧ r.claimed = r.finished
  | _, .error _, notes => notes = []

namespace CommercialNotificationDispatcher

variable {op : Op} {t : ℕ} {notes : List Note}
  {claims : List (OutboxRow CommercialNotification)} {claim : CommercialNotificationClaim}
  {counts : CommercialNotificationDispatchResult}

def Holds (claims : List (OutboxRow CommercialNotification)) (claim : CommercialNotificationClaim) :
    Prop :=
  ∃ row ∈ claims, row.claimId = some claim.claimId ∧ row.attemptCount = claim.attemptCount

def Counted (counts : CommercialNotificationDispatchResult)
    (claims : List (OutboxRow CommercialNotification))
    (counts' : CommercialNotificationDispatchResult) (notes' : List Note)
    (claims' : List (OutboxRow CommercialNotification)) : Prop :=
  claims' = claims ∧ counts'.Counts (tally notes') ∧ counts'.claimed = counts.claimed ∧
    counts'.finished = counts.finished + 1

/-! One statement each. -/

theorem clock_meets : Meets code licence post t op notes claims clock
    fun _ notes' claims' => notes' = notes ∧ claims' = claims :=
  Meets.clock fun _ => Meets.done ⟨rfl, rfl⟩

theorem deliver_meets : Meets code licence post t op notes claims (deliver claim)
    fun _ notes' claims' => notes' = notes ∧ claims' = claims :=
  Meets.ask fun _ => Meets.done ⟨rfl, rfl⟩

theorem markDelivered_meets (outboxId claimId : Uuid) (deliveredAt : ℤ) :
    Meets code licence post t op notes claims (markDelivered outboxId claimId deliveredAt)
      fun done notes' claims' =>
        notes' = notes ++ [World.settled t outboxId claimId (.finalised claimId .delivered) done] ∧
          claims' = claims :=
  Meets.markDelivered fun _ => Meets.done ⟨rfl, rfl⟩

theorem markFailed_meets (outboxId claimId : Uuid) (availableAt : ℤ) (errorCode : String)
    (deadLetteredAt : Option ℤ) (hlimit : deadLetteredAt = none → ∃ row ∈ claims,
      row.claimId = some claimId ∧ (row.attemptCount : ℤ) < op.dispatcher.maxAttempts) :
    Meets code licence post t op notes claims
      (markFailed outboxId claimId availableAt errorCode deadLetteredAt) fun done notes' claims' =>
        notes' = notes ++
          [World.settled t outboxId claimId (World.failure claimId deadLetteredAt) done] ∧
        claims' = claims :=
  Meets.markFailed hlimit fun _ => Meets.done ⟨rfl, rfl⟩

/-! Their programs. -/

theorem counts_delivered {outboxId claimId : Uuid} (done : Bool) (h : counts.Counts (tally notes)) :
    Counts (tally (notes ++
      [World.settled t outboxId claimId (.finalised claimId .delivered) done]))
      { counts with delivered := counts.delivered + 1 } := by
  have hfinished := h.finished
  simp only [finished] at hfinished
  cases done with
  | false =>
    rw [tally_stale]
    refine ⟨h.claimed, ?_, by simp⟩
    simp only [finished]
    omega
  | true =>
    rw [tally_delivered]
    refine ⟨h.claimed, ?_, ?_⟩
    · simp only [finished]
      omega
    · intro hcurrent
      rw [h.exact_of_current hcurrent]
      rfl

theorem counts_failed {outboxId claimId : Uuid} {now : ℤ} (isDead done : Bool)
    (h : counts.Counts (tally notes)) :
    Counts (tally (notes ++ [World.settled t outboxId claimId
      (World.failure claimId (if isDead then some now else none)) done]))
      { counts with
        deadLettered := counts.deadLettered + isDead.toNat
        retryScheduled := counts.retryScheduled + (!isDead).toNat } := by
  have hfinished := h.finished
  simp only [finished] at hfinished
  cases done with
  | false =>
    rw [tally_stale]
    refine ⟨h.claimed, ?_, by simp⟩
    cases isDead <;> simp only [finished, Bool.toNat_false, Bool.toNat_true, Bool.not_false,
      Bool.not_true] <;> omega
  | true =>
    rw [tally_failure]
    cases isDead with
    | false =>
      refine ⟨h.claimed, ?_, ?_⟩
      · simp only [finished, Bool.toNat_false, Bool.not_false, Bool.toNat_true]
        simp
        omega
      · intro hcurrent
        rw [h.exact_of_current hcurrent]
        rfl
    | true =>
      refine ⟨h.claimed, ?_, ?_⟩
      · simp only [finished, Bool.toNat_true, Bool.not_true, Bool.toNat_false]
        simp
        omega
      · intro hcurrent
        rw [h.exact_of_current hcurrent]
        rfl

theorem dispatch_meets (now : ℤ) (hheld : Holds claims claim) (hcounts : counts.Counts (tally notes)) :
    Meets code licence post t op notes claims (op.dispatcher.dispatch now counts claim)
      (Counted counts claims) := by
  unfold dispatch
  apply Meets.bind deliver_meets
  rintro sent notes claims ⟨rfl, rfl⟩
  cases sent with
  | true =>
    apply Meets.bind (markDelivered_meets _ _ _)
    rintro done _ _ ⟨rfl, rfl⟩
    apply Meets.done
    refine ⟨rfl, counts_delivered done hcounts, rfl, ?_⟩
    simp only [finished]
    omega
  | false =>
    generalize hdead : decide ((claim.attemptCount : ℤ) ≥ op.dispatcher.maxAttempts) = isDead
    have hlimit : (if isDead then some now else none) = none → ∃ row ∈ claims,
        row.claimId = some claim.claimId ∧
          (row.attemptCount : ℤ) < op.dispatcher.maxAttempts := by
      intro halive
      obtain ⟨row, hrow, hid, hattempts⟩ := hheld
      refine ⟨row, hrow, hid, ?_⟩
      cases isDead with
      | true => cases halive
      | false =>
        rw [hattempts]
        simpa using hdead
    apply Meets.bind (markFailed_meets _ _ _ _ _ hlimit)
    rintro done _ _ ⟨rfl, rfl⟩
    apply Meets.done
    refine ⟨rfl, counts_failed isDead done hcounts, rfl, ?_⟩
    cases isDead <;> simp only [finished, Bool.toNat_false, Bool.toNat_true, Bool.not_false,
      Bool.not_true] <;> omega

theorem loop_meets (now : ℤ) (batch : List CommercialNotificationClaim)
    (hheld : ∀ claim ∈ batch, Holds claims claim) (hcounts : counts.Counts (tally notes)) :
    Meets code licence post t op notes claims (batch.foldlM (op.dispatcher.dispatch now) counts)
      fun counts' notes' _ => counts'.Counts (tally notes') ∧
        counts'.claimed = counts.claimed ∧ counts'.finished = counts.finished + batch.length := by
  induction batch generalizing counts notes with
  | nil => exact Meets.done ⟨hcounts, rfl, rfl⟩
  | cons claim batch ih =>
    rw [List.foldlM_cons]
    apply Meets.bind (dispatch_meets now (hheld claim List.mem_cons_self) hcounts)
    rintro counts' notes' claims' ⟨rfl, hcounts', hclaimed, hfinished⟩
    have hrest := ih (fun claim hmem => hheld claim (List.mem_cons_of_mem _ hmem)) hcounts'
    apply hrest.mono
    rintro final notes'' _ ⟨hfinal, hclaimed', hfinished'⟩
    refine ⟨hfinal, hclaimed'.trans hclaimed, ?_⟩
    rw [hfinished', hfinished, List.length_cons]
    omega

theorem claimsOf_spec {rows : List (OutboxRow CommercialNotification × Unit)}
    (hsome : ∀ row ∈ rows, row.1.claimId.isSome) :
    (claimsOf rows).length = rows.length ∧
      ∀ claim ∈ claimsOf rows, Holds (rows.map Prod.fst) claim := by
  constructor
  · apply List.filterMap_length_eq_length.mpr
    intro row hrow
    simpa using hsome row hrow
  · intro claim hclaim
    obtain ⟨row, hrow, hmap⟩ := List.mem_filterMap.mp hclaim
    obtain ⟨claimId, hid, rfl⟩ := Option.map_eq_some_iff.mp hmap
    exact ⟨row.1, List.mem_map_of_mem hrow, hid, rfl⟩

theorem claimBatch_meets (now leaseTimeout : ℤ) (batchSize : ℕ) :
    Meets code licence post t op [] [] (claimBatch now leaseTimeout batchSize)
      fun batch notes' claims' => tally notes' = ⟨batch.length, 0, 0, 0, 0⟩ ∧
        ∀ claim ∈ batch, Holds claims' claim := by
  apply Meets.claimBatch
  intro rows added hlength hadded hsome
  obtain ⟨hbatch, hheld⟩ := claimsOf_spec hsome
  apply Meets.done
  refine ⟨?_, hheld⟩
  rw [List.nil_append, tally_claims hadded, hlength, hbatch]

theorem dispatchOnce_meets (batchSize : ℤ) :
    Meets code licence post t op [] [] (op.dispatcher.dispatchOnce batchSize)
      fun v notes _ => post op v notes := by
  unfold dispatchOnce
  apply Meets.bind clock_meets
  rintro now notes claims ⟨rfl, rfl⟩
  by_cases hinvalid : batchSize < 1 ∨ batchSize > 500
  · rw [if_pos hinvalid]
    exact Meets.done rfl
  · rw [if_neg hinvalid]
    apply Meets.bind (claimBatch_meets _ _ _)
    rintro batch notes claims ⟨htally, hheld⟩
    have hstart : Counts (tally notes) ⟨batch.length, 0, 0, 0⟩ := by
      rw [htally]
      exact ⟨rfl, rfl, fun _ => rfl⟩
    apply Meets.bind (loop_meets now batch hheld hstart)
    rintro final notes' _ ⟨hfinal, hclaimed, hfinished⟩
    apply Meets.done
    refine ⟨hfinal, ?_⟩
    rw [hclaimed, hfinished]
    simp [finished]

end CommercialNotificationDispatcher

theorem code_implemented : (contract licence post).Implemented machine :=
  implemented_of_meets fun _ op =>
    CommercialNotificationDispatcher.dispatchOnce_meets op.batchSize

/-! ## Every run -/

abbrev Notifications : Type :=
  Config Op (Command Question) (Reply CommercialNotification Unit Answer) Outcome
    (World CommercialNotification)

abbrev Step : Type := Interaction.Event Op (Chance Unit Answer)

/-- A finalisation comes while its claim is current. -/
def Current (c : Command Question) (w : World CommercialNotification) : Prop :=
  ∀ outboxId claimId, (∃ deliveredAt, c = .markDelivered outboxId claimId deliveredAt) ∨
      (∃ availableAt errorCode deadLetteredAt,
        c = .markFailed outboxId claimId availableAt errorCode deadLetteredAt) →
    ∃ row ∈ w.table.rows, row.heldUnder outboxId claimId = true

/-- All dispatchers have one maximum, a batch takes over rows below it only, and a claim is
finalised while it is current. -/
def Within (max : ℕ) (ev : Step) (cfg : Notifications) : Prop :=
  match ev with
  | .start _ op => op.dispatcher.maxAttempts = max
  | .run t e => ∀ op c k, cfg.threads t = some (op, .call c k) →
      TakesOver max e c cfg.shared ∧ Current c cfg.shared

/-- What is done to the rows ends with their finalisation, and the counts are those of what was
done. -/
structure Accounted (max : ℕ) (table₀ : OutboxTable CommercialNotification) (cfg : Notifications) :
    Prop where
  orderly : cfg.shared.Orderly table₀
  finalised_last : ∀ row ∈ cfg.shared.table.rows, ∀ before after claimId outcome,
    history cfg.shared.log row.id = before ++ .finalised claimId outcome :: after → after = []
  attempts : ∀ row ∈ cfg.shared.table.rows, (claims (history cfg.shared.log row.id)).length ≤ max
  counts : ∀ t op r, cfg.threads t = some (op, .done (.ok r)) →
    r = .ofTally (tally (own t cfg.shared.log)) ∧
      r.claimed = r.delivered + r.retryScheduled + r.deadLettered

/-- Nothing is redriven, and no claim is outdated. -/
def Plain (log : List Note) : Prop :=
  ∀ note ∈ log, note.event ≠ .acted .redriven ∧ note.event.isStale = false

variable {table₀ : OutboxTable CommercialNotification} {cfg : Notifications} {max : ℕ}

theorem Plain.append {log : List Note} {note : Note} (h : Plain log)
    (hnote : note.event ≠ .acted .redriven ∧ note.event.isStale = false) :
    Plain (log ++ [note]) := by
  intro other hmem
  rcases List.mem_append.mp hmem with hold | hnew
  · exact h other hold
  · rw [List.mem_singleton.mp hnew]
    exact hnote

theorem Plain.not_redriven {log : List Note} (h : Plain log) (row : Uuid) :
    .redriven ∉ history log row := by
  intro hmem
  obtain ⟨note, hnote, haction⟩ := List.mem_filterMap.mp hmem
  have hplain := (h note hnote).1
  cases hevent : note.event with
  | stale claimId => simp [Note.action?, hevent] at haction
  | acted action =>
    simp only [Note.action?, hevent, Option.ite_none_right_eq_some, Option.some.injEq] at haction
    rw [haction.2] at hevent
    exact hplain hevent

theorem Plain.stale_eq_zero {log : List Note} (h : Plain log) (t : ℕ) :
    (tally (own t log)).stale = 0 := by
  apply List.countP_eq_zero.mpr
  intro note hmem
  simp [(h note (List.mem_filter.mp hmem).1).2]

/-- A statement of a dispatcher leaves the log plain as long as its claim is current. -/
theorem exec_plain {e : Chance Unit Answer} {t : ℕ} {c : Command Question}
    {w w' : World CommercialNotification} {r : Reply CommercialNotification Unit Answer c}
    (h : exec e t c w = some (r, w')) (hcurrent : Current c w)
    (hkept : ∀ outboxId availableAt, c ≠ .redriveDeadLetter outboxId availableAt)
    (hplain : Plain w.log) : Plain w'.log := by
  cases c with
  | clock =>
    cases h
    exact hplain
  | ask q =>
    cases h
    exact hplain
  | claimBatch now leaseTimeout batchSize =>
    obtain ⟨⟨rows, after⟩, hrows, heq⟩ := Option.map_eq_some_iff.mp h
    cases heq
    obtain ⟨assigned, _, _, _, _, rfl⟩ := World.claim_cases hrows
    intro note hmem
    rcases List.mem_append.mp hmem with hold | hnew
    · exact hplain note hold
    · obtain ⟨a, _, rfl⟩ := List.mem_map.mp hnew
      exact ⟨by simp, rfl⟩
  | markDelivered outboxId claimId deliveredAt =>
    obtain ⟨rfl, rfl⟩ := Prod.ext_iff.mp (Option.some.inj h)
    obtain ⟨f, hadvance⟩ := World.markDelivered_advance (w := w) (t := t) outboxId claimId
      deliveredAt
    have hdone : (w.markDelivered t outboxId claimId deliveredAt).1 = true :=
      World.settle_done_iff.mpr (hcurrent outboxId claimId (.inl ⟨deliveredAt, rfl⟩))
    rw [hadvance.log, hdone]
    exact hplain.append ⟨by simp [World.settled], rfl⟩
  | markFailed outboxId claimId availableAt errorCode deadLetteredAt =>
    obtain ⟨rfl, rfl⟩ := Prod.ext_iff.mp (Option.some.inj h)
    obtain ⟨f, hadvance⟩ := World.markFailed_advance (w := w) (t := t) outboxId claimId
      availableAt errorCode deadLetteredAt
    have hdone : (w.markFailed t outboxId claimId availableAt errorCode deadLetteredAt).1 = true :=
      World.settle_done_iff.mpr
        (hcurrent outboxId claimId (.inr ⟨availableAt, errorCode, deadLetteredAt, rfl⟩))
    rw [hadvance.log, hdone]
    refine hplain.append ⟨?_, ?_⟩
    · cases deadLetteredAt <;> simp [World.settled, World.failure]
    · rfl
  | redriveDeadLetter outboxId availableAt => exact absurd rfl (hkept outboxId availableAt)

section Runs

variable {ok : Step → Notifications → Prop}

theorem safe_reaches (h : machine.Reaches ok (Machine.init (World.start table₀)) cfg) :
    cfg.Safe machine (contract licence post) :=
  (Config.safe_init _ (World.start_known table₀) fun _ => rfl).reaches contract_sound
    code_implemented h

/-- The counts of a batch are right exactly when none of its claims was outdated. -/
theorem counts_iff (h : machine.Reaches ok (Machine.init (World.start table₀)) cfg) {t : ℕ}
    {op : Op} {r : CommercialNotificationDispatchResult}
    (hthread : cfg.threads t = some (op, .done (.ok r))) :
    r.claimed = r.finished ∧ (r = .ofTally (tally (own t cfg.shared.log)) ↔
      (tally (own t cfg.shared.log)).stale = 0) := by
  have hpost := (safe_reaches h).post contract_sound hthread
  exact ⟨hpost.2, hpost.1.exact_iff⟩

theorem allowed_of_next {t : ℕ} {e : Chance Unit Answer} {op : Op} {c : Command Question}
    {k : Reply CommercialNotification Unit Answer c → Notifier Outcome} {next : Notifications}
    (h : machine.Reaches ok (Machine.init (World.start table₀)) cfg)
    (hthread : cfg.threads t = some (op, .call c k)) (hnext : machine.next (.run t e) cfg = some next) :
    Allowed licence op c cfg.shared := by
  obtain ⟨op', c', k', hthread', _, _, _, hallowed⟩ := (safe_reaches h).guar contract_sound hnext
  obtain ⟨rfl, hcall⟩ := Prod.mk.inj (Option.some.inj (hthread.symm.trans hthread'))
  cases hcall
  exact hallowed

end Runs

theorem plain_reaches (h : machine.Reaches (Within max) (Machine.init (World.start table₀)) cfg) :
    Plain cfg.shared.log := by
  induction h with
  | refl => exact fun _ hmem => absurd hmem List.not_mem_nil
  | @tail b c ev hreaches hok hnext ih =>
    cases ev with
    | start t op =>
      rw [(Machine.next_start hnext).2.1]
      exact ih
    | run t e =>
      obtain ⟨op, command, k, r, hthread, hexec, _⟩ := Machine.next_run hnext
      have hallowed := allowed_of_next hreaches hthread hnext
      exact exec_plain hexec (hok op command k hthread).2 hallowed.redrive ih

theorem keepsBelow_reaches
    (h : machine.Reaches (Within max) (Machine.init (World.start table₀)) cfg) :
    machine.Reaches (KeepsBelow max) (Machine.init (World.start table₀)) cfg := by
  induction h with
  | refl => exact .refl _
  | @tail b c ev hreaches hok hnext ih =>
    refine ih.tail ev ?_ hnext
    rintro t e op command k rfl hthread
    refine ⟨(hok op command k hthread).1, ?_⟩
    intro outboxId claimId availableAt errorCode heq row hrow hheld
    have hallowed := allowed_of_next hreaches hthread hnext
    have hlimit := hallowed.reschedule outboxId claimId availableAt errorCode heq row hrow hheld
    have hstarted := hreaches.started
      (P := fun op => op.dispatcher.maxAttempts = (max : ℤ)) (fun _ _ _ hstart => hstart) hthread
    have hbelow : (row.attemptCount : ℤ) < op.dispatcher.maxAttempts := hlimit
    rw [hstarted] at hbelow
    exact Int.ofNat_lt.mp hbelow

/-- As long as no claim is finalised after it is outdated, and no row with all its attempts is
taken over from a dispatcher that has not finalised it, what is counted is what was done. -/
theorem notifications_accounted (hmax : 1 ≤ max)
    (h : machine.Reaches (Within max) (Machine.init (World.start table₀)) cfg) :
    Accounted max table₀ cfg where
  orderly := (sound_reaches h).orderly
  finalised_last := by
    intro row hrow before after claimId outcome hhistory
    obtain ⟨row₀, _, _, hrun⟩ := (sound_reaches h).rows row hrow
    rw [hhistory] at hrun
    rcases Entry.after_finalised hrun with hnil | ⟨_, later, rfl⟩
    · exact hnil
    · exfalso
      apply (plain_reaches h).not_redriven row.id
      rw [hhistory]
      simp
  attempts := by
    intro row hrow
    have hwhole : history cfg.shared.log row.id = [] ++ history cfg.shared.log row.id ++ [] := by
      simp
    exact (bounded_reaches (keepsBelow_reaches h)).claims_le hmax hrow hwhole
      ((plain_reaches h).not_redriven row.id)
  counts := by
    intro t op r hthread
    obtain ⟨hclaimed, hexact⟩ := counts_iff h hthread
    exact ⟨hexact.mpr ((plain_reaches h).stale_eq_zero t), hclaimed⟩

/-- `Within`, computed. -/
def withinCheck (max : ℕ) (ev : Step) (cfg : Notifications) : Bool :=
  match ev with
  | .start _ op => op.dispatcher.maxAttempts = max
  | .run t e =>
    match cfg.threads t with
    | some (_, .call (.claimBatch now leaseTimeout batchSize) _) =>
      (cfg.shared.table.select now leaseTimeout batchSize e.locked e.tie).all fun row =>
        row.claimId.isNone || row.attemptCount < max
    | some (_, .call (.markDelivered outboxId claimId _) _) =>
      cfg.shared.table.rows.any (OutboxRow.heldUnder outboxId claimId)
    | some (_, .call (.markFailed outboxId claimId _ _ _) _) =>
      cfg.shared.table.rows.any (OutboxRow.heldUnder outboxId claimId)
    | _ => true

theorem within_of_check (ev : Step) (cfg : Notifications) (h : withinCheck max ev cfg = true) :
    Within max ev cfg := by
  cases ev with
  | start t op => simpa [withinCheck, Within] using h
  | run t e =>
    intro op c k hthread
    constructor
    · intro now leaseTimeout batchSize heq row hrow hclaim
      subst heq
      simp only [withinCheck, hthread, List.all_eq_true, Bool.or_eq_true, decide_eq_true_eq] at h
      rcases h row hrow with hnone | hbelow
      · simp [Option.isNone_iff_eq_none.mp hnone] at hclaim
      · exact hbelow
    · rintro outboxId claimId (⟨deliveredAt, rfl⟩ | ⟨availableAt, errorCode, deadLetteredAt, rfl⟩)
      · simpa only [withinCheck, hthread, List.any_eq_true] using h
      · simpa only [withinCheck, hthread, List.any_eq_true] using h

namespace Sample

/-- Five attempts, the default. -/
def patient : Op := ⟨{}, 50⟩

/-- One attempt. -/
def hasty : Op := ⟨{ maxAttempts := 1 }, 50⟩

def row : OutboxRow CommercialNotification where
  id := 1
  availableAt := 0
  attemptCount := 0
  claimId := none
  claimedAt := none
  deliveredAt := none
  deadLetteredAt := none
  lastErrorCode := none
  createdAt := 0
  data := ⟨"cno_1", "subscription_activated", "order", "ord_1", "cus_1", []⟩

def table : OutboxTable CommercialNotification := ⟨[row], List.nodup_singleton _⟩

/-- The adapter delivers, and the claim id is new. -/
def chance (now : ℤ) (claimId : Uuid) : Chance Unit Answer where
  now := now
  answer
    | .deliver _ => true
  joined := fun _ => ()
  uuids := [claimId]

def start : Notifications := Machine.init (World.start table)

/-- Dispatcher 0 claims the notification and stops for as long as its lease runs; dispatcher 1 takes
it over. -/
def takeover (op : Op) : List Step :=
  [.start 0 op, .run 0 (chance 0 10), .run 0 (chance 0 10), .start 1 op,
    .run 1 (chance (300 * second) 11), .run 1 (chance (300 * second) 11)]

/-- Dispatcher 1 delivers what it has taken over. -/
def delivered : List Step :=
  takeover patient ++ List.replicate 2 (.run 1 (chance (301 * second) 12))

theorem delivered_runs : (machine.runIf (withinCheck 5) delivered start).isSome = true := by
  decide +kernel

def afterDelivered : Notifications := (machine.runIf (withinCheck 5) delivered start).get delivered_runs

/-- The second of five attempts delivers the notification. -/
theorem delivered_accounted : Accounted 5 table afterDelivered :=
  notifications_accounted (by decide)
    (Machine.runIf_reaches within_of_check (Option.some_get delivered_runs).symm)

/-- Then dispatcher 0 delivers it, too. -/
def late : List Step := delivered ++ List.replicate 2 (.run 0 (chance (302 * second) 13))

theorem late_runs : (machine.run late start).isSome = true := by decide +kernel

def afterLate : Notifications := (machine.run late start).get late_runs

theorem takeover_runs : (machine.run (takeover hasty) start).isSome = true := by decide +kernel

def afterTakeover : Notifications := (machine.run (takeover hasty) start).get takeover_runs

/-- What dispatcher 0 answers at the end. -/
def answer (cfg : Notifications) (t : ℕ) : Option CommercialNotificationDispatchResult :=
  match cfg.threads t with
  | some (_, .done (.ok r)) => some r
  | _ => none

theorem answer_spec {t : ℕ} {r : CommercialNotificationDispatchResult} (h : answer cfg t = some r) :
    ∃ op, cfg.threads t = some (op, .done (.ok r)) := by
  unfold answer at h
  split at h
  · rename_i op r' hthread
    rw [← Option.some.inj h]
    exact ⟨op, hthread⟩
  · cases h

/-- The outdated delivery of dispatcher 0 is counted, and a notification of one attempt is claimed
twice. -/
theorem late_miscounted : ¬ Accounted 5 table afterLate ∧ ¬ Accounted 1 table afterTakeover := by
  constructor
  · intro h
    have hanswer : answer afterLate 0 = some ⟨1, 1, 0, 0⟩ := by decide +kernel
    have hstale : (tally (own 0 afterLate.shared.log)).delivered = 0 := by decide +kernel
    obtain ⟨op, hthread⟩ := answer_spec hanswer
    have hcounts := (h.counts 0 op _ hthread).1
    have hdelivered := congrArg CommercialNotificationDispatchResult.delivered hcounts
    simp [CommercialNotificationDispatchResult.ofTally, hstale] at hdelivered
  · intro h
    have hrows : ∃ row ∈ afterTakeover.shared.table.rows,
        history afterTakeover.shared.log row.id = [.claimed 10, .claimed 11] := by
      decide +kernel
    obtain ⟨row, hrow, hhistory⟩ := hrows
    have hle := h.attempts row hrow
    simp [hhistory, claims, Action.claim?] at hle

end Sample

end MaestroKernel.Delivery.Notification
