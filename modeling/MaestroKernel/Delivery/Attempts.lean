import MaestroKernel.Delivery.Accounts

/-! # Bounded attempts

The number of claims of a row is bounded as long as no row is taken over from another client, and
none is rescheduled, once it has had all its attempts. -/

namespace MaestroKernel.Delivery

open Interaction Outbox

variable {D J Q : Type} {A : Q → Type} {ι α : Type}

/-- A batch takes a row over from another client below `max` attempts only. -/
def TakesOver (max : ℕ) (e : Chance J A) (c : Command Q) (w : World D) : Prop :=
  ∀ now leaseTimeout batchSize, c = .claimBatch now leaseTimeout batchSize →
    ∀ row ∈ w.table.select now leaseTimeout batchSize e.locked e.tie,
      row.claimId.isSome → row.attemptCount < max

/-- A row is rescheduled below `max` attempts only. -/
def Reschedules (max : ℕ) (c : Command Q) (w : World D) : Prop :=
  ∀ outboxId claimId availableAt errorCode,
    c = .markFailed outboxId claimId availableAt errorCode none →
    ∀ row ∈ w.table.rows, row.heldUnder outboxId claimId = true → row.attemptCount < max

namespace World

variable {w w' : World D} {table₀ : OutboxTable D} {t max : ℕ} {f : OutboxRow D → OutboxRow D}
  {notes : List Note}

/-- The notes keep to the bound. -/
def Below (max : ℕ) (notes : List Note) (w : World D) : Prop :=
  ∀ row ∈ w.table.rows, Entry.RunBelow max (history notes row.id) row.entry

/-- The whole history of a row keeps to the bound. -/
def Bounded (max : ℕ) (table₀ : OutboxTable D) (w : World D) : Prop :=
  ∀ row ∈ w.table.rows, ∃ row₀ ∈ table₀.rows, row₀.id = row.id ∧
    row₀.entry.run (history w.log row.id) = some row.entry ∧
    Entry.RunBelow max (history w.log row.id) row₀.entry

theorem start_bounded (max : ℕ) (table₀ : OutboxTable D) : (start table₀).Bounded max table₀ :=
  fun row hrow => ⟨row, hrow, rfl, rfl, trivial⟩

theorem Bounded.advance (h : w.Bounded max table₀) (hstep : Advance t f notes w w')
    (hbelow : Below max notes w) : w'.Bounded max table₀ := by
  intro row' hrow'
  rw [hstep.rows] at hrow'
  obtain ⟨row, hrow, rfl⟩ := List.mem_map.mp hrow'
  obtain ⟨row₀, hrow₀, hid, hrun, hkept⟩ := h row hrow
  refine ⟨row₀, hrow₀, hid.trans (hstep.id row).symm, ?_, ?_⟩
  · rw [hstep.id, hstep.log, history_append, Entry.run_append, hrun]
    exact hstep.act row hrow
  · rw [hstep.id, hstep.log, history_append, Entry.runBelow_append hrun]
    exact ⟨hkept, hbelow row hrow⟩

theorem below_settled {outboxId claimId : Uuid} {action : Action Uuid} {done : Bool}
    (h : done = true → ∀ row ∈ w.table.rows, row.id = outboxId → row.entry.Below max action) :
    Below max [settled t outboxId claimId action done] w := by
  intro row hrow
  cases done with
  | false => exact trivial
  | true =>
    by_cases hid : outboxId = row.id
    · have hbelow := h rfl row hrow hid.symm
      simp [settled, history, Note.action?, hid, Entry.RunBelow, hbelow]
    · simp [settled, history, Note.action?, hid, Entry.RunBelow]

theorem settle_done {outboxId claimId : Uuid} {f : OutboxRow D → OutboxRow D}
    {hf : ∀ row, (f row).id = row.id} {action : Action Uuid}
    (h : (w.settle t outboxId claimId f hf action).1 = true) :
    ∀ row ∈ w.table.rows, row.id = outboxId → row.heldUnder outboxId claimId = true := by
  obtain ⟨holder, hholder, hholds⟩ := settle_done_iff.mp h
  intro row hrow hid
  have hsame := List.inj_on_of_nodup_map w.table.nodup hholder hrow
    ((OutboxRow.heldUnder_iff.mp hholds).1.trans hid.symm)
  exact hsame ▸ hholds

theorem claim_below {now leaseTimeout : ℤ} {batchSize : ℕ} {locked : Uuid → Bool}
    {tie : Uuid → ℕ} {assigned : List (Uuid × Uuid)}
    (hkeys : assigned.map Prod.fst =
      (w.table.select now leaseTimeout batchSize locked tie).map OutboxRow.id)
    (h : ∀ row ∈ w.table.select now leaseTimeout batchSize locked tie,
      row.claimId.isSome → row.attemptCount < max) :
    Below max (assigned.map fun a => ⟨t, a.1, .acted (.claimed a.2)⟩) w := by
  have hunique : (assigned.map Prod.fst).Nodup := hkeys ▸ nodup_select _ _ _ _ _ _
  intro row hrow
  rw [history_claims hunique]
  cases hget : Table.get? Prod.fst assigned row.id with
  | none => exact trivial
  | some a =>
    have hkey : row.id ∈ (w.table.select now leaseTimeout batchSize locked tie).map
        OutboxRow.id := by
      rw [← hkeys]
      exact List.mem_map.mpr ⟨a, Table.mem_of_get? hget, Table.key_of_get? hget⟩
    obtain ⟨other, hother, hid⟩ := List.mem_map.mp hkey
    have hsame := List.inj_on_of_nodup_map w.table.nodup (mem_select hother).1 hrow hid
    have hbelow := h row (hsame ▸ hother)
    refine ⟨?_, fun _ _ => trivial⟩
    by_cases hclaim : row.claimId = none
    · exact .inl hclaim
    · exact .inr (hbelow (Option.isSome_iff_ne_none.mpr hclaim))

end World

theorem exec_below {e : Chance J A} {t max : ℕ} {c : Command Q} {w w' : World D}
    {r : Reply D J A c} (h : exec e t c w = some (r, w')) (hclaim : TakesOver max e c w)
    (hfail : Reschedules max c w) :
    ∃ f notes, World.Advance t f notes w w' ∧ World.Below max notes w := by
  cases c with
  | clock =>
    cases h
    exact ⟨_, _, World.Advance.unchanged t w, fun _ _ => trivial⟩
  | ask q =>
    cases h
    exact ⟨_, _, World.Advance.unchanged t w, fun _ _ => trivial⟩
  | claimBatch now leaseTimeout batchSize =>
    obtain ⟨⟨rows, after⟩, hrows, heq⟩ := Option.map_eq_some_iff.mp h
    cases heq
    obtain ⟨assigned, hkeys, _, f, hadvance⟩ := World.claim_advance hrows
    exact ⟨f, _, hadvance, World.claim_below hkeys (hclaim now leaseTimeout batchSize rfl)⟩
  | markDelivered outboxId claimId deliveredAt =>
    obtain ⟨rfl, rfl⟩ := Prod.ext_iff.mp (Option.some.inj h)
    obtain ⟨f, hadvance⟩ := World.markDelivered_advance (w := w) (t := t) outboxId claimId
      deliveredAt
    exact ⟨f, _, hadvance, World.below_settled fun _ _ _ _ => trivial⟩
  | markFailed outboxId claimId availableAt errorCode deadLetteredAt =>
    obtain ⟨rfl, rfl⟩ := Prod.ext_iff.mp (Option.some.inj h)
    obtain ⟨f, hadvance⟩ := World.markFailed_advance (w := w) (t := t) outboxId claimId
      availableAt errorCode deadLetteredAt
    refine ⟨f, _, hadvance, World.below_settled ?_⟩
    intro hdone row hrow hid
    cases deadLetteredAt with
    | some at_ => exact trivial
    | none =>
      exact hfail outboxId claimId availableAt errorCode rfl row hrow
        (World.settle_done hdone row hrow hid)
  | redriveDeadLetter outboxId availableAt =>
    obtain ⟨rfl, rfl⟩ := Prod.ext_iff.mp (Option.some.inj h)
    obtain ⟨f, notes, hadvance, hnotes⟩ := World.redriveDeadLetter_advance (w := w) (t := t)
      outboxId availableAt
    refine ⟨f, notes, hadvance, ?_⟩
    intro row _
    rcases hnotes with rfl | rfl
    · exact trivial
    · by_cases hid : outboxId = row.id
      · simp [history, Note.action?, hid, Entry.RunBelow, Entry.Below]
      · simp [history, Note.action?, hid, Entry.RunBelow]

section Runs

variable {code : ι → Client D J A α} {table₀ : OutboxTable D} {max : ℕ}
  {ok : Interaction.Event ι (Chance J A) → Config ι (Command Q) (Reply D J A) α (World D) → Prop}
  {cfg : Config ι (Command Q) (Reply D J A) α (World D)}

/-- Every event of the run takes rows over, and reschedules them, below `max` attempts. -/
def KeepsBelow (max : ℕ) (ev : Interaction.Event ι (Chance J A))
    (cfg : Config ι (Command Q) (Reply D J A) α (World D)) : Prop :=
  ∀ t e i c k, ev = .run t e → cfg.threads t = some (i, .call c k) →
    TakesOver max e c cfg.shared ∧ Reschedules max c cfg.shared

theorem bounded_reaches
    (h : (outboxMachine code).Reaches (KeepsBelow max) (Machine.init (World.start table₀)) cfg) :
    cfg.shared.Bounded max table₀ := by
  induction h with
  | refl => exact World.start_bounded max table₀
  | @tail b c ev _ hok hnext ih =>
    cases ev with
    | start t i =>
      rw [(Machine.next_start hnext).2.1]
      exact ih
    | run t e =>
      obtain ⟨i, command, k, r, hthread, hexec, _⟩ := Machine.next_run hnext
      obtain ⟨htakes, hreschedules⟩ := hok t e i command k rfl hthread
      obtain ⟨f, notes, hadvance, hbelow⟩ := exec_below hexec htakes hreschedules
      exact ih.advance hadvance hbelow

/-- Between two redrives a row is claimed at most `max` times. -/
theorem World.Bounded.claims_le {w : World D} (h : w.Bounded max table₀) (hmax : 1 ≤ max)
    {row : OutboxRow D} (hrow : row ∈ w.table.rows) {before window after : List (Action Uuid)}
    (hhistory : history w.log row.id = before ++ window ++ after) (hkept : .redriven ∉ window) :
    (claims window).length ≤ max := by
  obtain ⟨row₀, _, _, hrun, hbelow⟩ := h row hrow
  rw [hhistory] at hrun hbelow
  exact Entry.claims_le hmax hrun hbelow hkept

end Runs

end MaestroKernel.Delivery
