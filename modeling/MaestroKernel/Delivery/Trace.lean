import MaestroKernel.Delivery.Dispatch

/-! # The table follows its history

Every statement acts on the rows as it is recorded to, so a row is the entry that its history leads
to, and claim ids are given out once. -/

namespace MaestroKernel.Delivery

open Interaction Outbox

variable {D J Q : Type} {A : Q → Type}

def OutboxRow.entry (row : OutboxRow D) : Entry Uuid where
  token := row.claimId
  outcome :=
    if row.deliveredAt.isSome then some .delivered
    else if row.deadLetteredAt.isSome then some .dead else none
  attempts := row.attemptCount

namespace OutboxRow

variable {row : OutboxRow D} {now leaseTimeout availableAt : ℤ} {outboxId claimId : Uuid}

theorem entry_outcome_eq_none :
    row.entry.outcome = none ↔ row.deliveredAt = none ∧ row.deadLetteredAt = none := by
  unfold entry
  cases row.deliveredAt with
  | some at_ => simp
  | none =>
    cases row.deadLetteredAt with
    | some at_ => simp
    | none => simp

theorem heldUnder_iff : row.heldUnder outboxId claimId = true ↔
    row.id = outboxId ∧ row.claimId = some claimId ∧ row.entry.outcome = none := by
  rw [entry_outcome_eq_none]
  simp [heldUnder, and_assoc]

theorem act_claim (h : row.due now leaseTimeout = true) :
    row.entry.act (.claimed claimId) = some (row.claim now claimId).entry := by
  have hopen : row.deliveredAt = none ∧ row.deadLetteredAt = none := by
    simp only [due, Bool.and_eq_true, Option.isNone_iff_eq_none] at h
    exact h.1.1
  simp [Entry.act, entry, claim, hopen.1, hopen.2]

theorem act_delivered (h : row.heldUnder outboxId claimId = true) (deliveredAt : ℤ) :
    row.entry.act (.finalised claimId .delivered) = some (row.delivered deliveredAt).entry := by
  obtain ⟨_, htoken, houtcome⟩ := heldUnder_iff.mp h
  obtain ⟨hdelivered, hdead⟩ := entry_outcome_eq_none.mp houtcome
  simp [Entry.act, entry, delivered, htoken, hdelivered, hdead]

theorem act_failed (h : row.heldUnder outboxId claimId = true) (errorCode : String)
    (deadLetteredAt : Option ℤ) :
    row.entry.act (if deadLetteredAt.isSome then .finalised claimId .dead
      else .rescheduled claimId) = some (row.failed availableAt errorCode deadLetteredAt).entry := by
  obtain ⟨_, htoken, houtcome⟩ := heldUnder_iff.mp h
  obtain ⟨hdelivered, hdead⟩ := entry_outcome_eq_none.mp houtcome
  cases deadLetteredAt with
  | none => simp [Entry.act, entry, failed, htoken, hdelivered, hdead]
  | some at_ => simp [Entry.act, entry, failed, htoken, hdelivered, hdead]

theorem act_redriven (availableAt : ℤ) (h : row.redrivable outboxId = true) :
    row.entry.act .redriven = some (row.redriven availableAt).entry := by
  simp only [redrivable, Bool.and_eq_true, Option.isNone_iff_eq_none] at h
  obtain ⟨⟨⟨⟨_, hopen⟩, hdead⟩, hclaim⟩, _⟩ := h
  simp [Entry.act, entry, redriven, hopen, hdead, hclaim]

end OutboxRow

theorem history_append (log notes : List Note) (row : Uuid) :
    history (log ++ notes) row = history log row ++ history notes row :=
  List.filterMap_append

/-- The claim id that a note gives out. -/
def Note.claim? (note : Note) : Option Uuid :=
  match note.event with
  | .acted action => action.claim?
  | .stale _ => none

/-- The claim ids given out, in order. -/
def claimIds (log : List Note) : List Uuid := log.filterMap Note.claim?

theorem claimIds_append (log notes : List Note) :
    claimIds (log ++ notes) = claimIds log ++ claimIds notes :=
  List.filterMap_append

theorem claims_sublist (log : List Note) (row : Uuid) :
    (claims (history log row)).Sublist (claimIds log) := by
  induction log with
  | nil => simp [claims, history, claimIds]
  | cons note log ih =>
    unfold claims history claimIds at ih ⊢
    rw [List.filterMap_cons, List.filterMap_cons]
    cases hevent : note.event with
    | stale claimId =>
      simp only [Note.action?, Note.claim?, hevent]
      exact ih
    | acted action =>
      simp only [Note.action?, Note.claim?, hevent]
      by_cases hrow : note.row = row
      · rw [if_pos hrow]
        rw [List.filterMap_cons]
        cases action.claim? with
        | none => exact ih
        | some claimId => exact ih.cons_cons claimId
      · rw [if_neg hrow]
        cases action.claim? with
        | none => exact ih
        | some claimId => exact ih.cons claimId

/-! ## One statement -/

theorem rowcount_eq_one {table : OutboxTable D} {p : OutboxRow D → Bool} {k : Uuid}
    (hp : ∀ row, p row = true → row.id = k) :
    (table.rows.filter p).length = 1 ↔ ∃ row ∈ table.rows, p row = true := by
  constructor
  · intro hone
    obtain ⟨row, hrow⟩ := List.length_eq_one_iff.mp hone
    have hmem : row ∈ table.rows.filter p := by
      rw [hrow]
      exact List.mem_singleton_self row
    exact ⟨row, (List.mem_filter.mp hmem).1, (List.mem_filter.mp hmem).2⟩
  · rintro ⟨row, hmem, hrow⟩
    have hperm : (table.rows.filter p).Perm [row] := by
      rw [List.perm_ext_iff_of_nodup (table.nodup.of_map.filter p) (List.nodup_singleton row)]
      intro other
      rw [List.mem_filter, List.mem_singleton]
      constructor
      · rintro ⟨hother, hpother⟩
        exact List.inj_on_of_nodup_map table.nodup hother hmem ((hp _ hpother).trans (hp _ hrow).symm)
      · rintro rfl
        exact ⟨hmem, hrow⟩
    exact hperm.length_eq

namespace World

variable {w w' : World D} {table₀ : OutboxTable D} {t : ℕ}

/-- A row is what its history makes of the row that it was, and claim ids are new. -/
structure Sound (table₀ : OutboxTable D) (w : World D) : Prop where
  ids : w.table.rows.map OutboxRow.id = table₀.rows.map OutboxRow.id
  rows : ∀ row ∈ w.table.rows, ∃ row₀ ∈ table₀.rows, row₀.id = row.id ∧
    row₀.entry.run (history w.log row.id) = some row.entry
  issued : w.issued = (start table₀).issued ++ claimIds w.log
  nodup : (claimIds w.log).Nodup

theorem start_sound (table₀ : OutboxTable D) : (start table₀).Sound table₀ where
  ids := rfl
  rows := fun row hrow => ⟨row, hrow, rfl, rfl⟩
  issued := (List.append_nil _).symm
  nodup := List.nodup_nil

/-- A statement of client `t` changes the rows by `f` and adds `notes` that say so. -/
structure Advance (t : ℕ) (f : OutboxRow D → OutboxRow D) (notes : List Note) (w w' : World D) :
    Prop where
  client : ∀ note ∈ notes, note.client = t
  id : ∀ row, (f row).id = row.id
  rows : w'.table.rows = w.table.rows.map f
  log : w'.log = w.log ++ notes
  issued : w'.issued = w.issued ++ claimIds notes
  nodup : (claimIds notes).Nodup
  fresh : ∀ claimId ∈ claimIds notes, claimId ∉ w.issued
  act : ∀ row ∈ w.table.rows, row.entry.run (history notes row.id) = some (f row).entry

theorem Sound.advance {f : OutboxRow D → OutboxRow D} {notes : List Note} (h : w.Sound table₀)
    (hstep : Advance t f notes w w') : w'.Sound table₀ where
  ids := by
    rw [hstep.rows, Table.map_map_of_agree fun row _ => hstep.id row]
    exact h.ids
  rows := by
    intro row' hrow'
    rw [hstep.rows] at hrow'
    obtain ⟨row, hrow, rfl⟩ := List.mem_map.mp hrow'
    obtain ⟨row₀, hrow₀, hid, hrun⟩ := h.rows row hrow
    refine ⟨row₀, hrow₀, hid.trans (hstep.id row).symm, ?_⟩
    rw [hstep.id, hstep.log, history_append, Entry.run_append, hrun]
    exact hstep.act row hrow
  issued := by
    rw [hstep.issued, h.issued, hstep.log, claimIds_append, List.append_assoc]
  nodup := by
    rw [hstep.log, claimIds_append]
    refine h.nodup.append hstep.nodup ?_
    intro claimId hold hnew
    apply hstep.fresh claimId hnew
    rw [h.issued]
    exact List.mem_append_right _ hold

theorem Advance.unchanged (t : ℕ) (w : World D) : Advance t (fun row => row) [] w w where
  client := fun _ hmem => absurd hmem List.not_mem_nil
  id := fun _ => rfl
  rows := (List.map_id _).symm
  log := (List.append_nil _).symm
  issued := (List.append_nil _).symm
  nodup := List.nodup_nil
  fresh := fun _ hmem => absurd hmem List.not_mem_nil
  act := fun _ _ => rfl

theorem Advance.of_note {f : OutboxRow D → OutboxRow D} {note : Note}
    (hclient : note.client = t) (hid : ∀ row, (f row).id = row.id)
    (hrows : w'.table.rows = w.table.rows.map f)
    (hlog : w'.log = w.log ++ [note]) (hissued : w'.issued = w.issued) (hnote : note.claim? = none)
    (hact : ∀ row ∈ w.table.rows, row.entry.run (note.action? row.id).toList = some (f row).entry) :
    Advance t f [note] w w' := by
  have hnone : claimIds [note] = [] := by simp [claimIds, hnote]
  refine ⟨fun _ hmem => List.mem_singleton.mp hmem ▸ hclient, hid, hrows, hlog,
    by rw [hissued, hnone, List.append_nil], ?_, ?_, ?_⟩
  · rw [hnone]
    exact List.nodup_nil
  · rw [hnone]
    exact fun claimId hmem => absurd hmem List.not_mem_nil
  · intro row hrow
    have hhistory : history [note] row.id = (note.action? row.id).toList := by
      unfold history
      rw [List.filterMap_cons]
      cases note.action? row.id <;> rfl
    rw [hhistory]
    exact hact row hrow

/-- The note of a finalisation that asked for `action`. -/
def settled (t : ℕ) (outboxId claimId : Uuid) (action : Action Uuid) (done : Bool) : Note :=
  ⟨t, outboxId, if done then .acted action else .stale claimId⟩

theorem settle_done_iff {outboxId claimId : Uuid} {f : OutboxRow D → OutboxRow D}
    {hf : ∀ row, (f row).id = row.id} {action : Action Uuid} :
    (w.settle t outboxId claimId f hf action).1 = true ↔
      ∃ row ∈ w.table.rows, row.heldUnder outboxId claimId = true := by
  rw [← rowcount_eq_one fun row hrow => (OutboxRow.heldUnder_iff.mp hrow).1]
  exact decide_eq_true_iff

theorem settle_advance {outboxId claimId : Uuid} {f : OutboxRow D → OutboxRow D}
    {hf : ∀ row, (f row).id = row.id} {action : Action Uuid}
    (hact : ∀ row : OutboxRow D, row.heldUnder outboxId claimId = true →
      row.entry.act action = some (f row).entry) (hclaim : action.claim? = none) :
    Advance t (fun row => if row.heldUnder outboxId claimId then f row else row)
      [settled t outboxId claimId action (w.settle t outboxId claimId f hf action).1] w
      (w.settle t outboxId claimId f hf action).2 := by
  have hheld : ∀ row : OutboxRow D, row.heldUnder outboxId claimId = true → row.id = outboxId :=
    fun row hrow => (OutboxRow.heldUnder_iff.mp hrow).1
  apply Advance.of_note
  · rfl
  · intro row
    split
    · exact hf row
    · rfl
  · rfl
  · simp [settle, settled]
  · rfl
  · by_cases htrue : (w.settle t outboxId claimId f hf action).1 = true
    · simpa [settled, Note.claim?, htrue] using hclaim
    · simp [settled, Note.claim?, htrue]
  · intro row hrow
    by_cases hmine : row.heldUnder outboxId claimId = true
    · have htrue : (w.settle t outboxId claimId f hf action).1 = true :=
        settle_done_iff.mpr ⟨row, hrow, hmine⟩
      rw [settled, if_pos htrue, if_pos hmine]
      simp [Note.action?, hheld row hmine, Entry.run, hact row hmine]
    · rw [if_neg hmine]
      by_cases htrue : (w.settle t outboxId claimId f hf action).1 = true
      · obtain ⟨holder, hholder, hholds⟩ := settle_done_iff.mp htrue
        have hne : outboxId ≠ row.id := by
          intro hid
          have hsame := List.inj_on_of_nodup_map w.table.nodup hholder hrow
            ((hheld holder hholds).trans hid)
          exact hmine (hsame ▸ hholds)
        rw [settled, if_pos htrue]
        simp [Note.action?, hne, Entry.run]
      · rw [settled, if_neg htrue]
        simp [Note.action?, Entry.run]

theorem markDelivered_advance (outboxId claimId : Uuid) (deliveredAt : ℤ) : ∃ f,
    Advance t f [settled t outboxId claimId (.finalised claimId .delivered)
      (w.markDelivered t outboxId claimId deliveredAt).1] w
      (w.markDelivered t outboxId claimId deliveredAt).2 :=
  ⟨_, settle_advance (fun _ hrow => OutboxRow.act_delivered hrow deliveredAt) rfl⟩

/-- What a failure asks for. -/
def failure (claimId : Uuid) (deadLetteredAt : Option ℤ) : Action Uuid :=
  if deadLetteredAt.isSome then .finalised claimId .dead else .rescheduled claimId

theorem markFailed_advance (outboxId claimId : Uuid) (availableAt : ℤ) (errorCode : String)
    (deadLetteredAt : Option ℤ) : ∃ f,
    Advance t f [settled t outboxId claimId (failure claimId deadLetteredAt)
      (w.markFailed t outboxId claimId availableAt errorCode deadLetteredAt).1] w
      (w.markFailed t outboxId claimId availableAt errorCode deadLetteredAt).2 :=
  ⟨_, settle_advance (fun _ hrow => OutboxRow.act_failed hrow errorCode deadLetteredAt)
    (by cases deadLetteredAt <;> rfl)⟩

theorem redriveDeadLetter_advance (outboxId : Uuid) (availableAt : ℤ) :
    ∃ f notes, Advance t f notes w (w.redriveDeadLetter t outboxId availableAt).2 ∧
      (notes = [] ∨ notes = [⟨t, outboxId, .acted .redriven⟩]) := by
  unfold redriveDeadLetter
  cases hfind : w.table.rows.find? (OutboxRow.redrivable outboxId) with
  | none => exact ⟨_, _, Advance.unchanged t w, .inl rfl⟩
  | some found =>
    have hid : ∀ row : OutboxRow D, row.redrivable outboxId = true → row.id = outboxId := by
      intro row hrow
      simp only [OutboxRow.redrivable, Bool.and_eq_true, decide_eq_true_eq] at hrow
      exact hrow.1.1.1.1
    have hfound : found.redrivable outboxId = true := by simpa using List.find?_some hfind
    refine ⟨fun row => if row.redrivable outboxId then row.redriven availableAt else row, _,
      Advance.of_note rfl ?_ rfl rfl rfl rfl ?_, .inr rfl⟩
    · intro row
      split <;> rfl
    · intro row hrow
      by_cases hmine : row.redrivable outboxId = true
      · simp [Note.action?, hid row hmine, hmine, Entry.run,
          OutboxRow.act_redriven availableAt hmine]
      · have hne : outboxId ≠ row.id := by
          intro heq
          have hsame := List.inj_on_of_nodup_map w.table.nodup (List.mem_of_find?_eq_some hfind)
            hrow ((hid found hfound).trans heq)
          exact hmine (hsame ▸ hfound)
        simp [Note.action?, hne, hmine, Entry.run]

/-! ## Claims -/

theorem mem_select {table : OutboxTable D} {now leaseTimeout : ℤ} {batchSize : ℕ}
    {locked : Uuid → Bool} {tie : Uuid → ℕ} {row : OutboxRow D}
    (h : row ∈ table.select now leaseTimeout batchSize locked tie) :
    row ∈ table.rows ∧ row.due now leaseTimeout = true := by
  have hsorted := List.mem_of_mem_take h
  rw [List.mem_insertionSort, List.mem_filter, Bool.and_eq_true] at hsorted
  exact ⟨hsorted.1, hsorted.2.1⟩

theorem nodup_select (table : OutboxTable D) (now leaseTimeout : ℤ) (batchSize : ℕ)
    (locked : Uuid → Bool) (tie : Uuid → ℕ) :
    ((table.select now leaseTimeout batchSize locked tie).map OutboxRow.id).Nodup := by
  unfold OutboxTable.select
  refine List.Nodup.sublist ((List.take_sublist _ _).map _) ?_
  have hperm := (List.perm_insertionSort (OutboxRow.before tie)
    (table.rows.filter fun row => row.due now leaseTimeout && !locked row.id)).map OutboxRow.id
  exact hperm.nodup_iff.mpr (table.nodup.sublist (List.filter_sublist.map _))

theorem keys_assign {selected : List (OutboxRow D)} {uuids : List Uuid}
    (h : uuids.length = selected.length) :
    (OutboxTable.assign selected uuids).map Prod.fst = selected.map OutboxRow.id :=
  List.map_fst_zip (by simp [h])

theorem values_assign {selected : List (OutboxRow D)} {uuids : List Uuid}
    (h : uuids.length = selected.length) :
    (OutboxTable.assign selected uuids).map Prod.snd = uuids :=
  List.map_snd_zip (by simp [h])

theorem history_claims {assigned : List (Uuid × Uuid)} (h : (assigned.map Prod.fst).Nodup)
    (row : Uuid) :
    history (assigned.map fun a => ⟨t, a.1, .acted (.claimed a.2)⟩) row =
      ((Table.get? Prod.fst assigned row).map fun a => Action.claimed a.2).toList := by
  induction assigned with
  | nil => rfl
  | cons a assigned ih =>
    rw [List.map_cons, List.nodup_cons] at h
    have hrest := ih h.2
    unfold history at hrest ⊢
    rw [List.map_cons, List.filterMap_cons]
    by_cases ha : a.1 = row
    · have hnone : Table.get? Prod.fst assigned row = none := by
        rw [Table.get?_eq_none]
        intro b hb hkey
        exact h.1 (List.mem_map.mpr ⟨b, hb, hkey.trans ha.symm⟩)
      rw [hnone] at hrest
      rw [hrest]
      simp [Note.action?, Table.get?, ha]
    · rw [hrest]
      simp [Note.action?, Table.get?, ha]

theorem claimIds_claims (assigned : List (Uuid × Uuid)) :
    claimIds (assigned.map fun a => ⟨t, a.1, .acted (.claimed a.2)⟩) = assigned.map Prod.snd := by
  induction assigned with
  | nil => rfl
  | cons a assigned ih =>
    unfold claimIds at ih ⊢
    rw [List.map_cons, List.filterMap_cons, ih]
    rfl

theorem claim_cases {now leaseTimeout : ℤ} {batchSize : ℕ} {locked : Uuid → Bool}
    {tie : Uuid → ℕ} {uuids : List Uuid} {rows : List (OutboxRow D)}
    (h : w.claim t now leaseTimeout batchSize locked tie uuids = some (rows, w')) :
    ∃ assigned, (assigned.map Prod.fst) =
        (w.table.select now leaseTimeout batchSize locked tie).map OutboxRow.id ∧
      (assigned.map Prod.snd).Nodup ∧ (∀ a ∈ assigned, a.2 ∉ w.issued) ∧
      rows = (w.table.select now leaseTimeout batchSize locked tie).map
        (OutboxTable.claimRow now assigned) ∧
      w' = ⟨w.table.claim now assigned, w.issued ++ assigned.map Prod.snd,
        w.log ++ assigned.map fun a => ⟨t, a.1, .acted (.claimed a.2)⟩⟩ := by
  unfold claim at h
  simp only [Option.ite_none_right_eq_some, Option.some.injEq, Prod.mk.injEq] at h
  obtain ⟨⟨hlength, hnodup, hfresh⟩, hrows, hw⟩ := h
  have hvalues := values_assign hlength
  refine ⟨_, keys_assign hlength, by rwa [hvalues], ?_, hrows.symm, by rw [← hw, hvalues]⟩
  intro a ha
  exact hfresh a.2 (hvalues ▸ List.mem_map_of_mem ha)

theorem claim_advance {now leaseTimeout : ℤ} {batchSize : ℕ} {locked : Uuid → Bool}
    {tie : Uuid → ℕ} {uuids : List Uuid} {rows : List (OutboxRow D)}
    (h : w.claim t now leaseTimeout batchSize locked tie uuids = some (rows, w')) :
    ∃ assigned : List (Uuid × Uuid), assigned.map Prod.fst =
        (w.table.select now leaseTimeout batchSize locked tie).map OutboxRow.id ∧
      assigned.length = rows.length ∧
      ∃ f, Advance t f (assigned.map fun a => ⟨t, a.1, .acted (.claimed a.2)⟩) w w' := by
  obtain ⟨assigned, hkeys, hnodup, hfresh, rfl, rfl⟩ := claim_cases h
  have hunique : (assigned.map Prod.fst).Nodup := hkeys ▸ nodup_select _ _ _ _ _ _
  have hlength : assigned.length = ((w.table.select now leaseTimeout batchSize locked tie).map
      (OutboxTable.claimRow now assigned)).length := by
    have hkeyed := congrArg List.length hkeys
    simpa only [List.length_map] using hkeyed
  refine ⟨assigned, hkeys, hlength, OutboxTable.claimRow now assigned, ?_,
    fun row => OutboxTable.claimRow_id now assigned row, rfl, rfl, ?_, ?_, ?_, ?_⟩
  · intro note hmem
    obtain ⟨a, _, rfl⟩ := List.mem_map.mp hmem
    rfl
  · rw [claimIds_claims]
  · rw [claimIds_claims]
    exact hnodup
  · rw [claimIds_claims]
    intro claimId hmem
    obtain ⟨a, ha, rfl⟩ := List.mem_map.mp hmem
    exact hfresh a ha
  · intro row hrow
    rw [history_claims hunique]
    unfold OutboxTable.claimRow
    cases hget : Table.get? Prod.fst assigned row.id with
    | none => rfl
    | some a =>
      have hkey : row.id ∈ (w.table.select now leaseTimeout batchSize locked tie).map
          OutboxRow.id := by
        rw [← hkeys]
        exact List.mem_map.mpr ⟨a, Table.mem_of_get? hget, Table.key_of_get? hget⟩
      obtain ⟨other, hother, hid⟩ := List.mem_map.mp hkey
      obtain ⟨hmem, hdue⟩ := mem_select hother
      have hsame := List.inj_on_of_nodup_map w.table.nodup hmem hrow hid
      simp [Entry.run, OutboxRow.act_claim (hsame ▸ hdue)]

end World

/-! ## Every run -/

theorem exec_advance {e : Chance J A} {t : ℕ} {c : Command Q} {w w' : World D} {r : Reply D J A c}
    (h : exec e t c w = some (r, w')) : ∃ f notes, World.Advance t f notes w w' := by
  cases c with
  | clock =>
    cases h
    exact ⟨_, _, World.Advance.unchanged t w⟩
  | ask q =>
    cases h
    exact ⟨_, _, World.Advance.unchanged t w⟩
  | claimBatch now leaseTimeout batchSize =>
    obtain ⟨⟨rows, after⟩, hclaim, heq⟩ := Option.map_eq_some_iff.mp h
    cases heq
    obtain ⟨assigned, _, _, f, hadvance⟩ := World.claim_advance hclaim
    exact ⟨f, _, hadvance⟩
  | markDelivered outboxId claimId deliveredAt =>
    obtain ⟨rfl, rfl⟩ := Prod.ext_iff.mp (Option.some.inj h)
    obtain ⟨f, hadvance⟩ := World.markDelivered_advance (w := w) (t := t) outboxId claimId
      deliveredAt
    exact ⟨f, _, hadvance⟩
  | markFailed outboxId claimId availableAt errorCode deadLetteredAt =>
    obtain ⟨rfl, rfl⟩ := Prod.ext_iff.mp (Option.some.inj h)
    obtain ⟨f, hadvance⟩ := World.markFailed_advance (w := w) (t := t) outboxId claimId
      availableAt errorCode deadLetteredAt
    exact ⟨f, _, hadvance⟩
  | redriveDeadLetter outboxId availableAt =>
    obtain ⟨rfl, rfl⟩ := Prod.ext_iff.mp (Option.some.inj h)
    obtain ⟨f, notes, hadvance, _⟩ := World.redriveDeadLetter_advance (w := w) (t := t) outboxId
      availableAt
    exact ⟨f, notes, hadvance⟩

section Runs

variable {ι α : Type} {code : ι → Client D J A α} {table₀ : OutboxTable D}
  {ok : Interaction.Event ι (Chance J A) → Config ι (Command Q) (Reply D J A) α (World D) → Prop}
  {cfg : Config ι (Command Q) (Reply D J A) α (World D)}

theorem sound_reaches (h : (outboxMachine code).Reaches ok (Machine.init (World.start table₀)) cfg) :
    cfg.shared.Sound table₀ := by
  induction h with
  | refl => exact World.start_sound table₀
  | @tail b c ev _ _ hnext ih =>
    cases ev with
    | start t i =>
      rw [(Machine.next_start hnext).2.1]
      exact ih
    | run t e =>
      obtain ⟨_, _, _, _, _, hexec, _⟩ := Machine.next_run hnext
      obtain ⟨f, notes, hadvance⟩ := exec_advance hexec
      exact ih.advance hadvance

end Runs

namespace World

variable {w : World D} {table₀ : OutboxTable D} {t : ℕ}

/-- What the history of every row says of the finalisations and the claims of the row. -/
structure Orderly (table₀ : OutboxTable D) (w : World D) : Prop where
  /-- Between two finalisations of a row lies a redrive. -/
  finalised_once : ∀ row ∈ w.table.rows, ∀ before between after claimId claimId' outcome outcome',
    history w.log row.id = before ++ .finalised claimId outcome :: between ++
      .finalised claimId' outcome' :: after → .redriven ∈ between
  /-- A finalised row is not claimed before a redrive. -/
  not_claimed : ∀ row ∈ w.table.rows, ∀ before between after claimId claimId' outcome,
    history w.log row.id = before ++ .finalised claimId outcome :: between ++
      .claimed claimId' :: after → .redriven ∈ between
  /-- Nor is a row that was finalised before. -/
  not_claimed_first : ∀ row ∈ table₀.rows, row.entry.outcome ≠ none → ∀ before after claimId,
    history w.log row.id = before ++ .claimed claimId :: after → .redriven ∈ before
  /-- A delivered row is not even redriven. -/
  delivered_last : ∀ row ∈ w.table.rows, ∀ before after claimId,
    history w.log row.id = before ++ .finalised claimId .delivered :: after → after = []
  /-- Once anything has happened to a row since a claim, the claim id finalises nothing. -/
  outdated : ∀ row ∈ w.table.rows, ∀ before after claimId,
    history w.log row.id = before ++ .claimed claimId :: after → after ≠ [] →
    ∀ t, (∀ deliveredAt, w.markDelivered t row.id claimId deliveredAt =
        (false, { w with log := w.log ++ [⟨t, row.id, .stale claimId⟩] })) ∧
      ∀ availableAt errorCode deadLetteredAt,
        w.markFailed t row.id claimId availableAt errorCode deadLetteredAt =
          (false, { w with log := w.log ++ [⟨t, row.id, .stale claimId⟩] })

theorem settle_stale {row : OutboxRow D} {claimId : Uuid} {f : OutboxRow D → OutboxRow D}
    {hf : ∀ row, (f row).id = row.id} {action : Action Uuid} (hrow : row ∈ w.table.rows)
    (hclaim : row.claimId ≠ some claimId) :
    w.settle t row.id claimId f hf action =
      (false, { w with log := w.log ++ [⟨t, row.id, .stale claimId⟩] }) := by
  have hheld : ∀ other ∈ w.table.rows, other.heldUnder row.id claimId = false := by
    intro other hother
    rw [← Bool.not_eq_true, OutboxRow.heldUnder_iff]
    rintro ⟨hid, htoken, _⟩
    have hsame := List.inj_on_of_nodup_map w.table.nodup hother hrow hid
    exact hclaim (hsame ▸ htoken)
  have hcount : (w.table.update (OutboxRow.heldUnder row.id claimId) f hf).1 = 0 := by
    apply List.length_eq_zero_iff.mpr
    apply List.filter_eq_nil_iff.mpr
    intro other hother
    simp [hheld other hother]
  have htable : (w.table.update (OutboxRow.heldUnder row.id claimId) f hf).2 = w.table := by
    have hrows : (w.table.update (OutboxRow.heldUnder row.id claimId) f hf).2.rows =
        w.table.rows := by
      apply (List.map_congr_left fun other hother => ?_).trans (List.map_id _)
      simp [hheld other hother]
    generalize (w.table.update (OutboxRow.heldUnder row.id claimId) f hf).2 = after at hrows
    cases after
    cases hrows
    rfl
  unfold settle
  simp [hcount, htable]

theorem Sound.orderly (h : w.Sound table₀) : w.Orderly table₀ where
  finalised_once := by
    intro row hrow before between after claimId claimId' outcome outcome' hhistory
    obtain ⟨row₀, _, _, hrun⟩ := h.rows row hrow
    rw [hhistory] at hrun
    exact Entry.redriven_of_after hrun (by simp)
  not_claimed := by
    intro row hrow before between after claimId claimId' outcome hhistory
    obtain ⟨row₀, _, _, hrun⟩ := h.rows row hrow
    rw [hhistory] at hrun
    exact Entry.redriven_of_after hrun (by simp)
  not_claimed_first := by
    intro row₀ hrow₀ houtcome before after claimId hhistory
    obtain ⟨outcome, houtcome⟩ := Option.ne_none_iff_exists'.mp houtcome
    have hid : row₀.id ∈ w.table.rows.map OutboxRow.id := by
      rw [h.ids]
      exact List.mem_map_of_mem hrow₀
    obtain ⟨row, hrow, hid⟩ := List.mem_map.mp hid
    obtain ⟨row₁, hrow₁, hid₁, hrun⟩ := h.rows row hrow
    have hsame : row₁ = row₀ :=
      List.inj_on_of_nodup_map table₀.nodup hrow₁ hrow₀ (hid₁.trans hid)
    rw [hid, hhistory, hsame] at hrun
    exact Entry.redriven_of_outcome hrun houtcome (by simp)
  delivered_last := by
    intro row hrow before after claimId hhistory
    obtain ⟨row₀, _, _, hrun⟩ := h.rows row hrow
    rw [hhistory] at hrun
    rcases Entry.after_finalised hrun with hnil | ⟨hdead, _⟩
    · exact hnil
    · simp at hdead
  outdated := by
    intro row hrow before after claimId hhistory hafter t
    obtain ⟨row₀, _, _, hrun⟩ := h.rows row hrow
    have hnodup := h.nodup.sublist (claims_sublist w.log row.id)
    rw [hhistory] at hrun hnodup
    have hclaim : row.claimId ≠ some claimId := Entry.outdated hrun hnodup hafter
    exact ⟨fun _ => settle_stale hrow hclaim, fun _ _ _ => settle_stale hrow hclaim⟩

end World

end MaestroKernel.Delivery
