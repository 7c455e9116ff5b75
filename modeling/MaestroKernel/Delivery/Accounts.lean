import MaestroKernel.Delivery.Trace

/-! # What a client has done

A client adds to the log what it does, and the rows that it has claimed keep their number of
attempts until somebody else claims them. So a client can count on the attempts that its claims
name, and its result can be compared with the log. -/

namespace MaestroKernel.Delivery

open Interaction Outbox

/-- How many rows a client claimed, and what became of its claims. -/
structure Tally where
  claimed : ℕ
  delivered : ℕ
  rescheduled : ℕ
  dead : ℕ
  stale : ℕ

namespace Event

def isClaim : Event → Bool
  | .acted (.claimed _) => true
  | _ => false

def isDelivery : Event → Bool
  | .acted (.finalised _ .delivered) => true
  | _ => false

def isDeath : Event → Bool
  | .acted (.finalised _ .dead) => true
  | _ => false

def isReschedule : Event → Bool
  | .acted (.rescheduled _) => true
  | _ => false

def isStale : Event → Bool
  | .stale _ => true
  | _ => false

end Event

def tally (notes : List Note) : Tally where
  claimed := notes.countP fun note => note.event.isClaim
  delivered := notes.countP fun note => note.event.isDelivery
  rescheduled := notes.countP fun note => note.event.isReschedule
  dead := notes.countP fun note => note.event.isDeath
  stale := notes.countP fun note => note.event.isStale

variable {D J Q : Type} {A : Q → Type} {ι α β : Type}

section Tallies

variable {t : ℕ} {notes : List Note} {outboxId claimId : Uuid}

theorem tally_stale (action : Action Uuid) :
    tally (notes ++ [World.settled t outboxId claimId action false]) =
      { tally notes with stale := (tally notes).stale + 1 } := by
  simp [tally, World.settled, Event.isClaim, Event.isDelivery, Event.isReschedule, Event.isDeath,
    Event.isStale]

theorem tally_delivered :
    tally (notes ++ [World.settled t outboxId claimId (.finalised claimId .delivered) true]) =
      { tally notes with delivered := (tally notes).delivered + 1 } := by
  simp [tally, World.settled, Event.isClaim, Event.isDelivery, Event.isReschedule, Event.isDeath,
    Event.isStale]

theorem tally_failure (notes : List Note) (outboxId claimId : Uuid) (deadLetteredAt : Option ℤ) :
    tally (notes ++ [World.settled t outboxId claimId (World.failure claimId deadLetteredAt) true]) =
      if deadLetteredAt.isSome then { tally notes with dead := (tally notes).dead + 1 }
      else { tally notes with rescheduled := (tally notes).rescheduled + 1 } := by
  cases deadLetteredAt with
  | none =>
    simp [tally, World.settled, World.failure, Event.isClaim, Event.isDelivery,
      Event.isReschedule, Event.isDeath, Event.isStale]
  | some at_ =>
    simp [tally, World.settled, World.failure, Event.isClaim, Event.isDelivery,
      Event.isReschedule, Event.isDeath, Event.isStale]

theorem tally_claims {added : List Note} (h : ∀ note ∈ added, note.event.isClaim = true) :
    tally added = ⟨added.length, 0, 0, 0, 0⟩ := by
  have hother : ∀ p : Event → Bool, (∀ e, e.isClaim = true → p e = false) →
      added.countP (fun note => p note.event) = 0 := by
    intro p hp
    rw [List.countP_eq_zero]
    intro note hmem
    simp [hp note.event (h note hmem)]
  have hclaim : ∀ e : Event, e.isClaim = true →
      e.isDelivery = false ∧ e.isReschedule = false ∧ e.isDeath = false ∧ e.isStale = false := by
    intro e he
    cases e with
    | stale claimId => simp [Event.isClaim] at he
    | acted action => cases action <;> simp_all [Event.isClaim, Event.isDelivery,
        Event.isReschedule, Event.isDeath, Event.isStale]
  unfold tally
  congr 1
  · exact List.countP_eq_length.mpr fun note hmem => h note hmem
  · exact hother Event.isDelivery fun e he => (hclaim e he).1
  · exact hother Event.isReschedule fun e he => (hclaim e he).2.1
  · exact hother Event.isDeath fun e he => (hclaim e he).2.2.1
  · exact hother Event.isStale fun e he => (hclaim e he).2.2.2

end Tallies

theorem own_append (t : ℕ) (log notes : List Note) : own t (log ++ notes) = own t log ++ own t notes :=
  List.filter_append _ _

theorem own_eq_self {t : ℕ} {notes : List Note} (h : ∀ note ∈ notes, note.client = t) :
    own t notes = notes := by
  apply List.filter_eq_self.mpr
  intro note hmem
  simpa using h note hmem

theorem own_eq_nil {t u : ℕ} {notes : List Note} (h : ∀ note ∈ notes, note.client = t)
    (hu : u ≠ t) : own u notes = [] := by
  apply List.filter_eq_nil_iff.mpr
  intro note hmem
  simpa [h note hmem] using Ne.symm hu

namespace World

variable {w w' w'' : World D} {t : ℕ} {f : OutboxRow D → OutboxRow D} {notes : List Note}

/-- A claim id that has been given out stays with its row and the attempts of the row, until the
row loses it. -/
structure Follows (w w' : World D) : Prop where
  issued : ∀ claimId ∈ w.issued, claimId ∈ w'.issued
  held : ∀ claimId ∈ w.issued, ∀ row' ∈ w'.table.rows, row'.claimId = some claimId →
    ∃ row ∈ w.table.rows, row.claimId = some claimId ∧ row.id = row'.id ∧
      row.attemptCount = row'.attemptCount

theorem Follows.refl (w : World D) : w.Follows w where
  issued := fun _ h => h
  held := fun _ _ row hrow hclaim => ⟨row, hrow, hclaim, rfl, rfl⟩

theorem Follows.trans (h : w.Follows w') (h' : w'.Follows w'') : w.Follows w'' where
  issued := fun claimId hmem => h'.issued claimId (h.issued claimId hmem)
  held := by
    intro claimId hmem row'' hrow'' hclaim
    obtain ⟨row', hrow', hclaim', hid', hcount'⟩ :=
      h'.held claimId (h.issued claimId hmem) row'' hrow'' hclaim
    obtain ⟨row, hrow, hclaim, hid, hcount⟩ := h.held claimId hmem row' hrow' hclaim'
    exact ⟨row, hrow, hclaim, hid.trans hid', hcount.trans hcount'⟩

theorem Advance.follows (h : Advance t f notes w w') : w.Follows w' where
  issued := by
    intro claimId hmem
    rw [h.issued]
    exact List.mem_append_left _ hmem
  held := by
    intro claimId hmem row' hrow' hclaim
    rw [h.rows] at hrow'
    obtain ⟨row, hrow, rfl⟩ := List.mem_map.mp hrow'
    have hrun := h.act row hrow
    have hnew : claimId ∉ claims (history notes row.id) := by
      intro hgiven
      exact h.fresh claimId ((claims_sublist notes row.id).subset hgiven) hmem
    by_cases hsame : row.entry.token = some claimId ∧ history notes row.id = []
    · rw [hsame.2] at hrun
      have hentry : row.entry = (f row).entry := Option.some.inj hrun
      exact ⟨row, hrow, hsame.1, (h.id row).symm, congrArg Entry.attempts hentry⟩
    · exfalso
      rw [not_and_or] at hsame
      exact Entry.token_lost hrun hnew hsame hclaim

/-- The claim ids in the table have been given out. -/
def Known (w : World D) : Prop :=
  ∀ row ∈ w.table.rows, ∀ claimId, row.claimId = some claimId → claimId ∈ w.issued

theorem start_known (table : OutboxTable D) : (start table).Known :=
  fun row hrow _ hclaim => List.mem_filterMap.mpr ⟨row, hrow, hclaim⟩

theorem Advance.known (h : Advance t f notes w w') (hknown : w.Known) : w'.Known := by
  intro row' hrow' claimId hclaim
  rw [h.rows] at hrow'
  obtain ⟨row, hrow, rfl⟩ := List.mem_map.mp hrow'
  rw [h.issued, List.mem_append]
  by_cases hgiven : claimId ∈ claims (history notes row.id)
  · exact .inr ((claims_sublist notes row.id).subset hgiven)
  · left
    by_contra hnew
    have hbefore : row.entry.token ≠ some claimId := fun heq => hnew (hknown row hrow claimId heq)
    exact Entry.token_lost (h.act row hrow) hgiven (.inl hbefore) hclaim

theorem Advance.own_self (h : Advance t f notes w w') : own t w'.log = own t w.log ++ notes := by
  rw [h.log, own_append, own_eq_self h.client]

theorem Advance.own_other (h : Advance t f notes w w') {u : ℕ} (hu : u ≠ t) :
    own u w'.log = own u w.log := by
  rw [h.log, own_append, own_eq_nil h.client hu, List.append_nil]

end World

/-! ## The contract -/

/-- Which attempts a client reschedules, and whether it redrives. -/
structure Licence (ι : Type) where
  reschedule : ι → ℕ → Prop
  redrive : ι → Prop

/-- A command keeps to the licence of its client. -/
structure Allowed (licence : Licence ι) (i : ι) (c : Command Q) (w : World D) : Prop where
  reschedule : ∀ outboxId claimId availableAt errorCode,
    c = .markFailed outboxId claimId availableAt errorCode none →
    ∀ row ∈ w.table.rows, row.heldUnder outboxId claimId = true →
      licence.reschedule i row.attemptCount
  redrive : ∀ outboxId availableAt, c = .redriveDeadLetter outboxId availableAt → licence.redrive i

/-- Each client leaves the others their claims and what they did, and ends with a value that its
own notes bear out. -/
def contract (licence : Licence ι) (post : ι → α → List Note → Prop) :
    Contract ι (Command Q) α (World D) where
  inv := World.Known
  unborn := fun t w => own t w.log = []
  rely := fun t w w' => w.Follows w' ∧ own t w'.log = own t w.log
  guar := fun t i c w w' =>
    w.Follows w' ∧ w'.Known ∧ (∀ u, u ≠ t → own u w'.log = own u w.log) ∧ Allowed licence i c w
  post := fun t i v w => post i v (own t w.log)

section Contract

variable {licence : Licence ι} {post : ι → α → List Note → Prop}

theorem contract_sound :
    (contract licence post : Contract ι (Command Q) α (World D)).Sound where
  rely_refl := fun _ w => ⟨World.Follows.refl w, rfl⟩
  rely_trans := fun _ _ _ _ h h' => ⟨h.1.trans h'.1, h'.2.trans h.2⟩
  guar_rely := fun _ u _ _ _ _ hne _ hg => ⟨hg.1, hg.2.2.1 u (Ne.symm hne)⟩
  guar_inv := fun _ _ _ _ _ _ hg => hg.2.1
  rely_unborn := fun _ _ _ hr hunborn => hr.2.trans hunborn

def Held (w : World D) (claimId outboxId : Uuid) (attempts : ℕ) : Prop :=
  claimId ∈ w.issued ∧ ∀ row ∈ w.table.rows, row.claimId = some claimId →
    row.id = outboxId ∧ row.attemptCount = attempts

/-- The client has added `notes` and can count on its `claims`. -/
structure At (t : ℕ) (notes : List Note) (claims : List (OutboxRow D)) (w : World D) : Prop where
  own : own t w.log = notes
  held : ∀ row ∈ claims, ∃ claimId, row.claimId = some claimId ∧
    Held w claimId row.id row.attemptCount

theorem Held.follows {w w' : World D} {claimId outboxId : Uuid} {attempts : ℕ}
    (h : Held w claimId outboxId attempts) (hfollows : w.Follows w') :
    Held w' claimId outboxId attempts := by
  refine ⟨hfollows.issued claimId h.1, ?_⟩
  intro row' hrow' hclaim
  obtain ⟨row, hrow, hclaim', hid, hcount⟩ := hfollows.held claimId h.1 row' hrow' hclaim
  obtain ⟨hid', hcount'⟩ := h.2 row hrow hclaim'
  exact ⟨hid.symm.trans hid', hcount.symm.trans hcount'⟩

theorem At.follows {t : ℕ} {notes notes' : List Note} {claims : List (OutboxRow D)}
    {w w' : World D} (h : At t notes claims w) (hfollows : w.Follows w')
    (hown : Delivery.own t w'.log = notes') : At t notes' claims w' where
  own := hown
  held := by
    intro row hrow
    obtain ⟨claimId, hclaim, hheld⟩ := h.held row hrow
    exact ⟨claimId, hclaim, hheld.follows hfollows⟩

/-- From every state in which the client has added `notes` and holds `claims`, its program meets
the contract and ends with a value that meets `R` of all its notes. -/
def Meets (code : ι → Client D J A α) (licence : Licence ι) (post : ι → α → List Note → Prop)
    (t : ℕ) (i : ι) (notes : List Note) (claims : List (OutboxRow D)) (p : Client D J A β)
    (R : β → List Note → List (OutboxRow D) → Prop) : Prop :=
  ∀ w, At t notes claims w → Safe (outboxMachine code) (contract licence post) t i
    (fun b w' => ∃ notes' claims', At t notes' claims' w' ∧ R b notes' claims') p w

variable {code : ι → Client D J A α} {t : ℕ} {i : ι} {notes : List Note}
  {claims : List (OutboxRow D)} {R : β → List Note → List (OutboxRow D) → Prop}

theorem Meets.done {b : β} (h : R b notes claims) :
    Meets code licence post t i notes claims (.done b) R := by
  intro w hat w' hrely _
  exact ⟨notes, claims, hat.follows hrely.1 (hrely.2.trans hat.own), h⟩

theorem Meets.bind {γ : Type} {p : Client D J A γ} {f : γ → Client D J A β}
    {R' : γ → List Note → List (OutboxRow D) → Prop}
    (h : Meets code licence post t i notes claims p R')
    (hf : ∀ c notes' claims', R' c notes' claims' →
      Meets code licence post t i notes' claims' (f c) R) :
    Meets code licence post t i notes claims (p >>= f) R := by
  intro w hat
  apply Safe.bind contract_sound
  apply (h w hat).weaken
  rintro c w' _ ⟨notes', claims', hat', hR⟩
  exact hf c notes' claims' hR w' hat'

theorem Meets.mono {p : Client D J A β} {R' : β → List Note → List (OutboxRow D) → Prop}
    (h : Meets code licence post t i notes claims p R)
    (hR : ∀ b notes' claims', R b notes' claims' → R' b notes' claims') :
    Meets code licence post t i notes claims p R' := by
  intro w hat
  apply (h w hat).weaken
  rintro b w' _ ⟨notes', claims', hat', hb⟩
  exact ⟨notes', claims', hat', hR b notes' claims' hb⟩

/-- A command from a state that the others may have moved on. -/
theorem Meets.call {c : Command Q} {k : Reply D J A c → Client D J A β}
    (h : ∀ w e r w', w.Known → At t notes claims w → exec e t c w = some (r, w') →
      Allowed licence i c w ∧
      ∃ notes' claims', At t notes' claims' w' ∧
        Meets code licence post t i notes' claims' (k r) R) :
    Meets code licence post t i notes claims (.call c k) R := by
  intro w hat w₁ e r w₂ hrely hknown hexec
  have hat₁ : At t notes claims w₁ := hat.follows hrely.1 (hrely.2.trans hat.own)
  obtain ⟨hallowed, notes', claims', hat₂, hmeets⟩ := h w₁ e r w₂ hknown hat₁ hexec
  obtain ⟨f, added, hadvance⟩ := exec_advance hexec
  exact ⟨⟨hadvance.follows, hadvance.known hknown, fun u hu => hadvance.own_other hu, hallowed⟩,
    hmeets w₂ hat₂⟩

theorem Meets.clock {k : ℤ → Client D J A β}
    (h : ∀ now, Meets code licence post t i notes claims (k now) R) :
    Meets code licence post t i notes claims (.call .clock k) R := by
  apply Meets.call
  intro w e r w' _ hat hexec
  cases hexec
  exact ⟨⟨fun _ _ _ _ heq => (by cases heq), fun _ _ heq => by cases heq⟩, notes, claims, hat,
    h e.now⟩

theorem Meets.ask {q : Q} {k : A q → Client D J A β}
    (h : ∀ r, Meets code licence post t i notes claims (k r) R) :
    Meets code licence post t i notes claims (.call (.ask q) k) R := by
  apply Meets.call
  intro w e r w' _ hat hexec
  cases hexec
  exact ⟨⟨fun _ _ _ _ heq => (by cases heq), fun _ _ heq => by cases heq⟩, notes, claims, hat,
    h (e.answer q)⟩

theorem Meets.markDelivered {outboxId claimId : Uuid} {deliveredAt : ℤ}
    {k : Bool → Client D J A β}
    (h : ∀ done, Meets code licence post t i (notes ++
      [World.settled t outboxId claimId (.finalised claimId .delivered) done]) claims (k done) R) :
    Meets code licence post t i notes claims
      (.call (.markDelivered outboxId claimId deliveredAt) k) R := by
  apply Meets.call
  intro w e r w' _ hat hexec
  obtain ⟨rfl, rfl⟩ := Prod.ext_iff.mp (Option.some.inj hexec)
  obtain ⟨f, hadvance⟩ := World.markDelivered_advance (w := w) (t := t) outboxId claimId deliveredAt
  refine ⟨⟨fun _ _ _ _ heq => (by cases heq), fun _ _ heq => by cases heq⟩, _, claims,
    hat.follows hadvance.follows ?_, h _⟩
  rw [← hat.own]
  exact hadvance.own_self

theorem Meets.markFailed {outboxId claimId : Uuid} {availableAt : ℤ} {errorCode : String}
    {deadLetteredAt : Option ℤ} {k : Bool → Client D J A β}
    (hlimit : deadLetteredAt = none →
      ∃ row ∈ claims, row.claimId = some claimId ∧ licence.reschedule i row.attemptCount)
    (h : ∀ done, Meets code licence post t i (notes ++
      [World.settled t outboxId claimId (World.failure claimId deadLetteredAt) done]) claims
      (k done) R) :
    Meets code licence post t i notes claims
      (.call (.markFailed outboxId claimId availableAt errorCode deadLetteredAt) k) R := by
  apply Meets.call
  intro w e r w' _ hat hexec
  obtain ⟨rfl, rfl⟩ := Prod.ext_iff.mp (Option.some.inj hexec)
  obtain ⟨f, hadvance⟩ := World.markFailed_advance (w := w) (t := t) outboxId claimId availableAt
    errorCode deadLetteredAt
  refine ⟨⟨?_, fun _ _ heq => by cases heq⟩, _, claims, hat.follows hadvance.follows ?_, h _⟩
  · intro _ _ _ _ heq row hrow hheld
    cases heq
    obtain ⟨claimed, hmem, hclaim, hbelow⟩ := hlimit rfl
    obtain ⟨claimId', hclaim', hheld'⟩ := hat.held claimed hmem
    obtain rfl : claimId = claimId' := Option.some.inj (hclaim.symm.trans hclaim')
    rw [(hheld'.2 row hrow (OutboxRow.heldUnder_iff.mp hheld).2.1).2]
    exact hbelow
  · rw [← hat.own]
    exact hadvance.own_self

theorem held_claims {w w' : World D} {now leaseTimeout : ℤ} {batchSize : ℕ}
    {locked : Uuid → Bool} {tie : Uuid → ℕ} {uuids : List Uuid} {rows : List (OutboxRow D)}
    (hknown : w.Known)
    (h : w.claim t now leaseTimeout batchSize locked tie uuids = some (rows, w')) :
    ∀ row ∈ rows, ∃ claimId, row.claimId = some claimId ∧
      Held w' claimId row.id row.attemptCount := by
  obtain ⟨assigned, hkeys, hvalues, hfresh, rfl, rfl⟩ := World.claim_cases h
  have hunique : (assigned.map Prod.fst).Nodup := hkeys ▸ World.nodup_select _ _ _ _ _ _
  intro row hrow
  obtain ⟨selected, hselected, rfl⟩ := List.mem_map.mp hrow
  have hkey : selected.id ∈ assigned.map Prod.fst := by
    rw [hkeys]
    exact List.mem_map_of_mem hselected
  obtain ⟨a, ha, hid⟩ := List.mem_map.mp hkey
  have hget : Table.get? Prod.fst assigned selected.id = some a := by
    rw [← hid]
    exact Table.get?_of_mem hunique ha
  have hrow : OutboxTable.claimRow now assigned selected = selected.claim now a.2 := by
    simp [OutboxTable.claimRow, hget]
  rw [hrow]
  refine ⟨a.2, rfl, List.mem_append_right _ (List.mem_map_of_mem ha), ?_⟩
  intro row' hrow' hclaim
  obtain ⟨other, hother, rfl⟩ := List.mem_map.mp hrow'
  -- another row with the claim id has it from the batch, so it is the same row
  have hsame : other = selected := by
    unfold OutboxTable.claimRow at hclaim
    cases hget' : Table.get? Prod.fst assigned other.id with
    | none =>
      rw [hget'] at hclaim
      exact absurd (hknown other hother a.2 hclaim) (hfresh a ha)
    | some b =>
      rw [hget'] at hclaim
      have hval : b.2 = a.2 := Option.some.inj hclaim
      have hb : b = a := List.inj_on_of_nodup_map hvalues (Table.mem_of_get? hget') ha hval
      have hkey' : other.id = selected.id := by
        rw [← Table.key_of_get? hget', hb, hid]
      exact List.inj_on_of_nodup_map w.table.nodup hother (World.mem_select hselected).1 hkey'
  rw [hsame, hrow]
  exact ⟨rfl, rfl⟩

theorem Meets.claimBatch {now leaseTimeout : ℤ} {batchSize : ℕ}
    {k : List (OutboxRow D × J) → Client D J A β}
    (h : ∀ (rows : List (OutboxRow D × J)) added, added.length = rows.length →
      (∀ note ∈ added, note.event.isClaim = true) →
      (∀ row ∈ rows, row.1.claimId.isSome) →
      Meets code licence post t i (notes ++ added) (claims ++ rows.map Prod.fst) (k rows) R) :
    Meets code licence post t i notes claims (.call (.claimBatch now leaseTimeout batchSize) k) R := by
  apply Meets.call
  intro w e r w' hknown hat hexec
  obtain ⟨⟨rows, after⟩, hclaim, heq⟩ := Option.map_eq_some_iff.mp hexec
  cases heq
  obtain ⟨assigned, _, hlength, f, hadvance⟩ := World.claim_advance hclaim
  have hheld := held_claims hknown hclaim
  have hfirst : (rows.map fun row => (row, e.joined row.id)).map Prod.fst = rows := by
    rw [List.map_map]
    exact List.map_id rows
  refine ⟨⟨fun _ _ _ _ heq => (by cases heq), fun _ _ heq => by cases heq⟩, _, _,
    ⟨hadvance.own_self.trans (by rw [hat.own]), ?_⟩,
    h (rows.map fun row => (row, e.joined row.id)) _ ?_ ?_ ?_⟩
  · intro row hrow
    rw [hfirst] at hrow
    rcases List.mem_append.mp hrow with hold | hnew
    · exact (hat.follows hadvance.follows rfl).held row hold
    · exact hheld row hnew
  · rw [List.length_map, List.length_map, hlength]
  · intro note hnote
    obtain ⟨a, _, rfl⟩ := List.mem_map.mp hnote
    rfl
  · intro row hrow
    obtain ⟨claimed, hclaimed, rfl⟩ := List.mem_map.mp hrow
    obtain ⟨claimId, hid, _⟩ := hheld claimed hclaimed
    simp [hid]

theorem Meets.redriveDeadLetter {outboxId : Uuid} {availableAt : ℤ}
    {k : Option (ℤ × ℕ) → Client D J A β} (hredrive : licence.redrive i)
    (h : ∀ r added, Meets code licence post t i (notes ++ added) claims (k r) R) :
    Meets code licence post t i notes claims (.call (.redriveDeadLetter outboxId availableAt) k) R := by
  apply Meets.call
  intro w e r w' _ hat hexec
  obtain ⟨f, added, hadvance⟩ := exec_advance hexec
  refine ⟨⟨fun _ _ _ _ heq => (by cases heq), fun _ _ _ => hredrive⟩, notes ++ added, claims,
    hat.follows hadvance.follows ?_, h r added⟩
  rw [hadvance.own_self, hat.own]

theorem implemented_of_meets
    (h : ∀ t i, Meets code licence post t i [] [] (code i) fun v notes _ => post i v notes) :
    (contract licence post).Implemented (outboxMachine code : Machine ι (Command Q) (Reply D J A) α
      (Chance J A) (World D)) := by
  intro t i w _ hunborn
  have hat : At t [] [] w := ⟨hunborn, fun _ hmem => absurd hmem List.not_mem_nil⟩
  apply (h t i w hat).weaken
  rintro v w' _ ⟨notes, claims, hat', hpost⟩
  change post i v (own t w'.log)
  rw [hat'.own]
  exact hpost

end Contract

end MaestroKernel.Delivery
