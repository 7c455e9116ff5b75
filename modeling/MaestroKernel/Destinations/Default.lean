import MaestroKernel.Destinations.Service

/-! # The default destination

The constraints keep every run at one active default. They are checked after each update of a flush,
which sets the new default before it unsets the old one if its key is the smaller one. -/

namespace MaestroKernel.Destinations

open Durable (isBlank)
open Interaction RowLocks
open Market (strip)
open AdminMarketPaymentDestination (isActiveDefault)

/-- At most one destination is the active default, and a default is active. -/
structure Sound (db : schema.Database) : Prop where
  one_default : ∀ d ∈ db.1, ∀ d' ∈ db.1,
    isActiveDefault d = true → isActiveDefault d' = true → d = d'
  default_active : ∀ d ∈ db.1, d.isDefault = true → d.isActive = true ∧ d.status = .active

theorem sound (db : schema.Database) : Sound db where
  one_default := fun d hd d' hd' h h' =>
    List.inj_on_of_nodup_map db.2.id hd hd' (db.2.active_default d hd d' hd' h h')
  default_active := fun d hd h => (db.2.allowed d hd).default_requires_active h

/-- The destination is the default, and no other one is. -/
structure OnlyDefault (db : schema.Database) (id : Uuid) : Prop where
  is_default : ∃ d ∈ db.1, d.id = id ∧ isActiveDefault d = true
  only : ∀ d ∈ db.1, d.isDefault = true → d.id = id

/-! ## The constraints after an update -/

section Constraints

variable {rows : List AdminMarketPaymentDestination} {old new d : AdminMarketPaymentDestination}

/-- What `set_default` leaves of a row. -/
structure SameIdentity (old new : AdminMarketPaymentDestination) : Prop where
  id : new.id = old.id
  destination_ref : new.destinationRef = old.destinationRef
  create_idem_hash : new.creationIdempotencyKeyHash = old.creationIdempotencyKeyHash

theorem Valid.put (h : Valid rows) (hold : old ∈ rows) (hsame : SameIdentity old new)
    (hallowed : new.Allowed) (hdefault : isActiveDefault new = true →
      ∀ d ∈ rows, isActiveDefault d = true → d.id = new.id) :
    Valid (Table.put AdminMarketPaymentDestination.id rows new) where
  id := by
    rw [Table.map_key_put]
    exact h.id
  destination_ref := by
    rw [Table.map_put_of_agree h.id hold hsame.id hsame.destination_ref]
    exact h.destination_ref
  create_idem_hash := by
    rw [Table.filterMap_put_of_agree h.id hold hsame.id hsame.create_idem_hash]
    exact h.create_idem_hash
  allowed := Table.forall_put h.allowed hallowed
  active_default := by
    intro d hd d' hd' hactive hactive'
    rcases Table.mem_put_cases hd with rfl | ⟨hrow, -⟩
    · rcases Table.mem_put_cases hd' with rfl | ⟨hrow', -⟩
      · rfl
      · exact (hdefault hactive d' hrow' hactive').symm
    · rcases Table.mem_put_cases hd' with rfl | ⟨hrow', -⟩
      · exact hdefault hactive' d hrow hactive
      · exact h.active_default d hrow d' hrow' hactive hactive'

theorem allowed_unset (h : old.Allowed) (now : ℤ) :
    { old with isDefault := false, updatedAt := now : AdminMarketPaymentDestination }.Allowed where
  ciphertext := h.ciphertext
  masked := h.masked
  effective_window := h.effective_window
  active_status := h.active_status
  default_requires_active := fun hdefault => by cases hdefault
  validated_state := h.validated_state

theorem allowed_set (h : old.Allowed) (hactive : old.isActive = true) (now : ℤ) :
    { old with isDefault := true, updatedAt := now : AdminMarketPaymentDestination }.Allowed where
  ciphertext := h.ciphertext
  masked := h.masked
  effective_window := h.effective_window
  active_status := h.active_status
  default_requires_active := fun _ => ⟨hactive, h.active_status hactive⟩
  validated_state := h.validated_state

theorem isCurrentDefault_iff (h : d.Allowed) :
    isCurrentDefault d = true ↔ isActiveDefault d = true := by
  have hstatus := h.active_status
  simp only [isCurrentDefault, isActiveDefault, Bool.and_eq_true, decide_eq_true_eq]
  constructor
  · rintro ⟨⟨-, hactive⟩, hdefault⟩
    exact ⟨hactive, hdefault⟩
  · rintro ⟨hactive, hdefault⟩
    exact ⟨⟨hstatus hactive, hactive⟩, hdefault⟩

end Constraints

/-! ## The flush of `set_default` -/

section Flush

variable {db : schema.Database} {destination current : AdminMarketPaymentDestination} {now : ℤ}

/-- The destination as `set_default` writes it. -/
def asDefault (now : ℤ) (destination : AdminMarketPaymentDestination) :
    AdminMarketPaymentDestination :=
  { destination with isDefault := true, updatedAt := now }

def notDefault (now : ℤ) (current : AdminMarketPaymentDestination) :
    AdminMarketPaymentDestination :=
  { current with isDefault := false, updatedAt := now }

/-- Without another default, setting it succeeds. -/
theorem write_asDefault (now : ℤ) (hd : destination ∈ db.1) (hactive : destination.isActive = true)
    (hnone : ∀ d ∈ db.1, isActiveDefault d = true → d.id = destination.id) :
    ∃ db' : schema.Database, schema.write (.update (asDefault now destination)) db = some db' ∧
      OnlyDefault db' destination.id := by
  have hvalid :
      Valid (Table.put AdminMarketPaymentDestination.id db.1 (asDefault now destination)) :=
    db.2.put hd ⟨rfl, rfl, rfl⟩ (allowed_set (db.2.allowed _ hd) hactive now) fun _ => hnone
  refine ⟨⟨_, hvalid⟩, Schema.write_of_valid hvalid, ?_, ?_⟩
  · refine ⟨asDefault now destination, Table.mem_put_self hd rfl, rfl, ?_⟩
    simp [isActiveDefault, asDefault, hactive]
  · intro d hmem hdefault
    rcases Table.mem_put_cases hmem with rfl | ⟨hold, -⟩
    · rfl
    · have hd' := (db.2.allowed d hold).default_requires_active hdefault
      exact hnone d hold (by simp [isActiveDefault, hd'.1, hdefault])

theorem write_asDefault_refused (hd : destination ∈ db.1) (hactive : destination.isActive = true)
    (hcurrent : current ∈ db.1) (hdefault : isActiveDefault current = true)
    (hne : current.id ≠ destination.id) :
    schema.write (.update (asDefault now destination)) db = none := by
  apply Schema.write_of_not_valid
  intro hvalid
  have hset : asDefault now destination ∈
      Table.put AdminMarketPaymentDestination.id db.1 (asDefault now destination) :=
    Table.mem_put_self hd rfl
  have hkept : current ∈
      Table.put AdminMarketPaymentDestination.id db.1 (asDefault now destination) :=
    Table.mem_put_of_ne hcurrent hne
  have hactive' : isActiveDefault (asDefault now destination) = true := by
    simp [isActiveDefault, asDefault, hactive]
  exact hne (hvalid.active_default current hkept (asDefault now destination) hset hdefault hactive')

theorem write_notDefault (now : ℤ) (hcurrent : current ∈ db.1)
    (hdefault : isActiveDefault current = true) :
    ∃ db' : schema.Database, schema.write (.update (notDefault now current)) db = some db' ∧
      (∀ d ∈ db.1, d.id ≠ current.id → d ∈ db'.1) ∧
      ∀ d ∈ db'.1, isActiveDefault d ≠ true := by
  have hvalid :
      Valid (Table.put AdminMarketPaymentDestination.id db.1 (notDefault now current)) := by
    refine db.2.put hcurrent ⟨rfl, rfl, rfl⟩ (allowed_unset (db.2.allowed _ hcurrent) now) ?_
    simp [isActiveDefault, notDefault]
  refine ⟨⟨_, hvalid⟩, Schema.write_of_valid hvalid, ?_, ?_⟩
  · intro d hd hne
    exact Table.mem_put_of_ne hd hne
  · intro d hd hactive
    rcases Table.mem_put_cases hd with rfl | ⟨hold, hne⟩
    · simp [isActiveDefault, notDefault] at hactive
    · exact hne (db.2.active_default d hold current hcurrent hactive hdefault)

theorem updates_pair {a b : AdminMarketPaymentDestination} : updates [a, b] =
    if a.id ≤ b.id then [.update a, .update b] else [.update b, .update a] := by
  by_cases h : a.id ≤ b.id <;> simp [updates, h]

theorem unsetDefault_of_ne (h : current.id ≠ destination.id) :
    unsetDefault now destination (some current) = [notDefault now current] :=
  if_neg h

/-- What the flush of `set_default` does to the rows. -/
theorem flush_setDefault (hd : destination ∈ db.1) (hactive : destination.isActive = true)
    {current : Option AdminMarketPaymentDestination}
    (hcurrent : ∀ d ∈ current, d ∈ db.1 ∧ isActiveDefault d = true)
    (hfound : ∀ d ∈ db.1, isActiveDefault d = true → d ∈ current) :
    (∃ db' : schema.Database,
      schema.flush (updates (unsetDefault now destination current ++ [asDefault now destination]))
        db = some db' ∧ OnlyDefault db' destination.id) ∧
      (∀ d ∈ current, d.id ≤ destination.id) ∨
    schema.flush (updates (unsetDefault now destination current ++ [asDefault now destination]))
        db = none ∧ ∃ d ∈ current, destination.id < d.id := by
  have hsingle (hnone : ∀ d ∈ db.1, isActiveDefault d = true → d.id = destination.id) :
      ∃ db' : schema.Database, schema.flush (updates [asDefault now destination]) db = some db' ∧
        OnlyDefault db' destination.id := by
    obtain ⟨db', hwrite, honly⟩ := write_asDefault now hd hactive hnone
    refine ⟨db', ?_, honly⟩
    simp [updates, Schema.flush, hwrite]
  cases current with
  | none =>
    left
    refine ⟨hsingle ?_, by simp⟩
    intro d hmem hdefault
    cases hfound d hmem hdefault
  | some current =>
    obtain ⟨hmem, hdefault⟩ := hcurrent current rfl
    have hcases := Nat.lt_trichotomy current.id destination.id
    rcases hcases with hlt | heq | hgt
    · left
      obtain ⟨mid, hunset, hkept, hnone⟩ := write_notDefault now hmem hdefault
      have hd' : destination ∈ mid.1 := hkept destination hd (Nat.ne_of_gt hlt)
      obtain ⟨db', hset, honly⟩ := write_asDefault now hd' hactive fun d hrow h =>
        absurd h (hnone d hrow)
      have hsorted : updates (unsetDefault now destination (some current) ++
          [asDefault now destination]) =
          [.update (notDefault now current), .update (asDefault now destination)] := by
        rw [unsetDefault_of_ne hlt.ne, List.singleton_append, updates_pair]
        exact if_pos hlt.le
      refine ⟨⟨db', ?_, honly⟩, ?_⟩
      · simp [hsorted, Schema.flush, hunset, hset]
      · simp [hlt.le]
    · left
      have hself : unsetDefault now destination (some current) = [] := if_pos heq
      rw [hself]
      refine ⟨hsingle ?_, by simp [heq]⟩
      intro d hrow h
      obtain rfl := Option.some.inj (hfound d hrow h)
      exact heq
    · right
      have hsorted : updates (unsetDefault now destination (some current) ++
          [asDefault now destination]) =
          [.update (asDefault now destination), .update (notDefault now current)] := by
        rw [unsetDefault_of_ne hgt.ne', List.singleton_append, updates_pair]
        exact if_neg (Nat.not_le.mpr hgt)
      refine ⟨?_, by simp [hgt]⟩
      rw [hsorted, Schema.flush, write_asDefault_refused hd hactive hmem hdefault hgt.ne']
      rfl

end Flush

/-! ## `set_default` alone -/

section Alone

variable {text : Text} {e : Chance Answer} {t : ℕ} {w : World schema CommercialAuditRecord}

abbrev loneWork (text : Text) (e : Chance Answer) (t : ℕ) {α : Type} (p : DestinationWork α)
    (w : World schema CommercialAuditRecord) :
    Option (Except (Raised AdminMarketplaceError) α × World schema CommercialAuditRecord) :=
  lone (fun call => unitOfWork (body text call)) e t p w

theorem lone_authority {context : AdminMarketplaceAuthorityContext}
    (h : (evaluateAuthority context).1 = true) :
    loneWork text e t (requireAdminMarketplaceAuthority context) w = some (.ok (), w) := by
  obtain ⟨reasonCode, hauthority⟩ : ∃ reasonCode, evaluateAuthority context = (true, reasonCode) :=
    ⟨_, Prod.ext h rfl⟩
  unfold requireAdminMarketplaceAuthority
  rw [hauthority]
  exact (lone_bind_ok (lone_raiseIf rfl _)).trans (lone_raiseIf rfl _)

theorem lone_required {value : String} (h : isBlank value = false) (fieldName : String) :
    loneWork text e t (required value fieldName) w = some (.ok (strip value), w) := by
  unfold required
  exact lone_bind_ok (lone_raiseIf h _)

theorem lone_lockedRow (text : Text) (hfails : e.fails = false) (h : w.Alone t)
    (p : AdminMarketPaymentDestination → Bool) :
    loneWork text e t (lockedRow p) w =
      some (.ok (w.db.1.filter p).head?, w.acquire t (w.db.1.filter p)) := by
  unfold lockedRow
  exact lone_bind_ok (lone_forUpdate hfails h p)

theorem head?_filter {α : Type} {rows : List α} {p : α → Bool} {row : α} (hrow : row ∈ rows)
    (hp : p row = true) (hone : ∀ r ∈ rows, p r = true → r = row) :
    (rows.filter p).head? = some row := by
  cases hfilter : rows.filter p with
  | nil => exact absurd (hfilter ▸ List.mem_filter.mpr ⟨hrow, hp⟩) List.not_mem_nil
  | cons first rest =>
    have hmem : first ∈ rows.filter p := hfilter ▸ List.mem_cons_self
    obtain ⟨hfirst, hprop⟩ := List.mem_filter.mp hmem
    rw [List.head?_cons, hone first hfirst hprop]

theorem lone_lockedDestination (hfails : e.fails = false) (h : w.Alone t)
    {destination : AdminMarketPaymentDestination} {destinationRef : String}
    (hd : destination ∈ w.db.1)
    (href : destination.destinationRef = text.lower (strip destinationRef)) :
    ∃ w', loneWork text e t (lockedDestination text destinationRef) w = some (.ok destination, w') ∧
      w'.db = w.db ∧ w'.Alone t := by
  have hhead : (w.db.1.filter (byRef (text.lower (strip destinationRef)))).head? =
      some destination := by
    apply head?_filter hd
    · simp [byRef, href]
    · intro d hmem hsame
      apply List.inj_on_of_nodup_map w.db.2.destination_ref hmem hd
      rw [href]
      simpa [byRef] using hsame
  refine ⟨w.acquire t (w.db.1.filter (byRef (text.lower (strip destinationRef)))), ?_, rfl,
    h.acquire _⟩
  have hrow := lone_lockedRow text hfails h (byRef (text.lower (strip destinationRef)))
  rw [hhead] at hrow
  unfold lockedDestination
  exact lone_bind_ok hrow

theorem activeDefault_spec (db : schema.Database) :
    (∀ d ∈ (db.1.filter isCurrentDefault).head?, d ∈ db.1 ∧ isActiveDefault d = true) ∧
      ∀ d ∈ db.1, isActiveDefault d = true → d ∈ (db.1.filter isCurrentDefault).head? := by
  constructor
  · intro d hd
    obtain ⟨hmem, hcurrent⟩ := List.mem_filter.mp (List.mem_of_head? hd)
    exact ⟨hmem, (isCurrentDefault_iff (db.2.allowed d hmem)).mp hcurrent⟩
  · intro d hmem hdefault
    refine head?_filter hmem ((isCurrentDefault_iff (db.2.allowed d hmem)).mpr hdefault) ?_
    intro other hother hcurrent
    have hother' := (isCurrentDefault_iff (db.2.allowed other hother)).mp hcurrent
    exact (sound db).one_default other hother d hmem hother' hdefault

/-- Alone, `set_default` commits unless the default that it unsets has the larger key. -/
theorem lone_setDefault (hfails : e.fails = false) (h : w.Alone t)
    {authority : AdminMarketplaceAuthorityContext} {destinationRef correlationId : String}
    {destination : AdminMarketPaymentDestination}
    (hauthority : (evaluateAuthority authority).1 = true)
    (hcorrelation : isBlank correlationId = false) (hgiven : isBlank destinationRef = false)
    (href : destination.destinationRef = text.lower (strip (text.lower (strip destinationRef))))
    (hd : destination ∈ w.db.1) (hactive : destination.isActive = true) :
    (∃ answer w', loneWork text e t (setDefault text authority destinationRef correlationId) w =
        some (.ok answer, w') ∧ OnlyDefault w'.db destination.id) ∧
      (∀ d ∈ w.db.1, isActiveDefault d = true → d.id ≤ destination.id) ∨
    (∃ w', loneWork text e t (setDefault text authority destinationRef correlationId) w =
        some (.error .database, w')) ∧
      ∃ d ∈ w.db.1, isActiveDefault d = true ∧ destination.id < d.id := by
  obtain ⟨w₁, hlocked, hdb, halone⟩ := lone_lockedDestination hfails h hd href
  have hallowed : (decide (destination.status ≠ .active) || !destination.isActive) = false := by
    simp [hactive, (w.db.2.allowed _ hd).active_status hactive]
  have hcurrent := lone_lockedRow text hfails halone isCurrentDefault
  obtain ⟨hspec, hfound⟩ := activeDefault_spec w.db
  rw [hdb] at hcurrent
  have hrun : loneWork text e t (setDefault text authority destinationRef correlationId) w =
      loneWork text e t (do
        let current := (w.db.1.filter isCurrentDefault).head?
        if (current.any fun current => current.id = destination.id) && destination.isDefault then
          pure ⟨destination, "payment_destination_already_default"⟩
        else
          commit (updates (unsetDefault (e.answer .clock) destination current ++
            [asDefault (e.answer .clock) destination]))
            { auditModel authority .defaultSet destination.destinationRef
                "payment_destination_default_set" (strip correlationId)
                (some (stateProjection destination)) (asDefault (e.answer .clock) destination)
                (e.answer .clock) with previousDefaultPresent := some current.isSome }
          pure ⟨asDefault (e.answer .clock) destination, "payment_destination_default_set"⟩)
        (w₁.acquire t (w.db.1.filter isCurrentDefault)) := by
    unfold setDefault
    refine (lone_bind_ok (lone_authority hauthority)).trans ?_
    refine (lone_bind_ok (lone_required hgiven _)).trans ?_
    refine (lone_bind_ok (lone_required hcorrelation _)).trans ?_
    refine (lone_bind_ok (lone_ask Question.clock)).trans ?_
    refine (lone_bind_ok hlocked).trans ?_
    refine (lone_bind_ok (lone_raiseIf hallowed _)).trans ?_
    exact lone_bind_ok hcurrent
  rw [hrun]
  dsimp only
  generalize (w.db.1.filter isCurrentDefault).head? = current at hspec hfound
  split
  · -- the destination is the default already
    rename_i hset
    have hdefault : isActiveDefault destination = true := by
      rw [Bool.and_eq_true] at hset
      rw [isActiveDefault, hactive, hset.2]
      rfl
    have hone := (sound w.db).one_default
    refine .inl ⟨⟨_, _, rfl, ⟨destination, hdb ▸ hd, rfl, hdefault⟩, fun d hmem hd' => ?_⟩,
      fun d hmem hd' => (congrArg _ (hone d hmem destination hd hd' hdefault)).le⟩
    have hmem : d ∈ w.db.1 := hdb ▸ hmem
    have hrules := (sound w.db).default_active d hmem hd'
    have hactive' : isActiveDefault d = true := by
      rw [isActiveDefault, hrules.1, hd']
      rfl
    exact congrArg _ (hone d hmem destination hd hactive' hdefault)
  · have hsame : (w₁.acquire t (w.db.1.filter isCurrentDefault)).db = w.db := hdb
    rcases @flush_setDefault _ _ (e.answer .clock) hd hactive _ hspec hfound with
      ⟨⟨db', hflush, honly⟩, hle⟩ | ⟨hflush, current', hcurrent', hlt⟩
    · left
      rw [← hsame] at hflush
      refine ⟨⟨_, _, (lone_bind_ok (lone_commit hfails _ hflush)).trans rfl, honly⟩, ?_⟩
      intro d hmem hdefault
      exact hle d (hfound d hmem hdefault)
    · right
      rw [← hsame] at hflush
      obtain ⟨hmem, hdefault⟩ := hspec current' hcurrent'
      refine ⟨⟨(w₁.acquire t (w.db.1.filter isCurrentDefault)).release t, ?_⟩,
        current', hmem, hdefault, hlt⟩
      rw [loneWork, lone_bind, lone_commit_refused hfails _ hflush]
      rfl

/-- `call` asks to make a stored active destination the default, and may. -/
structure SetsActive (text : Text) (call : Call) (destination : AdminMarketPaymentDestination)
    (db : schema.Database) : Prop where
  op : ∃ destinationRef, call.op = .setDefault destinationRef ∧ isBlank destinationRef = false ∧
    destination.destinationRef = text.lower (strip (text.lower (strip destinationRef)))
  authorized : (evaluateAuthority call.authority).1 = true
  correlation_given : isBlank call.correlationId = false
  stored : destination ∈ db.1
  active : destination.isActive = true

/-- Alone, the call commits and leaves the destination as the only default. -/
def Sets (text : Text) (e : Chance Answer) (t : ℕ) (call : Call)
    (w : World schema CommercialAuditRecord) (id : Uuid) : Prop :=
  ∃ answer w', (destinationMachine text).solo e t ((destinationMachine text).code call) w =
    some (.ok answer, w') ∧ OnlyDefault w'.db id

theorem sets_iff {call : Call} {destination : AdminMarketPaymentDestination}
    (hfails : e.fails = false) (h : w.Alone t) (hcall : SetsActive text call destination w.db) :
    Sets text e t call w destination.id ↔
      ∀ d ∈ w.db.1, isActiveDefault d = true → d.id ≤ destination.id := by
  obtain ⟨destinationRef, hop, hgiven, href⟩ := hcall.op
  have hcode : (destinationMachine text).code call =
      unitOfWork (setDefault text call.authority destinationRef call.correlationId) := by
    simp only [destinationMachine, machine, body, hop]
  rw [Sets, hcode]
  rcases lone_setDefault hfails h hcall.authorized hcall.correlation_given hgiven href hcall.stored
    hcall.active with ⟨⟨answer, w', hrun, honly⟩, hle⟩ | ⟨⟨w', hrun⟩, d, hmem, hdefault, hlt⟩
  · exact iff_of_true ⟨answer, w'.release t, lone_unitOfWork hrun, honly⟩ hle
  · refine iff_of_false ?_ fun hle => Nat.not_le.mpr hlt (hle d hmem hdefault)
    rintro ⟨answer, w'', hset, -⟩
    have hrefused := lone_unitOfWork hrun
    cases hset.symm.trans hrefused

end Alone

/-- Whatever the interleaving, at most one destination is the active default, and a default is
active. `set_default` of an active destination, alone, makes it the only default if and only if no
active default has a larger key. -/
theorem one_default (text : Text) (db : schema.Database)
    {cfg : Config Call (Command Uuid AdminMarketPaymentDestination CommercialAuditRecord
      Question) (Reply Uuid AdminMarketPaymentDestination CommercialAuditRecord Answer)
      (Except (Raised AdminMarketplaceError) PaymentDestinationAdministrationResult)
      (World schema CommercialAuditRecord)}
    (_ : (destinationMachine text).Reaches (fun _ _ => True)
      (Machine.init (World.start CommercialAuditRecord db)) cfg) :
    Sound cfg.shared.db ∧
      ∀ e t call destination, e.fails = false → cfg.shared.Alone t →
        SetsActive text call destination cfg.shared.db →
        (Sets text e t call cfg.shared destination.id ↔
          ∀ d ∈ cfg.shared.db.1, isActiveDefault d = true → d.id ≤ destination.id) :=
  ⟨sound cfg.shared.db, fun _ _ _ _ hfails halone hcall => sets_iff hfails halone hcall⟩

namespace Sample

def text : Text where
  lower s := String.ofList (s.toList.map Char.toLower)
  upper s := String.ofList (s.toList.map Char.toUpper)
  isAlnum := Char.isAlphanum
  sha256 := id

def active (id : Uuid) (destinationRef : String) (isDefault : Bool) :
    AdminMarketPaymentDestination where
  id := id
  destinationRef := destinationRef
  displayName := "Main account"
  destinationType := .bankAccount
  institutionName := "Bank"
  accountHolderName := "Holder"
  identifierCiphertext := List.replicate 40 7
  identifierKeyVersion := "v1"
  maskedIdentifier := "****************1234"
  creationIdempotencyKeyHash := none
  status := .active
  validationMethod := some .structural
  validationReasonCode := some "structurally_validated"
  validatedAt := some 5
  isActive := true
  isDefault := isDefault
  effectiveAt := some 6
  expiresAt := none
  instructions := none
  createdAt := 4
  updatedAt := 6

/-- Two active destinations, of which the first one is the default. -/
def stored : schema.Database :=
  ⟨[active 1 "first" true, active 2 "second" false], by decide +kernel⟩

/-- The second one is the default. -/
def swapped : schema.Database :=
  ⟨[active 1 "first" false, active 2 "second" true], by decide +kernel⟩

def administrator : AdminMarketplaceAuthorityContext where
  userId := "user"
  sessionId := "session"
  platformAuthorities := ["platform_admin"]
  activePlatformAdmin := true
  recentMfaStepUp := true
  user_given := by decide
  session_given := by decide

def call (destinationRef : String) : Call :=
  ⟨administrator, "correlation", .setDefault destinationRef⟩

def surroundings : Chance Answer where
  answer
    | .clock => (9 : ℤ)
    | .id => (3 : ℕ)
    | .encrypt .. => ⟨List.replicate 40 7, "v1"⟩

theorem alone (t : ℕ) (db : schema.Database) :
    (World.start CommercialAuditRecord db).Alone t :=
  fun _ hforeign => hforeign.1 rfl

theorem setsActive {destinationRef : String} {destination : AdminMarketPaymentDestination}
    {db : schema.Database} (href : isBlank destinationRef = false)
    (hname : destination.destinationRef = text.lower (strip (text.lower (strip destinationRef))))
    (hstored : destination ∈ db.1) (hactive : destination.isActive = true) :
    SetsActive text (call destinationRef) destination db where
  op := ⟨destinationRef, rfl, href, hname⟩
  authorized := show (evaluateAuthority administrator).1 = true by decide
  correlation_given := show isBlank "correlation" = false by decide
  stored := hstored
  active := hactive

/-- The second destination replaces the first one. -/
theorem second_replaces_first :
    Sets text surroundings 0 (call "second") (World.start _ stored) 2 := by
  refine ((one_default text stored (.refl _)).2 surroundings 0 (call "second")
    (active 2 "second" false) rfl (alone 0 stored)
    (setsActive (by decide) (by decide +kernel) (by decide) rfl)).mpr ?_
  decide +kernel

/-- The first one does not replace the second one: the database raises, and nothing changes. -/
theorem first_refused :
    SetsActive text (call "first") (active 1 "first" false) swapped ∧
      ¬ Sets text surroundings 0 (call "first") (World.start _ swapped) 1 ∧
      ((destinationMachine text).solo surroundings 0 ((destinationMachine text).code (call "first"))
        (World.start _ swapped)).map (fun run => (run.1, run.2.db.1)) =
        some (.error .database, swapped.1) := by
  refine ⟨setsActive (by decide) (by decide +kernel) (by decide) rfl, ?_, by decide +kernel⟩
  rintro ⟨answer, w', hrun, -⟩
  have hends : ((destinationMachine text).solo surroundings 0
      ((destinationMachine text).code (call "first")) (World.start _ swapped)).map
      (fun run => run.1.isOk) = some false := by
    decide +kernel
  rw [hrun] at hends
  cases hends

end Sample

end MaestroKernel.Destinations
