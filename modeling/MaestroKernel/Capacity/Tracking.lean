import MaestroKernel.Capacity.Leases

/-! # What the backends track

The in-memory backend tracks the ledger whatever happens. The Redis backend does as
long as no call finds a key expired that still holds an unexpired lease. -/

namespace MaestroKernel.Capacity

open Durable

/-! ## The in-memory backend -/

namespace InMemoryDomainCapacityBackend

variable {T : Type} {s : InMemoryDomainCapacityBackend T} {lease : Lease T} {id : String} {e : T}

def expiryOf (s : InMemoryDomainCapacityBackend T) (leaseId : String) : Option T :=
  (s.get? leaseId).map Lease.expiry

theorem get?_eq_some : s.get? id = some lease ↔ lease ∈ s.leases ∧ lease.leaseId = id := by
  constructor
  · intro h
    exact ⟨Table.mem_of_get? h, Table.key_of_get? h⟩
  · rintro ⟨hmem, rfl⟩
    exact Table.get?_of_mem s.nodup hmem

theorem expiryOf_eq_some :
    s.expiryOf id = some e ↔ ∃ lease ∈ s.leases, lease.leaseId = id ∧ lease.expiry = e := by
  unfold expiryOf
  rw [Option.map_eq_some_iff]
  constructor
  · rintro ⟨lease, hget, he⟩
    obtain ⟨hmem, hid⟩ := get?_eq_some.mp hget
    exact ⟨lease, hmem, hid, he⟩
  · rintro ⟨lease, hmem, hid, he⟩
    exact ⟨lease, get?_eq_some.mpr ⟨hmem, hid⟩, he⟩

theorem mem_set {other : Lease T} : other ∈ (s.set lease).leases ↔
    other = lease ∨ other ∈ s.leases ∧ other.leaseId ≠ lease.leaseId := Table.mem_upsert

theorem mem_filter {p : Lease T → Bool} :
    lease ∈ (s.filter p).leases ↔ lease ∈ s.leases ∧ p lease = true := List.mem_filter

variable [LinearOrder T]

/-- The dict has the unexpired leases of the ledger, each in its own domain. -/
structure Mirrors (R : Drawn) (s : InMemoryDomainCapacityBackend T) (now : T) (L : Ledger T) :
    Prop where
  domain : ∀ lease ∈ s.leases, lease.domain = R.domain lease.leaseId
  expiries : AgreesAfter now s.expiryOf L.score

theorem mem_cleanup {now : T} :
    lease ∈ (s.cleanup now).leases ↔ lease ∈ s.leases ∧ now < lease.expiry := by
  unfold cleanup
  rw [mem_filter]
  simp

theorem Mirrors.cleanup {R : Drawn} {now : T} {L : Ledger T} (h : Mirrors R s now L) :
    Mirrors R (s.cleanup now) now L where
  domain lease hmem := h.domain lease (mem_cleanup.mp hmem).1
  expiries := by
    refine AgreesAfter.trans ?_ h.expiries
    intro id e he
    simp only [expiryOf_eq_some]
    constructor
    · rintro ⟨lease, hmem, hid, hexpiry⟩
      exact ⟨lease, (mem_cleanup.mp hmem).1, hid, hexpiry⟩
    · rintro ⟨lease, hmem, hid, rfl⟩
      exact ⟨lease, mem_cleanup.mpr ⟨hmem, he⟩, hid, rfl⟩

theorem mem_ids_cleanup {now : T} : id ∈ (s.cleanup now).leases.map Lease.leaseId ↔
    ∃ e, (s.cleanup now).expiryOf id = some e ∧ now < e := by
  simp only [List.mem_map, expiryOf_eq_some]
  constructor
  · rintro ⟨lease, hmem, hid⟩
    exact ⟨lease.expiry, ⟨lease, hmem, hid, rfl⟩, (mem_cleanup.mp hmem).2⟩
  · rintro ⟨e, ⟨lease, hmem, hid, -⟩, -⟩
    exact ⟨lease, hmem, hid⟩

theorem Mirrors.globalUsed {R : Drawn} {now : T} {L : Ledger T} (h : Mirrors R s now L) :
    (s.cleanup now).leases.length = (L.live now).length := by
  have hlen := SortedSet.length_live_eq (p := fun _ => true) _ h.cleanup.expiries
    (s.cleanup now).nodup fun id => mem_ids_cleanup
  rwa [List.length_map, List.filter_true] at hlen

theorem Mirrors.domainUsed {R : Drawn} {now : T} {L : Ledger T} (h : Mirrors R s now L)
    (domain : String) :
    ((s.cleanup now).leases.filter fun lease => lease.domain = domain).length =
      (L.liveIn R now domain).length := by
  have hlen := SortedSet.length_live_eq (p := fun id => R.domain id = domain)
    (((s.cleanup now).leases.filter fun lease => lease.domain = domain).map Lease.leaseId)
    h.cleanup.expiries.restrict ((s.cleanup now).nodup.sublist (List.filter_sublist.map _)) ?_
  · rwa [List.length_map] at hlen
  · intro id
    simp only [List.mem_map, List.mem_filter, decide_eq_true_eq, restrict_eq_some]
    constructor
    · rintro ⟨lease, ⟨hmem, hdomain⟩, rfl⟩
      have hexpiry := expiryOf_eq_some.mpr ⟨lease, hmem, rfl, rfl⟩
      refine ⟨lease.expiry, ⟨hexpiry, ?_⟩, (mem_cleanup.mp hmem).2⟩
      rw [← h.cleanup.domain lease hmem, hdomain]
    · rintro ⟨e, ⟨hexpiry, hdomain⟩, -⟩
      obtain ⟨lease, hmem, rfl, -⟩ := expiryOf_eq_some.mp hexpiry
      exact ⟨lease, ⟨hmem, (h.cleanup.domain lease hmem).trans hdomain⟩, rfl⟩

theorem Mirrors.set {R : Drawn} {now : T} {L : Ledger T} (h : Mirrors R s now L) (lease : Lease T)
    (hdomain : lease.domain = R.domain lease.leaseId) :
    Mirrors R (s.set lease) now (L.zadd lease.leaseId lease.expiry) where
  domain other hmem := by
    rcases mem_set.mp hmem with rfl | ⟨hold, -⟩
    · exact hdomain
    · exact h.domain other hold
  expiries := by
    intro id e he
    rw [expiryOf_eq_some]
    by_cases hid : id = lease.leaseId
    · subst hid
      rw [SortedSet.score_zadd_self, Option.some.injEq]
      constructor
      · rintro ⟨other, hmem, hid, rfl⟩
        rcases mem_set.mp hmem with rfl | ⟨-, hne⟩
        · rfl
        · exact absurd hid hne
      · rintro rfl
        exact ⟨lease, mem_set.mpr (.inl rfl), rfl, rfl⟩
    · rw [SortedSet.score_zadd_of_ne L _ hid, ← h.expiries id e he, expiryOf_eq_some]
      constructor
      · rintro ⟨other, hmem, rfl, hexpiry⟩
        rcases mem_set.mp hmem with rfl | ⟨hold, -⟩
        · exact absurd rfl hid
        · exact ⟨other, hold, rfl, hexpiry⟩
      · rintro ⟨other, hmem, rfl, hexpiry⟩
        exact ⟨other, mem_set.mpr (.inr ⟨hmem, hid⟩), rfl, hexpiry⟩

theorem Mirrors.drop {R : Drawn} {now : T} {L : Ledger T} (h : Mirrors R s now L) (id : String) :
    Mirrors R (s.filter fun lease => lease.leaseId ≠ id) now (L.zrem [id]) where
  domain lease hmem := h.domain lease (mem_filter.mp hmem).1
  expiries := by
    intro id' e he
    rw [expiryOf_eq_some]
    by_cases hid : id' = id
    · subst hid
      rw [SortedSet.score_zrem_self]
      constructor
      · rintro ⟨lease, hmem, rfl, -⟩
        have hne := (mem_filter.mp hmem).2
        simp at hne
      · exact fun hn => absurd hn.symm (Option.some_ne_none e)
    · rw [SortedSet.score_zrem_of_ne L hid, ← h.expiries id' e he, expiryOf_eq_some]
      constructor
      · rintro ⟨lease, hmem, hrest⟩
        exact ⟨lease, (mem_filter.mp hmem).1, hrest⟩
      · rintro ⟨lease, hmem, rfl, hexpiry⟩
        exact ⟨lease, mem_filter.mpr ⟨hmem, by simpa using hid⟩, rfl, hexpiry⟩

theorem Mirrors.forget {R : Drawn} {now : T} {L : Ledger T} (h : Mirrors R s now L)
    (hid : id ∉ L.live now) : Mirrors R s now (L.zrem [id]) where
  domain := h.domain
  expiries := h.expiries.trans (SortedSet.agrees_zrem_expired hid)

variable [Add T]

theorem reserve_eq (reservation : DomainCapacityReservation)
    (globalLimit domainLimit emergencyReserve : ℕ) (leaseSeconds now : T)
    (s : InMemoryDomainCapacityBackend T) :
    reserve reservation globalLimit domainLimit emergencyReserve leaseSeconds now s =
      let decision := admission globalLimit domainLimit emergencyReserve
        (s.cleanup now).leases.length ((s.cleanup now).leases.filter fun lease =>
          lease.domain = reservation.domain).length reservation.priority
      (decision, if decision.admitted then (s.cleanup now).set ⟨reservation.leaseId,
        now + leaseSeconds, reservation.domain, reservation.priority⟩ else s.cleanup now) := by
  unfold reserve admission
  dsimp only
  split
  · rfl
  · split
    · rfl
    · split <;> rfl

theorem Mirrors.reserve {R : Drawn} {now : T} {L : Ledger T} (h : Mirrors R s now L) (id : String)
    (globalLimit domainLimit emergencyReserve : ℕ) (leaseSeconds : T) :
    let decision := admission globalLimit domainLimit emergencyReserve (L.live now).length
      (L.liveIn R now (R.domain id)).length (R.priority id)
    let after := reserve (R.reservation id) globalLimit domainLimit emergencyReserve leaseSeconds
      now s
    after.1 = decision ∧
      Mirrors R after.2 now (if decision.admitted then L.zadd id (now + leaseSeconds) else L) := by
  dsimp only
  rw [reserve_eq, h.globalUsed, h.domainUsed]
  refine ⟨rfl, ?_⟩
  dsimp only [Drawn.reservation]
  split
  · exact h.cleanup.set ⟨id, now + leaseSeconds, R.domain id, R.priority id⟩ rfl
  · exact h.cleanup

theorem Mirrors.renew {R : Drawn} {now : T} {L : Ledger T} (h : Mirrors R s now L) (id : String)
    (leaseSeconds : T) :
    let after := renew (R.reservation id) leaseSeconds now s
    after.1 = decide (id ∈ L.live now) ∧ Mirrors R after.2 now
      (if id ∈ L.live now then L.zadd id (now + leaseSeconds) else L.zrem [id]) := by
  have hlive : id ∈ L.live now ↔ ∃ lease, (s.cleanup now).get? id = some lease := by
    rw [SortedSet.mem_live, ← h.cleanup.expiries.live_iff, ← mem_ids_cleanup, List.mem_map]
    exact exists_congr fun lease => get?_eq_some.symm
  dsimp only [InMemoryDomainCapacityBackend.renew, Drawn.reservation]
  cases hget : (s.cleanup now).get? id with
  | none =>
    have hdead : id ∉ L.live now := fun hmem => by simp [hlive, hget] at hmem
    rw [if_neg hdead]
    exact ⟨(decide_eq_false hdead).symm, h.cleanup.forget hdead⟩
  | some current =>
    have hmem : id ∈ L.live now := hlive.mpr ⟨current, hget⟩
    obtain ⟨hcurrent, rfl⟩ := get?_eq_some.mp hget
    have hdomain := h.cleanup.domain current hcurrent
    dsimp only
    rw [if_pos hmem, if_neg (not_not_intro hdomain)]
    exact ⟨(decide_eq_true hmem).symm, h.cleanup.set
      ⟨current.leaseId, now + leaseSeconds, current.domain, current.priority⟩ hdomain⟩

def tracks (R : Drawn) : Tracks (memory T) R fun _ _ _ => True where
  rel := Mirrors R
  init _ := ⟨fun _ hmem => absurd hmem List.not_mem_nil, fun _ _ _ => .rfl⟩
  later h hle := ⟨h.domain, h.expiries.mono hle⟩
  reserve h _ := h.reserve _
  renew h _ := h.renew _
  release h _ := h.drop _

end InMemoryDomainCapacityBackend

/-! ## The Redis backend -/

namespace Redis

/-- The leases that a key holds. -/
def Key.counts (R : Drawn) : Key → String → Bool
  | .globalKey, _ => true
  | .domainKey domain, id => R.domain id = domain

def Reads (R : Drawn) (k : Stored) (key : Key) (now : ℕ) (L : Ledger ℕ) : Prop :=
  AgreesAfter now k.members.score (restrict (key.counts R) L.score)

theorem expired_iff {k : Stored} {now : ℕ} :
    k.expired now = true ↔ ∃ deadline, k.deadline = some deadline ∧ deadline < now := by
  simp [Stored.expired, Option.any_eq_true]

/-- Every key has the unexpired leases of the ledger that belong to it. -/
def Mirrors (R : Drawn) (s : Keyspace) (now : ℕ) (L : Ledger ℕ) : Prop :=
  ∀ key, Reads R (s key) key now L

/-- The key is not found expired while a lease in it is unexpired. -/
def Stored.Intact (k : Stored) (now : ℕ) : Prop :=
  ∀ deadline, k.deadline = some deadline → deadline < now → k.members.live now = []

instance decidableStoredIntact (k : Stored) (now : ℕ) : Decidable (k.Intact now) :=
  decidable_of_iff (k.expired now = false ∨ k.members.live now = []) (by
    unfold Stored.Intact
    constructor
    · rintro (h | h) deadline hdeadline hlt
      · rw [expired_iff.mpr ⟨deadline, hdeadline, hlt⟩] at h
        exact absurd h (by decide)
      · exact h
    · intro h
      cases hexpired : k.expired now with
      | false => exact .inl rfl
      | true =>
        obtain ⟨deadline, hdeadline, hlt⟩ := expired_iff.mp hexpired
        exact .inr (h deadline hdeadline hlt))

/-- Both keys that the call reads are intact. -/
def Intact (s : Keyspace) (now : ℕ) (reservation : DomainCapacityReservation) : Prop :=
  (s .globalKey).Intact now ∧ (s (.domainKey reservation.domain)).Intact now

instance decidableIntact (s : Keyspace) (now : ℕ) (reservation : DomainCapacityReservation) :
    Decidable (Intact s now reservation) :=
  inferInstanceAs (Decidable (_ ∧ _))

theorem intact_of_decide {s : Keyspace} {now : ℕ} {reservation : DomainCapacityReservation}
    (h : decide (Intact s now reservation) = true) : Intact s now reservation :=
  of_decide_eq_true h

theorem read_not_expired (s : Keyspace) (now : ℕ) (key : Key) :
    (s.read now key).expired now = false := by
  unfold Keyspace.read
  split
  · rfl
  · rename_i h
    simpa using h

theorem read_eq_self {s : Keyspace} {now : ℕ} {key : Key} (h : (s key).expired now = false) :
    s.read now key = s key := by
  unfold Keyspace.read
  rw [h]
  rfl

section Reads

variable {R : Drawn} {k : Stored} {s : Keyspace} {key other : Key} {now : ℕ} {L : Ledger ℕ}

theorem Reads.read (h : Reads R (s key) key now L) (hintact : (s key).Intact now) :
    Reads R (s.read now key) key now L := by
  cases hexpired : (s key).expired now with
  | false =>
    rw [read_eq_self hexpired]
    exact h
  | true =>
    obtain ⟨deadline, hdeadline, hlt⟩ := expired_iff.mp hexpired
    have hlive := hintact deadline hdeadline hlt
    refine AgreesAfter.trans ?_ h
    intro id e he
    unfold Keyspace.read
    rw [if_pos hexpired]
    constructor
    · exact fun hn => absurd hn.symm (Option.some_ne_none e)
    · intro hs
      have hmem := (SortedSet.mem_live _ now id).mpr ⟨e, hs, he⟩
      rw [hlive] at hmem
      exact absurd hmem List.not_mem_nil

theorem Reads.mem_live (h : Reads R k key now L) (id : String) :
    id ∈ k.members.live now ↔ id ∈ L.live now ∧ key.counts R id = true := by
  rw [SortedSet.mem_live, AgreesAfter.live_iff h, SortedSet.mem_live]
  simp only [restrict_eq_some]
  constructor
  · rintro ⟨e, ⟨hs, hp⟩, hlt⟩
    exact ⟨⟨e, hs, hlt⟩, hp⟩
  · rintro ⟨⟨e, hs, hlt⟩, hp⟩
    exact ⟨e, ⟨hs, hp⟩, hlt⟩

/-- The key has been written at `now`, and has its part of the ledger. -/
structure Written (R : Drawn) (s : Keyspace) (key : Key) (now : ℕ) (L : Ledger ℕ) : Prop where
  reads : Reads R (s key) key now L
  unexpired : (s key).expired now = false

theorem Written.read (h : Written R s key now L) : Reads R (s.read now key) key now L := by
  rw [read_eq_self h.unexpired]
  exact h.reads

theorem Written.update (h : Reads R k key now L) (hk : k.expired now = false) :
    Written R (Function.update s key k) key now L := by
  constructor
  · rwa [Function.update_self]
  · rwa [Function.update_self]

theorem Written.update_of_ne (h : Written R s key now L) (hne : key ≠ other) :
    Written R (Function.update s other k) key now L := by
  constructor
  · rw [Function.update_of_ne hne]
    exact h.reads
  · rw [Function.update_of_ne hne]
    exact h.unexpired

theorem read_update_of_ne (hne : key ≠ other) :
    Keyspace.read (Function.update s other k) now key = s.read now key := by
  unfold Keyspace.read
  rw [Function.update_of_ne hne]

theorem entries_of_card_eq_zero {z : SortedSet String ℕ} (h : z.card = 0) : z = .empty := by
  obtain ⟨entries, _, _⟩ := z
  obtain rfl : entries = [] := List.eq_nil_of_length_eq_zero h
  rfl

@[simp] theorem members_keep (k : Stored) (z : SortedSet String ℕ) :
    (k.keep z).members = z := by
  unfold Stored.keep
  split
  · rename_i h
    exact (entries_of_card_eq_zero h).symm
  · rfl

theorem keep_not_expired (h : k.expired now = false) (z : SortedSet String ℕ) :
    (k.keep z).expired now = false := by
  unfold Stored.keep
  split
  · rfl
  · exact h

/-! ### The commands -/

theorem written_zadd {id : String} (h : Reads R (s.read now key) key now L)
    (hid : key.counts R id = true) (score : ℕ) :
    Written R (s.zadd now key score id) key now (L.zadd id score) :=
  .update (SortedSet.agrees_zadd h hid score) (read_not_expired s now key)

theorem written_zrem (h : Reads R (s.read now key) key now L) (id : String) :
    Written R (s.zrem now key id) key now (L.zrem [id]) := by
  refine .update ?_ (keep_not_expired (read_not_expired s now key) _)
  unfold Reads
  rw [members_keep]
  exact SortedSet.agrees_zrem h id

theorem written_zremrangebyscore (h : Reads R (s.read now key) key now L) :
    Written R (s.zremrangebyscore now key now) key now L := by
  refine .update ?_ (keep_not_expired (read_not_expired s now key) _)
  unfold Reads
  rw [members_keep]
  exact (SortedSet.agrees_zrem_rangeByScore _ now).trans h

theorem written_expire (h : Reads R (s.read now key) key now L) (ttl : ℕ) :
    Written R (s.expire now key ttl) key now L := by
  refine .update ?_ ?_
  · unfold Reads
    split
    · rename_i hcard
      unfold Reads at h
      rwa [entries_of_card_eq_zero hcard] at h
    · exact h
  · split
    · rfl
    · simp [Stored.expired]

theorem zcard_zremrangebyscore (h : Reads R (s.read now key) key now L) :
    (s.zremrangebyscore now key now).zcard now key =
      ((L.live now).filter (key.counts R)).length := by
  have hread := read_eq_self (written_zremrangebyscore h).unexpired
  unfold Keyspace.zcard
  rw [hread]
  unfold Keyspace.zremrangebyscore
  rw [Function.update_self, members_keep, SortedSet.card_zrem_rangeByScore]
  exact SortedSet.length_live_eq _ h (SortedSet.nodup_live _ now)
    fun id => SortedSet.mem_live _ now id

end Reads

/-! ### The scripts -/

section Scripts

variable {R : Drawn} {s s' : Keyspace} {now : ℕ} {L L' : Ledger ℕ} {id : String}

theorem counts_domain (R : Drawn) (id : String) :
    (Key.domainKey (R.domain id)).counts R id = true := decide_eq_true rfl

/-- Both keys of a reservation show their part of the ledger. -/
structure Shows (R : Drawn) (s : Keyspace) (now : ℕ) (L : Ledger ℕ) (id : String) : Prop where
  mirrors : Mirrors R s now L
  ofGlobal : Reads R (s.read now .globalKey) .globalKey now L
  ofDomain : Reads R (s.read now (.domainKey (R.domain id))) (.domainKey (R.domain id)) now L

theorem Mirrors.shows (h : Mirrors R s now L) (hintact : Intact s now (R.reservation id)) :
    Shows R s now L id :=
  ⟨h, (h _).read hintact.1, (h _).read hintact.2⟩

/-- The keys of a reservation are written, the others hold nothing of it. -/
theorem Shows.of_written (h : Shows R s now L id) (hglobal : Written R s' .globalKey now L')
    (hdomain : Written R s' (.domainKey (R.domain id)) now L')
    (hothers : ∀ key, key ≠ .globalKey → key ≠ .domainKey (R.domain id) → s' key = s key)
    (hledger : ∀ {k : Stored} {key : Key}, key.counts R id = false → Reads R k key now L →
      Reads R k key now L') : Shows R s' now L' id := by
  refine ⟨fun key => ?_, hglobal.read, hdomain.read⟩
  by_cases hg : key = .globalKey
  · subst hg
    exact hglobal.reads
  · by_cases hd : key = .domainKey (R.domain id)
    · subst hd
      exact hdomain.reads
    · rw [hothers key hg hd]
      refine hledger ?_ (h.mirrors key)
      cases key with
      | globalKey => exact absurd rfl hg
      | domainKey domain => exact decide_eq_false fun he => hd (by rw [he])

/-- `ZREM` under both keys. -/
theorem Shows.zrem (h : Shows R s now L id) :
    Shows R ((s.zrem now .globalKey id).zrem now (.domainKey (R.domain id)) id) now
      (L.zrem [id]) id := by
  refine h.of_written ?_ ?_ ?_ fun hp hr => SortedSet.agrees_zrem_outside hr hp
  · exact (written_zrem h.ofGlobal id).update_of_ne (by simp)
  · refine written_zrem ?_ id
    rw [Keyspace.zrem, read_update_of_ne (by simp)]
    exact h.ofDomain
  · intro key hg hd
    rw [Keyspace.zrem, Function.update_of_ne hd, Keyspace.zrem, Function.update_of_ne hg]

/-- `ZADD` under both keys. -/
theorem Shows.zadd (h : Shows R s now L id) (score : ℕ) :
    Shows R ((s.zadd now .globalKey score id).zadd now (.domainKey (R.domain id)) score id) now
      (L.zadd id score) id := by
  refine h.of_written ?_ ?_ ?_ fun hp hr => SortedSet.agrees_zadd_outside hr hp score
  · exact (written_zadd h.ofGlobal rfl score).update_of_ne (by simp)
  · refine written_zadd ?_ (counts_domain R id) score
    rw [Keyspace.zadd, read_update_of_ne (by simp)]
    exact h.ofDomain
  · intro key hg hd
    rw [Keyspace.zadd, Function.update_of_ne hd, Keyspace.zadd, Function.update_of_ne hg]

/-- `EXPIRE` under both keys. -/
theorem Shows.expire (h : Shows R s now L id) (ttl : ℕ) :
    Shows R ((s.expire now .globalKey ttl).expire now (.domainKey (R.domain id)) ttl) now L id := by
  refine h.of_written ?_ ?_ ?_ fun _ hr => hr
  · exact (written_expire h.ofGlobal ttl).update_of_ne (by simp)
  · refine written_expire ?_ ttl
    rw [Keyspace.expire, read_update_of_ne (by simp)]
    exact h.ofDomain
  · intro key hg hd
    rw [Keyspace.expire, Function.update_of_ne hd, Keyspace.expire, Function.update_of_ne hg]

/-- Both keys after the expired leases have been removed from them. -/
def purged (s : Keyspace) (now : ℕ) (domain : String) : Keyspace :=
  (s.zremrangebyscore now .globalKey now).zremrangebyscore now (.domainKey domain) now

theorem Shows.purged (h : Shows R s now L id) : Shows R (purged s now (R.domain id)) now L id := by
  refine h.of_written ?_ ?_ ?_ fun _ hr => hr
  · exact (written_zremrangebyscore h.ofGlobal).update_of_ne (by simp)
  · refine written_zremrangebyscore ?_
    rw [Keyspace.zremrangebyscore, read_update_of_ne (by simp)]
    exact h.ofDomain
  · intro key hg hd
    rw [Redis.purged, Keyspace.zremrangebyscore, Function.update_of_ne hd,
      Keyspace.zremrangebyscore, Function.update_of_ne hg]

/-- The two counts of `reserve` are those of the ledger. -/
theorem Shows.used (h : Shows R s now L id) :
    (Redis.purged s now (R.domain id)).zcard now .globalKey = (L.live now).length ∧
      (Redis.purged s now (R.domain id)).zcard now (.domainKey (R.domain id)) =
        (L.liveIn R now (R.domain id)).length := by
  constructor
  · have hcard := zcard_zremrangebyscore h.ofGlobal
    rw [show (L.live now).filter (Key.globalKey.counts R) = L.live now from List.filter_true _]
      at hcard
    rw [← hcard]
    unfold Keyspace.zcard Redis.purged
    rw [Keyspace.zremrangebyscore, read_update_of_ne (by simp)]
  · refine zcard_zremrangebyscore ?_
    rw [Keyspace.zremrangebyscore, read_update_of_ne (by simp)]
    exact h.ofDomain

/-! ### The methods -/

theorem renew_eq (reservation : DomainCapacityReservation) (leaseSeconds : ℚ) (now : ℕ)
    (s : Keyspace) : renew reservation leaseSeconds now s =
      if (s.zscore now .globalKey reservation.leaseId).all (fun e => e ≤ now) ∨
          (s.zscore now (.domainKey reservation.domain) reservation.leaseId).all (fun e => e ≤ now)
      then (false, (s.zrem now .globalKey reservation.leaseId).zrem now
        (.domainKey reservation.domain) reservation.leaseId)
      else (true, (s.zadd now .globalKey (now + leaseMs leaseSeconds) reservation.leaseId).zadd now
        (.domainKey reservation.domain) (now + leaseMs leaseSeconds) reservation.leaseId) := by
  unfold renew renewScript
  dsimp only
  split <;> rfl

theorem not_all_le {o : Option ℕ} :
    ¬ o.all (fun e => e ≤ now) = true ↔ ∃ e, o = some e ∧ now < e := by
  cases o with
  | none => simp
  | some e => simp

theorem Shows.renew (h : Shows R s now L id) (leaseSeconds : ℚ) :
    let after := renew (R.reservation id) leaseSeconds now s
    after.1 = decide (id ∈ L.live now) ∧ Mirrors R after.2 now
      (if id ∈ L.live now then L.zadd id (now + leaseMs leaseSeconds) else L.zrem [id]) := by
  have hlive : id ∈ L.live now ↔ ¬ ((s.zscore now .globalKey id).all (fun e => e ≤ now) = true ∨
      (s.zscore now (.domainKey (R.domain id)) id).all (fun e => e ≤ now) = true) := by
    rw [not_or, not_all_le, not_all_le]
    have hg := h.ofGlobal.mem_live id
    have hd := h.ofDomain.mem_live id
    rw [SortedSet.mem_live] at hg hd
    constructor
    · intro hmem
      exact ⟨hg.mpr ⟨hmem, rfl⟩, hd.mpr ⟨hmem, counts_domain R id⟩⟩
    · rintro ⟨hscore, -⟩
      exact (hg.mp hscore).1
  have heq := renew_eq (R.reservation id) leaseSeconds now s
  dsimp only
  by_cases hmem : id ∈ L.live now
  · rw [if_neg (hlive.mp hmem)] at heq
    rw [heq, if_pos hmem]
    exact ⟨(decide_eq_true hmem).symm, (h.zadd _).mirrors⟩
  · rw [if_pos (not_not.mp fun hn => hmem (hlive.mpr hn))] at heq
    rw [heq, if_neg hmem]
    exact ⟨(decide_eq_false hmem).symm, h.zrem.mirrors⟩

theorem reserve_eq (reservation : DomainCapacityReservation)
    (globalLimit domainLimit emergencyReserve : ℕ) (leaseSeconds : ℚ) (now : ℕ) (s : Keyspace) :
    reserve reservation globalLimit domainLimit emergencyReserve leaseSeconds now s =
      let key := Key.domainKey reservation.domain
      let s := purged s now reservation.domain
      let decision := admission globalLimit domainLimit emergencyReserve
        (s.zcard now .globalKey) (s.zcard now key) reservation.priority
      let expiry := now + leaseMs leaseSeconds
      let ttl := max ((leaseMs leaseSeconds + 999) / 1000 * 2) 10
      (decision, if decision.admitted then
        (((s.zadd now .globalKey expiry reservation.leaseId).zadd now key expiry
          reservation.leaseId).expire now .globalKey ttl).expire now key ttl
        else s) := by
  have hpriority : (if reservation.priority = .emergency then 1 else 0) = 0 ↔
      reservation.priority ≠ .emergency := by
    split <;> simp_all
  unfold reserve reserveScript admission purged
  simp only [hpriority]
  split
  · rfl
  · split
    · rfl
    · split <;> rfl

theorem Shows.reserve (h : Shows R s now L id)
    (globalLimit domainLimit emergencyReserve : ℕ) (leaseSeconds : ℚ) :
    let decision := admission globalLimit domainLimit emergencyReserve (L.live now).length
      (L.liveIn R now (R.domain id)).length (R.priority id)
    let after := reserve (R.reservation id) globalLimit domainLimit emergencyReserve leaseSeconds
      now s
    after.1 = decision ∧ Mirrors R after.2 now
      (if decision.admitted then L.zadd id (now + leaseMs leaseSeconds) else L) := by
  dsimp only
  rw [reserve_eq]
  dsimp only
  rw [h.used.1, h.used.2]
  refine ⟨rfl, ?_⟩
  split
  · exact ((h.purged.zadd _).expire _).mirrors
  · exact h.purged.mirrors

def tracks (R : Drawn) : Tracks redis R Intact where
  rel := Mirrors R
  init _ := fun _ _ e _ => ⟨fun hn => absurd hn.symm (Option.some_ne_none e),
    fun hs => absurd (restrict_eq_some.mp hs).1.symm (Option.some_ne_none e)⟩
  later h hle := fun key => (h key).mono hle
  reserve h hintact := (h.shows hintact).reserve
  renew h hintact := (h.shows hintact).renew
  release h hintact := (h.shows hintact).zrem.mirrors

end Scripts

end Redis

end MaestroKernel.Capacity
