import MaestroKernel.Capacity.Mirror

/-! # Calls and their limits

A call comes at a reading of the clock, and both backends serve it. What either backend holds,
expired leases included, stays within the limits, and each script changes the two keys of a scope
alike. -/

namespace MaestroKernel.Capacity.Runtime

inductive Call where
  | reserve (r : CapacityReservation)
  | renew (r : CapacityReservation)
  | release (r : CapacityReservation)

def Call.reservation : Call → CapacityReservation
  | reserve r => r
  | renew r => r
  | release r => r

/-- A call at a reading of the clock. -/
structure Timed where
  now : ℚ
  call : Call

/-- What the caller learns of the request. -/
inductive Answer where
  | reserved (admitted : Bool) (reason : String)
  | renewed (kept : Bool)
  | released
deriving DecidableEq

def InMemoryCapacityBackend.serve (P : CapacityPolicy) (t : Timed) (s : InMemoryCapacityBackend) :
    Answer × InMemoryCapacityBackend :=
  match t.call with
  | .reserve r =>
    let (decision, s) := s.reserve P r t.now
    (.reserved decision.admitted decision.reason, s)
  | .renew r =>
    let (kept, s) := s.renew P r t.now
    (.renewed kept, s)
  | .release r => (.released, s.release r)

def RedisCapacityBackend.serve (P : CapacityPolicy) (t : Timed) (s : Keyspace) :
    Answer × Keyspace :=
  match t.call with
  | .reserve r =>
    let (decision, s) := RedisCapacityBackend.reserve P r t.now s
    (.reserved decision.admitted decision.reason, s)
  | .renew r =>
    let (kept, s) := RedisCapacityBackend.renew P r t.now s
    (.renewed kept, s)
  | .release r => (.released, RedisCapacityBackend.release r t.now s)

structure Backends where
  memory : InMemoryCapacityBackend
  redis : Keyspace

namespace Backends

def start : Backends := ⟨.empty, fun _ => .absent⟩

def serve (P : CapacityPolicy) (t : Timed) (s : Backends) : (Answer × Answer) × Backends :=
  let (inMemory, memory) := s.memory.serve P t
  let (inRedis, redis) := RedisCapacityBackend.serve P t s.redis
  ((inMemory, inRedis), ⟨memory, redis⟩)

def run (P : CapacityPolicy) : List Timed → Backends → List (Answer × Answer) × Backends
  | [], s => ([], s)
  | t :: calls, s =>
    let (answers, s') := s.serve P t
    let (rest, final) := run P calls s'
    (answers :: rest, final)

end Backends

def InMemoryCapacityBackend.unexpired (s : InMemoryCapacityBackend) (now : ℚ) (p : Lease → Bool) :
    ℤ :=
  (((s.leases.filter fun lease => now < lease.expiry).filter p).map Lease.weight).sum

def Cell.unexpired (c : Cell) (now : ℤ) : ℤ :=
  (((c.read now).weights.value.rows.filter
    fun row => (c.zscore now row.1).any fun expiry => now < expiry).map Prod.snd).sum

/-- At the reading no limit is exceeded, and the keys of each scope hold the same lease ids. -/
structure Backends.Safe (P : CapacityPolicy) (s : Backends) (now : ℚ) : Prop where
  memory_global : s.memory.unexpired now (fun _ => true) ≤ P.globalLimitOcu
  memory_actor : ∀ actor, s.memory.unexpired now (fun lease => lease.actorKey = some actor) ≤
    P.actorLimitOcu
  redis_global : (s.redis .allLeases).unexpired (milliseconds now) ≤ P.globalLimitOcu
  redis_actor : ∀ actor,
    (s.redis (actorScope (some actor))).unexpired (milliseconds now) ≤ P.actorLimitOcu
  paired : ∀ scope id, ((s.redis scope).zscore (milliseconds now) id).isSome =
    ((s.redis scope).hget (milliseconds now) id).isSome

/-! ## Limits of the in-memory table -/

namespace InMemoryCapacityBackend

variable {P : CapacityPolicy} {s : InMemoryCapacityBackend} {now later : ℚ}
  {r : CapacityReservation} {p q : Lease → Bool} {lease : Lease}

/-- The weight of the leases that meet `p`. -/
def weightOf (s : InMemoryCapacityBackend) (p : Lease → Bool) : ℤ :=
  ((s.leases.filter p).map Lease.weight).sum

theorem globalUsed_eq : s.globalUsed = s.weightOf fun _ => true := by
  simp [globalUsed, weightOf]

theorem actorUsed_eq (actor : String) :
    s.actorUsed (some actor) = s.weightOf fun lease => lease.actorKey = some actor := rfl

/-- No limit is exceeded by the table, expired leases included. -/
structure Bounded (P : CapacityPolicy) (s : InMemoryCapacityBackend) : Prop where
  nonneg : ∀ lease ∈ s.leases, 0 ≤ lease.weight
  global_le : s.weightOf (fun _ => true) ≤ P.globalLimitOcu
  actor_le : ∀ actor, s.weightOf (fun lease => lease.actorKey = some actor) ≤ P.actorLimitOcu

theorem empty_bounded : empty.Bounded P where
  nonneg := by simp [empty]
  global_le := by
    have := P.global_pos
    simp only [empty, weightOf, List.filter_nil, List.map_nil, List.sum_nil]
    omega
  actor_le := by
    have := P.actor_pos
    simp only [empty, weightOf, List.filter_nil, List.map_nil, List.sum_nil]
    omega

theorem sum_weights_le {leases table : List Lease} (hsub : leases.Sublist table)
    (hnonneg : ∀ lease ∈ table, 0 ≤ lease.weight) :
    (leases.map Lease.weight).sum ≤ (table.map Lease.weight).sum := by
  apply List.Sublist.sum_le_sum (hsub.map _)
  intro w hw
  obtain ⟨lease, hmem, rfl⟩ := List.mem_map.mp hw
  exact hnonneg lease hmem

theorem weightOf_filter_le (hnonneg : ∀ lease ∈ s.leases, 0 ≤ lease.weight) :
    (s.filter q).weightOf p ≤ s.weightOf p := by
  apply sum_weights_le (List.filter_sublist.filter p)
  intro lease hmem
  exact hnonneg lease (List.mem_filter.mp hmem).1

theorem Bounded.filter (h : s.Bounded P) : (s.filter q).Bounded P where
  nonneg := fun lease hmem => h.nonneg lease (List.mem_filter.mp hmem).1
  global_le := (weightOf_filter_le h.nonneg).trans h.global_le
  actor_le := fun actor => (weightOf_filter_le h.nonneg).trans (h.actor_le actor)

theorem weightOf_set_le (p : Lease → Bool) (lease : Lease) (hnonneg : ∀ lease ∈ s.leases, 0 ≤ lease.weight) :
    (s.set lease).weightOf p ≤ s.weightOf p + if p lease then lease.weight else 0 :=
  Table.sum_upsert_le lease Lease.weight p s.nodup hnonneg

theorem nonneg_set (hnonneg : ∀ lease ∈ s.leases, 0 ≤ lease.weight) (hweight : 0 ≤ lease.weight) :
    ∀ l ∈ (s.set lease).leases, 0 ≤ l.weight := by
  intro l hl
  rcases Table.mem_upsert.mp hl with rfl | ⟨hmem, _⟩
  · exact hweight
  · exact hnonneg l hmem

theorem weightOf_set_eq (lease : Lease) (p : Lease → Bool) {current : Lease} (hmem : current ∈ s.leases)
    (hid : lease.leaseId = current.leaseId) (hweight : lease.weight = current.weight)
    (hp : p lease = p current) : (s.set lease).weightOf p = s.weightOf p := by
  have hset : (s.set lease).leases = Table.put Lease.leaseId s.leases lease := by
    apply if_pos
    rw [hid]
    exact List.mem_map_of_mem hmem
  have hcolumn := Table.map_put_of_agree (f := fun l => if p l then l.weight else 0) s.nodup hmem hid
    (by simp [hweight, hp])
  unfold weightOf
  rw [hset]
  have hsum : ∀ leases : List Lease, ((leases.filter p).map Lease.weight).sum =
      (leases.map fun l => if p l then l.weight else 0).sum := by
    intro leases
    induction leases with
    | nil => rfl
    | cons l leases ih =>
      by_cases hl : p l = true
      · simp [hl, ih]
      · simp [hl, ih]
  rw [hsum, hsum, hcolumn]

/-! The outcomes of a call, in the order of its checks. -/

/-- The lease that an admission writes. -/
def leaseOf (P : CapacityPolicy) (r : CapacityReservation) (now : ℚ) : Lease :=
  ⟨r.leaseId, now + P.leaseSeconds, r.weight, r.actorKey⟩

theorem reserve_global (h : (s.cleanup now).globalUsed + r.weight > P.globalLimitOcu) :
    s.reserve P r now = (⟨false, (s.cleanup now).globalUsed, (s.cleanup now).actorUsed r.actorKey,
      "global"⟩, s.cleanup now) := by
  simp [reserve, h]

theorem reserve_actor (hglobal : ¬ (s.cleanup now).globalUsed + r.weight > P.globalLimitOcu)
    (h : r.actorKey.isSome ∧ (s.cleanup now).actorUsed r.actorKey + r.weight > P.actorLimitOcu) :
    s.reserve P r now = (⟨false, (s.cleanup now).globalUsed, (s.cleanup now).actorUsed r.actorKey,
      "actor"⟩, s.cleanup now) := by
  simp only [reserve, if_neg hglobal, if_pos h]

theorem reserve_admitted (hglobal : ¬ (s.cleanup now).globalUsed + r.weight > P.globalLimitOcu)
    (hactor : ¬ (r.actorKey.isSome ∧
      (s.cleanup now).actorUsed r.actorKey + r.weight > P.actorLimitOcu)) :
    s.reserve P r now = (⟨true, (s.cleanup now).globalUsed + r.weight,
      if r.actorKey.isSome then (s.cleanup now).actorUsed r.actorKey + r.weight
        else (s.cleanup now).actorUsed r.actorKey, ""⟩, (s.cleanup now).set (leaseOf P r now)) := by
  simp only [reserve, if_neg hglobal, if_neg hactor, leaseOf]

theorem renew_missing (h : (s.cleanup now).get? r.leaseId = none) :
    s.renew P r now = (false, s.cleanup now) := by
  simp [renew, h]

theorem renew_other {current : Lease} (h : (s.cleanup now).get? r.leaseId = some current)
    (hother : current.weight ≠ r.weight ∨ current.actorKey ≠ r.actorKey) :
    s.renew P r now = (false, s.cleanup now) := by
  simp only [renew, h, if_pos hother]

theorem renew_held {current : Lease} (h : (s.cleanup now).get? r.leaseId = some current)
    (hweight : current.weight = r.weight) (hactor : current.actorKey = r.actorKey) :
    s.renew P r now = (true, (s.cleanup now).set (leaseOf P r now)) := by
  simp [renew, h, hweight, hactor, leaseOf]

theorem Bounded.cleanup (h : s.Bounded P) : (s.cleanup now).Bounded P := h.filter

theorem Bounded.set_leaseOf (h : s.Bounded P) (hweight : 0 ≤ r.weight)
    (hglobal : s.globalUsed + r.weight ≤ P.globalLimitOcu)
    (hactor : ∀ actor, r.actorKey = some actor →
      s.actorUsed (some actor) + r.weight ≤ P.actorLimitOcu) :
    (s.set (leaseOf P r now)).Bounded P := by
  refine ⟨nonneg_set h.nonneg hweight, ?_, ?_⟩
  · have hle := weightOf_set_le (fun _ => true) (leaseOf P r now) h.nonneg
    rw [globalUsed_eq] at hglobal
    simp only [if_true, leaseOf] at hle ⊢
    omega
  · intro actor
    have hle := weightOf_set_le (fun lease => lease.actorKey = some actor) (leaseOf P r now) h.nonneg
    by_cases hkey : r.actorKey = some actor
    · have hlimit := hactor actor hkey
      rw [actorUsed_eq] at hlimit
      simp only [leaseOf, hkey, decide_true, if_true] at hle ⊢
      omega
    · simp only [leaseOf, hkey, decide_false, Bool.false_eq_true, if_false] at hle ⊢
      have := h.actor_le actor
      omega

theorem Bounded.reserve (h : s.Bounded P) (hweight : 0 ≤ r.weight) :
    (s.reserve P r now).2.Bounded P := by
  by_cases hglobal : (s.cleanup now).globalUsed + r.weight > P.globalLimitOcu
  · rw [reserve_global hglobal]
    exact h.cleanup
  · by_cases hactor : r.actorKey.isSome ∧
      (s.cleanup now).actorUsed r.actorKey + r.weight > P.actorLimitOcu
    · rw [reserve_actor hglobal hactor]
      exact h.cleanup
    · rw [reserve_admitted hglobal hactor]
      apply h.cleanup.set_leaseOf hweight (by omega)
      intro actor hkey
      simp only [hkey, Option.isSome_some, true_and] at hactor
      omega

theorem Bounded.renew (h : s.Bounded P) : (s.renew P r now).2.Bounded P := by
  cases hcurrent : (s.cleanup now).get? r.leaseId with
  | none =>
    rw [renew_missing hcurrent]
    exact h.cleanup
  | some current =>
    by_cases hother : current.weight ≠ r.weight ∨ current.actorKey ≠ r.actorKey
    · rw [renew_other hcurrent hother]
      exact h.cleanup
    · push Not at hother
      rw [renew_held hcurrent hother.1 hother.2]
      have hmem := Table.mem_of_get? hcurrent
      have hid := (Table.key_of_get? hcurrent).symm
      have hclean : (s.cleanup now).Bounded P := h.cleanup
      refine ⟨nonneg_set hclean.nonneg ?_, ?_, ?_⟩
      · have := hclean.nonneg current hmem
        simp only [leaseOf]
        omega
      · have hsum := weightOf_set_eq (leaseOf P r now) (fun _ => true) hmem hid
          hother.1.symm rfl
        exact hsum.trans_le hclean.global_le
      · intro actor
        have hsum := weightOf_set_eq (leaseOf P r now)
          (fun lease => lease.actorKey = some actor) hmem hid hother.1.symm
          (decide_eq_decide.mpr (by simp only [leaseOf, hother.2]))
        exact hsum.trans_le (hclean.actor_le actor)

theorem Bounded.release (h : s.Bounded P) : (s.release r).Bounded P := h.filter

theorem Bounded.serve {t : Timed} (h : s.Bounded P)
    (hweight : ∀ r, t.call = .reserve r → 0 ≤ r.weight) : (s.serve P t).2.Bounded P := by
  obtain ⟨now, call⟩ := t
  cases call with
  | reserve r => exact h.reserve (hweight r rfl)
  | renew r => exact h.renew
  | release r => exact h.release

theorem unexpired_le (hnonneg : ∀ lease ∈ s.leases, 0 ≤ lease.weight) :
    s.unexpired later p ≤ s.weightOf p :=
  weightOf_filter_le (q := fun lease => later < lease.expiry) hnonneg

end InMemoryCapacityBackend

/-! ## Limits of the Redis hashes -/

namespace Hash

variable {h : Hash} {limit weight : ℤ} {id : String}

/-- No limit is exceeded by the hash, expired leases included. -/
structure Bounded (h : Hash) (limit : ℤ) : Prop where
  nonneg : ∀ row ∈ h.rows, 0 ≤ row.2
  le : h.hvals.sum ≤ limit

theorem empty_bounded (hlimit : 0 ≤ limit) : empty.Bounded limit where
  nonneg := by simp [empty]
  le := by simpa [hvals, empty] using hlimit

theorem sum_filter_le (hnonneg : ∀ row ∈ h.rows, 0 ≤ row.2) (p : String × ℤ → Bool) :
    ((h.rows.filter p).map Prod.snd).sum ≤ h.hvals.sum := by
  apply List.Sublist.sum_le_sum (List.filter_sublist.map _)
  intro w hw
  obtain ⟨row, hmem, rfl⟩ := List.mem_map.mp hw
  exact hnonneg row hmem

theorem Bounded.hdel (hb : h.Bounded limit) : (h.hdel id).Bounded limit where
  nonneg := fun row hmem => hb.nonneg row (List.mem_filter.mp hmem).1
  le := (sum_filter_le hb.nonneg _).trans hb.le

theorem Bounded.hset (hb : h.Bounded limit) (hweight : 0 ≤ weight)
    (hle : h.hvals.sum + weight ≤ limit) : (h.hset id weight).Bounded limit where
  nonneg := by
    intro row hmem
    rcases Table.mem_upsert.mp hmem with rfl | ⟨hold, _⟩
    · exact hweight
    · exact hb.nonneg row hold
  le := by
    have hsum := Table.sum_upsert_le (id, weight) Prod.snd (fun _ => true)
      h.nodup hb.nonneg
    simp only [List.filter_true, if_true] at hsum
    exact hsum.trans hle

end Hash

namespace Cell

variable {c : Cell} {limit now expiry weight : ℤ} {id : String}

theorem bounded_read (h : c.weights.value.Bounded limit) (hlimit : 0 ≤ limit) :
    (c.read now).weights.value.Bounded limit := by
  unfold read
  dsimp only
  split
  · exact Hash.empty_bounded hlimit
  · exact h

theorem bounded_remove (h : c.weights.value.Bounded limit) (hlimit : 0 ≤ limit) :
    (c.remove now id).weights.value.Bounded limit := by
  have hread : (c.zrem now id).read now = c.zrem now id := (c.fresh_zrem now id).read_eq
  unfold remove hdel
  dsimp only
  split
  · exact Hash.empty_bounded hlimit
  · rw [hread, weights_zrem]
    exact (bounded_read h hlimit).hdel

theorem bounded_cleanup (h : c.weights.value.Bounded limit) (hlimit : 0 ≤ limit) :
    (c.cleanup now).weights.value.Bounded limit := by
  unfold cleanup
  generalize (c.read now).expiry.value.rangeByScore now = ids
  induction ids generalizing c with
  | nil => exact h
  | cons id ids ih => exact ih (bounded_remove h hlimit)

theorem bounded_expire (h : (c.read now).weights.value.Bounded limit) (hlimit : 0 ≤ limit) (t : ℤ) :
    (c.expire now t).weights.value.Bounded limit := by
  unfold expire
  dsimp only
  split
  · exact Hash.empty_bounded hlimit
  · exact h

theorem bounded_renewed (h : c.weights.value.Bounded limit) (hlimit : 0 ≤ limit) :
    (c.renewed now expiry id).weights.value.Bounded limit := by
  apply bounded_expire _ hlimit
  rw [zadd_read, weights_zadd]
  exact bounded_read h hlimit

theorem bounded_admitted (h : c.weights.value.Bounded limit) (hlimit : 0 ≤ limit)
    (hweight : 0 ≤ weight) (hle : c.total now + weight ≤ limit) :
    (c.admitted now expiry id weight).weights.value.Bounded limit := by
  apply bounded_expire _ hlimit
  rw [hset_read]
  simp only [hset, zadd_read, weights_zadd]
  exact (bounded_read h hlimit).hset hweight hle

theorem unexpired_le (now : ℤ) (h : c.weights.value.Bounded limit) (hlimit : 0 ≤ limit) :
    c.unexpired now ≤ limit :=
  (Hash.sum_filter_le (bounded_read h hlimit).nonneg _).trans (bounded_read h hlimit).le

end Cell

def CapacityPolicy.limit (P : CapacityPolicy) : Scope → ℤ
  | .allLeases => P.globalLimitOcu
  | .actor _ => P.actorLimitOcu

theorem CapacityPolicy.limit_nonneg (P : CapacityPolicy) (scope : Scope) : 0 ≤ P.limit scope := by
  have hglobal := P.global_pos
  have hactor := P.actor_pos
  cases scope with
  | allLeases => simp only [limit]; omega
  | actor name => simp only [limit]; omega

theorem CapacityPolicy.limit_actorScope (P : CapacityPolicy) (actorKey : Option String) :
    P.limit (actorScope actorKey) = P.actorLimitOcu := by
  cases actorKey <;> rfl

/-- What a script at `now` makes of one scope; `weight` is what it may admit. -/
inductive Cell.Step (now expiry limit weight : ℤ) (c : Cell) : Cell → Prop where
  | same : Step now expiry limit weight c c
  | cleanup : Step now expiry limit weight c (c.cleanup now)
  | remove (id : String) : Step now expiry limit weight c (c.remove now id)
  | renewed (id : String) (held : ∃ w, c.held now id = some w) :
      Step now expiry limit weight c (c.renewed now expiry id)
  | admitted (id : String) (room : (c.cleanup now).total now + weight ≤ limit) :
      Step now expiry limit weight c ((c.cleanup now).admitted now expiry id weight)

theorem Cell.Sound.of_held {c : Cell} {horizon now weight : ℤ} {id : String} (h : c.Sound horizon)
    (hheld : c.held now id = some weight) : (c.read now).weights.value.hget id = some weight := by
  obtain ⟨e, hlive, hholds⟩ := h.held_eq_some.mp hheld
  exact ((h.holds_read hlive).mpr hholds).2

theorem Cell.Step.sound {c c' : Cell} {now expiry limit weight horizon : ℤ}
    (h : c.Step now expiry limit weight c') (hsound : c.Sound horizon) (hle : horizon ≤ expiry) :
    c'.Sound expiry := by
  cases h with
  | same => exact hsound.mono hle
  | cleanup => exact (hsound.cleanup now).mono hle
  | remove id => exact (hsound.remove now id).mono hle
  | renewed id held =>
    obtain ⟨weight, hheld⟩ := held
    exact hsound.renewed hle ⟨weight, hsound.of_held hheld⟩
  | admitted id room => exact (hsound.cleanup now).admitted hle

theorem Cell.Step.bounded {c c' : Cell} {now expiry limit weight : ℤ}
    (h : c.Step now expiry limit weight c') (hbounded : c.weights.value.Bounded limit)
    (hlimit : 0 ≤ limit) (hweight : 0 ≤ weight) : c'.weights.value.Bounded limit := by
  cases h with
  | same => exact hbounded
  | cleanup => exact bounded_cleanup hbounded hlimit
  | remove id => exact bounded_remove hbounded hlimit
  | renewed id held => exact bounded_renewed hbounded hlimit
  | admitted id room =>
    exact bounded_admitted (bounded_cleanup hbounded hlimit) hlimit hweight room

section Steps

variable {P : CapacityPolicy} {s : Keyspace} {actorKey : Option String} {now expiry weight : ℤ}
  {id : String}

theorem removeLease_steps (scope : Scope) : (s scope).Step now expiry (P.limit scope) weight
    (removeLease (actorScope actorKey) now id actorKey.isSome s scope) := by
  rw [removeLease_apply]
  split
  · exact .remove id
  · exact .same

theorem reserveScript_steps (scope : Scope) : (s scope).Step now expiry (P.limit scope) weight
    ((reserveScript (actorScope actorKey) now expiry weight P.globalLimitOcu P.actorLimitOcu id
      actorKey.isSome s).2 scope) := by
  by_cases hglobal : used s .allLeases now + weight > P.globalLimitOcu
  · rw [reserveScript_global hglobal]
    by_cases hall : scope = .allLeases
    · subst hall
      simpa [Keyspace.update] using Cell.Step.cleanup
    · simpa [Keyspace.update, Function.update_of_ne hall] using Cell.Step.same
  · by_cases hactor : actorKey.isSome = true ∧
      used s (actorScope actorKey) now + weight > P.actorLimitOcu
    · rw [reserveScript_actor hglobal hactor.1 hactor.2]
      have hboth := update_covers s actorKey scope
        fun c => c.cleanup now
      rw [if_pos hactor.1] at hboth
      dsimp only
      rw [hboth]
      split
      · exact .cleanup
      · exact .same
    · obtain ⟨globalUsed, actorUsed, after, heq, hafter⟩ :=
        reserveScript_admitted expiry hglobal hactor
      rw [heq]
      dsimp only
      rw [hafter]
      split
      · rename_i hcovers
        apply Cell.Step.admitted
        simp only [covers, decide_eq_true_eq] at hcovers
        rcases hcovers with rfl | ⟨hsome, rfl⟩
        · exact not_lt.mp hglobal
        · rw [P.limit_actorScope]
          exact not_lt.mp fun hlt => hactor ⟨hsome, hlt⟩
      · exact .same

theorem renewScript_steps (scope : Scope) : (s scope).Step now expiry (P.limit scope) weight
    ((renewScript (actorScope actorKey) now expiry id actorKey.isSome s).2 scope) := by
  cases hglobal : (s .allLeases).held now id with
  | none =>
    rw [renewScript_missing hglobal]
    exact removeLease_steps scope
  | some globalWeight =>
    by_cases hactor : actorKey.isSome = true →
      (s (actorScope actorKey)).held now id = some globalWeight
    · obtain ⟨after, heq, hafter⟩ := renewScript_held actorKey expiry hglobal hactor
      rw [heq]
      dsimp only
      rw [hafter]
      split
      · rename_i hcovers
        apply Cell.Step.renewed
        simp only [covers, decide_eq_true_eq] at hcovers
        rcases hcovers with rfl | ⟨hsome, rfl⟩
        · exact ⟨globalWeight, hglobal⟩
        · exact ⟨globalWeight, hactor hsome⟩
      · exact .same
    · rw [renewScript_other hglobal hactor]
      exact removeLease_steps scope

end Steps

theorem RedisCapacityBackend.serve_steps {P : CapacityPolicy} {s : Keyspace} {t : Timed}
    (scope : Scope) :
    (s scope).Step (milliseconds t.now) (milliseconds t.now + P.leaseSeconds * 1000) (P.limit scope)
      t.call.reservation.weight ((RedisCapacityBackend.serve P t s).2 scope) := by
  obtain ⟨now, call⟩ := t
  cases call with
  | reserve r => exact reserveScript_steps scope
  | renew r => exact renewScript_steps scope
  | release r => exact removeLease_steps scope

/-- The scripts keep the limits, as long as no weight is negative. -/
theorem RedisCapacityBackend.serve_bounded {P : CapacityPolicy} {s : Keyspace} {t : Timed}
    (scope : Scope) (h : (s scope).weights.value.Bounded (P.limit scope))
    (hweight : ∀ r, t.call = .reserve r → 0 ≤ r.weight) :
    ((RedisCapacityBackend.serve P t s).2 scope).weights.value.Bounded (P.limit scope) := by
  obtain ⟨now, call⟩ := t
  have hlimit := P.limit_nonneg scope
  cases call with
  | reserve r =>
    have hstep : (s scope).Step (milliseconds now) (milliseconds now + P.leaseSeconds * 1000)
        (P.limit scope) r.weight ((RedisCapacityBackend.serve P ⟨now, .reserve r⟩ s).2 scope) :=
      reserveScript_steps scope
    exact hstep.bounded h hlimit (hweight r rfl)
  | renew r =>
    have hstep : (s scope).Step (milliseconds now) (milliseconds now + P.leaseSeconds * 1000)
        (P.limit scope) 0 ((RedisCapacityBackend.serve P ⟨now, .renew r⟩ s).2 scope) :=
      renewScript_steps scope
    exact hstep.bounded h hlimit le_rfl
  | release r =>
    have hstep : (s scope).Step (milliseconds now) 0 (P.limit scope) 0
        ((RedisCapacityBackend.serve P ⟨now, .release r⟩ s).2 scope) :=
      removeLease_steps scope
    exact hstep.bounded h hlimit le_rfl

end MaestroKernel.Capacity.Runtime
