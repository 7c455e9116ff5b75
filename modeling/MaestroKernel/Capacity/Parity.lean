import MaestroKernel.Capacity.Bounds

/-! # One run of both backends

Both backends serve the same calls at the same readings. Every lease of the in-memory table stands
in the scopes of Redis, in the global one and in that of its actor, as long as it runs, and no other
running lease does: so the totals that the two compare with the limits are the same, and so are
their answers. -/

namespace MaestroKernel.Capacity.Runtime

/-! ## The leases of both backends -/

theorem milliseconds_mono {a b : ℚ} (h : a ≤ b) : milliseconds a ≤ milliseconds b := by
  have hscaled : a * 1000 ≤ b * 1000 := by linarith
  have hzero : ⌊(0 : ℚ)⌋ = 0 ∧ ⌈(0 : ℚ)⌉ = 0 := ⟨Int.floor_zero, Int.ceil_zero⟩
  unfold milliseconds
  split
  · rw [if_pos (by linarith)]
    exact Int.floor_le_floor hscaled
  · rename_i ha
    split
    · rename_i hb
      have hup : ⌈a * 1000⌉ ≤ ⌈(0 : ℚ)⌉ := Int.ceil_le_ceil (by linarith)
      have hdown : ⌊(0 : ℚ)⌋ ≤ ⌊b * 1000⌋ := Int.floor_le_floor (by linarith)
      omega
    · exact Int.ceil_le_ceil hscaled

def redisExpiry (P : CapacityPolicy) (lease : Lease) : ℤ :=
  milliseconds (lease.expiry - P.leaseSeconds) + P.leaseSeconds * 1000

/-- The leases that run at the reading are the same in the table and in the scopes. -/
def Mirror (P : CapacityPolicy) (now : ℤ) (m : InMemoryCapacityBackend) (s : Keyspace) : Prop :=
  ∀ scope id e w, now < e → ((s scope).Holds id e w ↔ ∃ lease ∈ m.leases, lease.leaseId = id ∧
    lease.weight = w ∧ redisExpiry P lease = e ∧ covers lease.actorKey scope)

/-- Both clocks agree which leases of the table have expired. -/
def ClockAgrees (P : CapacityPolicy) (m : InMemoryCapacityBackend) (now : ℚ) : Prop :=
  ∀ lease ∈ m.leases, lease.expiry ≤ now ↔ redisExpiry P lease ≤ milliseconds now

/-- A running lease with the id of the request and an actor has the actor of the request. -/
def Owned (P : CapacityPolicy) (m : InMemoryCapacityBackend) (r : CapacityReservation) (now : ℚ) :
    Prop :=
  ∀ lease ∈ m.leases, milliseconds now < redisExpiry P lease → lease.leaseId = r.leaseId →
    lease.actorKey.isSome → lease.actorKey = r.actorKey

/-- No unexpired lease of another actor stands under the keys of the actor of the request. -/
def Apart (m : InMemoryCapacityBackend) (r : CapacityReservation) (now : ℚ) : Prop :=
  ∀ lease ∈ m.leases, now < lease.expiry → lease.actorKey.isSome → r.actorKey.isSome →
    actorScope lease.actorKey = actorScope r.actorKey → lease.actorKey = r.actorKey

/-- An unexpired lease with the id of the request has its weight and its actor. -/
def Renewable (m : InMemoryCapacityBackend) (r : CapacityReservation) (now : ℚ) : Prop :=
  ∀ lease ∈ m.leases, now < lease.expiry → lease.leaseId = r.leaseId →
    lease.weight = r.weight ∧ lease.actorKey = r.actorKey

/-- The condition on a call and on the table before it. -/
def Meets (P : CapacityPolicy) (m : InMemoryCapacityBackend) (t : Timed) : Prop :=
  match t.call with
  | .reserve r => 0 ≤ r.weight ∧ ClockAgrees P m t.now ∧ Owned P m r t.now ∧ Apart m r t.now
  | .renew r => ClockAgrees P m t.now ∧ Renewable m r t.now
  | .release r => Owned P m r t.now

instance decidableClockAgrees : Decidable (ClockAgrees P m now) :=
  inferInstanceAs (Decidable (∀ lease ∈ m.leases, _))

instance decidableOwned : Decidable (Owned P m r now) :=
  inferInstanceAs (Decidable (∀ lease ∈ m.leases, _))

instance decidableApart : Decidable (Apart m r now) :=
  inferInstanceAs (Decidable (∀ lease ∈ m.leases, _))

instance decidableRenewable : Decidable (Renewable m r now) :=
  inferInstanceAs (Decidable (∀ lease ∈ m.leases, _))

instance decidableMeets (P : CapacityPolicy) (m : InMemoryCapacityBackend) :
    (t : Timed) → Decidable (Meets P m t)
  | ⟨_, .reserve _⟩ => inferInstanceAs (Decidable (_ ∧ _))
  | ⟨_, .renew _⟩ => inferInstanceAs (Decidable (_ ∧ _))
  | ⟨_, .release r⟩ => inferInstanceAs (Decidable (Owned P m r _))

section Mirroring

variable {P : CapacityPolicy} {m : InMemoryCapacityBackend} {s s' : Keyspace} {t : ℚ}
  {now later horizon : ℤ} {r : CapacityReservation}

theorem Mirror.mono (h : Mirror P now m s) (hle : now ≤ later) : Mirror P later m s :=
  fun scope id e w he => h scope id e w (by omega)

theorem Mirror.cleanup (h : Mirror P (milliseconds t) m s) (hclock : ClockAgrees P m t) :
    Mirror P (milliseconds t) (m.cleanup t) s := by
  intro scope id e w he
  rw [h scope id e w he]
  apply exists_congr
  intro lease
  simp only [InMemoryCapacityBackend.cleanup, InMemoryCapacityBackend.filter, List.mem_filter,
    decide_eq_true_eq]
  constructor
  · rintro ⟨hmem, hid, hw, hexpiry, hcovers⟩
    refine ⟨⟨hmem, ?_⟩, hid, hw, hexpiry, hcovers⟩
    rw [hclock lease hmem]
    omega
  · rintro ⟨⟨hmem, _⟩, hrest⟩
    exact ⟨hmem, hrest⟩

theorem Mirror.congr (h : Mirror P now m s)
    (hsame : ∀ scope id e w, now < e → ((s' scope).Holds id e w ↔ (s scope).Holds id e w)) :
    Mirror P now m s' :=
  fun scope id e w he => (hsame scope id e w he).trans (h scope id e w he)

/-- A lease is written in the table and in its scopes. -/
theorem Mirror.set (h : Mirror P (milliseconds t) m s) (howned : Owned P m r t)
    (hclean : ∀ lease ∈ m.leases, milliseconds t < redisExpiry P lease)
    (hafter : ∀ scope id e w, milliseconds t < e → ((s' scope).Holds id e w ↔
      if covers r.actorKey scope then
        id = r.leaseId ∧ e = milliseconds t + P.leaseSeconds * 1000 ∧ w = r.weight ∨
          id ≠ r.leaseId ∧ (s scope).Holds id e w
      else (s scope).Holds id e w)) :
    Mirror P (milliseconds t) (m.set (InMemoryCapacityBackend.leaseOf P r t)) s' := by
  have hexpiry : redisExpiry P (InMemoryCapacityBackend.leaseOf P r t) =
      milliseconds t + P.leaseSeconds * 1000 := by
    simp [redisExpiry, InMemoryCapacityBackend.leaseOf]
  intro scope id e w he
  rw [hafter scope id e w he, h scope id e w he]
  simp only [InMemoryCapacityBackend.set, Table.mem_upsert]
  by_cases hcovers : covers r.actorKey scope = true
  · rw [if_pos hcovers]
    constructor
    · rintro (⟨rfl, rfl, rfl⟩ | ⟨hne, lease, hmem, hid, hrest⟩)
      · exact ⟨_, .inl rfl, rfl, rfl, hexpiry, hcovers⟩
      · exact ⟨lease, .inr ⟨hmem, hid ▸ hne⟩, hid, hrest⟩
    · rintro ⟨lease, rfl | ⟨hmem, hne⟩, hid, hw, he', hlease⟩
      · exact .inl ⟨hid.symm, he'.symm.trans hexpiry, hw.symm⟩
      · exact .inr ⟨hid ▸ hne, lease, hmem, hid, hw, he', hlease⟩
  · rw [if_neg hcovers]
    -- a lease in a scope that the call leaves alone has another id
    have hother : ∀ lease ∈ m.leases, covers lease.actorKey scope = true →
        lease.leaseId ≠ r.leaseId := by
      intro lease hmem hlease hid
      apply hcovers
      by_cases hsome : lease.actorKey.isSome
      · rw [← howned lease hmem (hclean lease hmem) hid hsome]
        exact hlease
      · simp only [covers, hsome, Bool.false_eq_true, false_and, or_false,
          decide_eq_true_eq] at hlease
        rw [hlease, covers_allLeases]
    constructor
    · rintro ⟨lease, hmem, hid, hw, he', hlease⟩
      exact ⟨lease, .inr ⟨hmem, hother lease hmem hlease⟩, hid, hw, he', hlease⟩
    · rintro ⟨lease, rfl | ⟨hmem, _⟩, hid, hw, he', hlease⟩
      · exact absurd hlease hcovers
      · exact ⟨lease, hmem, hid, hw, he', hlease⟩

/-- A lease is dropped from the table and from the scopes of the request. -/
theorem Mirror.remove (h : Mirror P (milliseconds t) m s)
    (hsound : ∀ scope, (s scope).Sound horizon) (howned : Owned P m r t) :
    Mirror P (milliseconds t) (m.release r)
      (removeLease (actorScope r.actorKey) (milliseconds t) r.leaseId r.actorKey.isSome s) := by
  intro scope id e w he
  rw [removeLease_apply]
  simp only [InMemoryCapacityBackend.release, InMemoryCapacityBackend.filter, List.mem_filter,
    decide_eq_true_eq]
  by_cases hcovers : covers r.actorKey scope = true
  · rw [if_pos hcovers, (hsound scope).holds_remove he, h scope id e w he]
    constructor
    · rintro ⟨hne, lease, hmem, hid, hrest⟩
      exact ⟨lease, ⟨hmem, hid ▸ hne⟩, hid, hrest⟩
    · rintro ⟨lease, ⟨hmem, hne⟩, hid, hrest⟩
      exact ⟨hid ▸ hne, lease, hmem, hid, hrest⟩
  · rw [if_neg hcovers, h scope id e w he]
    constructor
    · rintro ⟨lease, hmem, hid, hw, he', hlease⟩
      refine ⟨lease, ⟨hmem, ?_⟩, hid, hw, he', hlease⟩
      intro hsame
      apply hcovers
      by_cases hsome : lease.actorKey.isSome
      · rw [← howned lease hmem (by omega) hsame hsome]
        exact hlease
      · simp only [covers, hsome, Bool.false_eq_true, false_and, or_false,
          decide_eq_true_eq] at hlease
        rw [hlease, covers_allLeases]
    · rintro ⟨lease, ⟨hmem, _⟩, hrest⟩
      exact ⟨lease, hmem, hrest⟩

theorem Mirror.used_eq (h : Mirror P (milliseconds t) m s) (hclock : ClockAgrees P m t)
    (scope : Scope) (hsound : (s scope).Sound horizon) :
    used s scope (milliseconds t) = (m.cleanup t).weightOf fun lease => covers lease.actorKey scope := by
  have hperm : (((s scope).cleanup (milliseconds t)).read (milliseconds t)).weights.value.rows.Perm
      (((m.cleanup t).leases.filter fun lease => covers lease.actorKey scope).map
        fun lease => (lease.leaseId, lease.weight)) := by
    have hnodup : (((m.cleanup t).leases.filter fun lease => covers lease.actorKey scope).map
        fun lease => (lease.leaseId, lease.weight)).Nodup := by
      apply List.Nodup.of_map Prod.fst
      rw [List.map_map]
      exact (m.cleanup t).nodup.sublist (List.filter_sublist.map _)
    rw [List.perm_ext_iff_of_nodup (Hash.nodup _).of_map hnodup]
    rintro ⟨id, w⟩
    rw [hsound.mem_rows_cleanup]
    simp only [List.mem_map, List.mem_filter, Prod.mk.injEq]
    constructor
    · rintro ⟨e, he, hholds⟩
      obtain ⟨lease, hmem, hid, hw, _, hcovers⟩ :=
        ((h.cleanup hclock) scope id e w he).mp hholds
      exact ⟨lease, ⟨hmem, hcovers⟩, hid, hw⟩
    · rintro ⟨lease, ⟨hmem, hcovers⟩, hid, hw⟩
      have hlive : milliseconds t < redisExpiry P lease := by
        obtain ⟨hold, hrun⟩ := List.mem_filter.mp hmem
        rw [decide_eq_true_eq, hclock lease hold] at hrun
        omega
      exact ⟨redisExpiry P lease, hlive,
        ((h.cleanup hclock) scope id _ w hlive).mpr ⟨lease, hmem, hid, hw, rfl, hcovers⟩⟩
  unfold used Cell.total Hash.hvals InMemoryCapacityBackend.weightOf
  rw [(hperm.map Prod.snd).sum_eq, List.map_map]
  rfl

theorem running_of_cleanup (hclock : ClockAgrees P m t) :
    ∀ lease ∈ (m.cleanup t).leases, milliseconds t < redisExpiry P lease := by
  intro lease hmem
  obtain ⟨hold, hrun⟩ := List.mem_filter.mp hmem
  rw [decide_eq_true_eq, hclock lease hold] at hrun
  omega

theorem unexpired_of_cleanup : ∀ lease ∈ (m.cleanup t).leases, t < lease.expiry := by
  intro lease hmem
  have hrun := (List.mem_filter.mp hmem).2
  rw [decide_eq_true_eq] at hrun
  exact not_le.mp hrun

theorem Mirror.cleanup_scopes (h : Mirror P now m s) (hsound : ∀ scope, (s scope).Sound horizon)
    (hafter : ∀ scope, s' scope = s scope ∨ s' scope = (s scope).cleanup now) :
    Mirror P now m s' := by
  apply h.congr
  intro scope id e w he
  rcases hafter scope with heq | heq
  · rw [heq]
  · rw [heq, (hsound scope).holds_cleanup he]

theorem Mirror.reserve (h : Mirror P (milliseconds t) m s)
    (hsound : ∀ scope, (s scope).Sound horizon) (hclock : ClockAgrees P m t)
    (howned : Owned P m r t) (hapart : Apart m r t) :
    ((m.reserve P r t).1.admitted, (m.reserve P r t).1.reason) =
        ((RedisCapacityBackend.reserve P r t s).1.admitted,
          (RedisCapacityBackend.reserve P r t s).1.reason) ∧
      Mirror P (milliseconds t) (m.reserve P r t).2 (RedisCapacityBackend.reserve P r t s).2 := by
  have hglobalUsed : used s .allLeases (milliseconds t) = (m.cleanup t).globalUsed := by
    rw [h.used_eq hclock .allLeases (hsound .allLeases), InMemoryCapacityBackend.globalUsed_eq]
    simp
  have hactorUsed : r.actorKey.isSome → used s (actorScope r.actorKey) (milliseconds t) =
      (m.cleanup t).actorUsed r.actorKey := by
    intro hsome
    obtain ⟨actor, hactor⟩ := Option.isSome_iff_exists.mp hsome
    rw [h.used_eq hclock _ (hsound _), hactor, InMemoryCapacityBackend.actorUsed_eq]
    unfold InMemoryCapacityBackend.weightOf
    congr 2
    apply List.filter_congr
    intro lease hmem
    have happly := hapart lease (List.mem_filter.mp hmem).1 (unexpired_of_cleanup lease hmem)
    rw [hactor] at happly
    rw [covers, decide_eq_decide]
    constructor
    · rintro (hall | ⟨hlease, hscope⟩)
      · exact absurd hall (actorScope_ne _)
      · exact happly hlease rfl hscope.symm
    · intro hlease
      exact .inr ⟨by simp [hlease], by rw [hlease]⟩
  have hclean := h.cleanup hclock
  unfold RedisCapacityBackend.reserve
  dsimp only
  by_cases hglobal : (m.cleanup t).globalUsed + r.weight > P.globalLimitOcu
  · rw [InMemoryCapacityBackend.reserve_global hglobal,
      reserveScript_global (by rw [hglobalUsed]; exact hglobal)]
    refine ⟨by simp [reason], hclean.cleanup_scopes hsound ?_⟩
    intro scope
    by_cases hall : scope = .allLeases
    · subst hall
      simp [Keyspace.update]
    · simp [Keyspace.update, Function.update_of_ne hall]
  · have hglobal' : ¬ used s .allLeases (milliseconds t) + r.weight > P.globalLimitOcu := by
      rw [hglobalUsed]
      exact hglobal
    by_cases hactor : r.actorKey.isSome = true ∧
      (m.cleanup t).actorUsed r.actorKey + r.weight > P.actorLimitOcu
    · rw [InMemoryCapacityBackend.reserve_actor hglobal hactor, reserveScript_actor hglobal'
        hactor.1 (by rw [hactorUsed hactor.1]; exact hactor.2)]
      refine ⟨by simp [reason], hclean.cleanup_scopes hsound ?_⟩
      intro scope
      have hboth := update_covers s r.actorKey scope
        fun c => c.cleanup (milliseconds t)
      rw [if_pos hactor.1] at hboth
      dsimp only
      rw [hboth]
      split
      · exact .inr rfl
      · exact .inl rfl
    · have hactor' : ¬ (r.actorKey.isSome = true ∧
          used s (actorScope r.actorKey) (milliseconds t) + r.weight > P.actorLimitOcu) := by
        rintro ⟨hsome, hlt⟩
        rw [hactorUsed hsome] at hlt
        exact hactor ⟨hsome, hlt⟩
      obtain ⟨globalUsed, actorUsed, after, heq, hafter⟩ := reserveScript_admitted
        (milliseconds t + P.leaseSeconds * 1000) hglobal' hactor'
      rw [InMemoryCapacityBackend.reserve_admitted hglobal hactor, heq]
      refine ⟨by simp [reason], ?_⟩
      apply hclean.set
      · exact fun lease hmem => howned lease (List.mem_filter.mp hmem).1
      · exact running_of_cleanup hclock
      · intro scope id e w he
        dsimp only
        rw [hafter]
        split
        · rw [((hsound scope).cleanup _).holds_admitted he, (hsound scope).holds_cleanup he]
        · rfl

theorem Mirror.renew (h : Mirror P (milliseconds t) m s)
    (hsound : ∀ scope, (s scope).Sound horizon) (hclock : ClockAgrees P m t)
    (hrenewable : Renewable m r t) :
    (m.renew P r t).1 = (RedisCapacityBackend.renew P r t s).1 ∧
      Mirror P (milliseconds t) (m.renew P r t).2 (RedisCapacityBackend.renew P r t s).2 := by
  have hclean := h.cleanup hclock
  unfold RedisCapacityBackend.renew
  dsimp only
  cases hcurrent : (m.cleanup t).get? r.leaseId with
  | none =>
    have hmissing : ∀ lease ∈ (m.cleanup t).leases, lease.leaseId ≠ r.leaseId :=
      Table.get?_eq_none.mp hcurrent
    have hheld : (s .allLeases).held (milliseconds t) r.leaseId = none := by
      rw [Option.eq_none_iff_forall_ne_some]
      intro w hw
      obtain ⟨e, he, hholds⟩ := (hsound .allLeases).held_eq_some.mp hw
      obtain ⟨lease, hmem, hid, _⟩ := (hclean .allLeases r.leaseId e w he).mp hholds
      exact hmissing lease hmem hid
    rw [InMemoryCapacityBackend.renew_missing hcurrent, renewScript_missing hheld]
    refine ⟨by simp, ?_⟩
    have hremoved := hclean.remove (r := r) hsound
      (fun lease hmem _ hid => absurd hid (hmissing lease hmem))
    have hsame : (m.cleanup t).release r = m.cleanup t := by
      unfold InMemoryCapacityBackend.release InMemoryCapacityBackend.filter
      congr 1
      apply List.filter_eq_self.mpr
      intro lease hmem
      simpa using hmissing lease hmem
    rw [hsame] at hremoved
    exact hremoved
  | some current =>
    have hmem := Table.mem_of_get? hcurrent
    have hid : current.leaseId = r.leaseId := Table.key_of_get? hcurrent
    obtain ⟨hweight, hactor⟩ := hrenewable current (List.mem_filter.mp hmem).1
      (unexpired_of_cleanup current hmem) hid
    have hrun := running_of_cleanup hclock current hmem
    have hheld : ∀ scope, covers r.actorKey scope →
        (s scope).held (milliseconds t) r.leaseId = some r.weight := by
      intro scope hcovers
      exact (hsound scope).held_eq_some.mpr ⟨_, hrun, (hclean scope _ _ _ hrun).mpr
        ⟨current, hmem, hid, hweight, rfl, by rw [hactor]; exact hcovers⟩⟩
    obtain ⟨after, heq, hafter⟩ := renewScript_held r.actorKey
      (milliseconds t + P.leaseSeconds * 1000) (hheld .allLeases (by simp))
      (fun hsome => hheld _ (by simp [covers, hsome]))
    rw [InMemoryCapacityBackend.renew_held hcurrent hweight hactor, heq]
    refine ⟨by simp, ?_⟩
    apply hclean.set
    · intro lease hlease _ hsame _
      exact (hrenewable lease (List.mem_filter.mp hlease).1
        (unexpired_of_cleanup lease hlease) hsame).2
    · exact running_of_cleanup hclock
    · intro scope id e w he
      dsimp only
      rw [hafter]
      split
      · rename_i hcovers
        rw [(hsound scope).holds_renewed he ((hsound scope).of_held (hheld scope hcovers))]
      · rfl

end Mirroring

/-! ## Runs -/

/-- The invariant of both backends after a reading. -/
structure Backends.Sound (P : CapacityPolicy) (s : Backends) (now : ℤ) : Prop where
  cells : ∀ scope, (s.redis scope).Sound (now + P.leaseSeconds * 1000)
  hashes : ∀ scope, (s.redis scope).weights.value.Bounded (P.limit scope)
  table : s.memory.Bounded P
  mirror : Mirror P now s.memory s.redis

namespace Backends

variable {P : CapacityPolicy} {s : Backends} {t : Timed} {earlier now : ℤ}

theorem start_sound (P : CapacityPolicy) (now : ℤ) : start.Sound P now where
  cells := fun _ => Cell.absent_sound _
  hashes := fun scope => Hash.empty_bounded (P.limit_nonneg scope)
  table := InMemoryCapacityBackend.empty_bounded
  mirror := by
    intro scope id e w _
    simp [start, Cell.Holds, Cell.absent, InMemoryCapacityBackend.empty]

theorem Sound.mono (h : s.Sound P earlier) (hle : earlier ≤ now) : s.Sound P now where
  cells := fun scope => (h.cells scope).mono (by omega)
  hashes := h.hashes
  table := h.table
  mirror := h.mirror.mono hle

theorem Meets.weight (h : Meets P s.memory t) : ∀ r, t.call = .reserve r → 0 ≤ r.weight := by
  intro r hcall
  rw [Meets, hcall] at h
  exact h.1

/-- One call: both backends give one answer, and the invariant is kept. -/
theorem Sound.serve (h : s.Sound P (milliseconds t.now)) (hmeets : Meets P s.memory t) :
    (s.serve P t).1.1 = (s.serve P t).1.2 ∧ (s.serve P t).2.Sound P (milliseconds t.now) := by
  have hcells : ∀ scope, ((s.serve P t).2.redis scope).Sound
      (milliseconds t.now + P.leaseSeconds * 1000) :=
    fun scope => (RedisCapacityBackend.serve_steps scope).sound (h.cells scope) le_rfl
  have hhashes : ∀ scope, ((s.serve P t).2.redis scope).weights.value.Bounded (P.limit scope) :=
    fun scope => RedisCapacityBackend.serve_bounded scope (h.hashes scope) (Meets.weight hmeets)
  have htable : (s.serve P t).2.memory.Bounded P := h.table.serve (Meets.weight hmeets)
  obtain ⟨now, call⟩ := t
  cases call with
  | reserve r =>
    obtain ⟨_, hclock, howned, hapart⟩ := hmeets
    obtain ⟨hanswer, hmirror⟩ := h.mirror.reserve h.cells hclock howned hapart
    obtain ⟨hadmitted, hreason⟩ := Prod.mk.inj hanswer
    exact ⟨congrArg₂ Answer.reserved hadmitted hreason, hcells, hhashes, htable, hmirror⟩
  | renew r =>
    obtain ⟨hclock, hrenewable⟩ := hmeets
    obtain ⟨hkept, hmirror⟩ := h.mirror.renew h.cells hclock hrenewable
    exact ⟨congrArg Answer.renewed hkept, hcells, hhashes, htable, hmirror⟩
  | release r => exact ⟨rfl, hcells, hhashes, htable, h.mirror.remove h.cells hmeets⟩

theorem Sound.safe (h : s.Sound P now) (later : ℚ) : s.Safe P later where
  memory_global :=
    (InMemoryCapacityBackend.unexpired_le h.table.nonneg).trans h.table.global_le
  memory_actor := fun actor =>
    (InMemoryCapacityBackend.unexpired_le h.table.nonneg).trans (h.table.actor_le actor)
  redis_global := Cell.unexpired_le (milliseconds later) (h.hashes .allLeases) (P.limit_nonneg .allLeases)
  redis_actor := by
    intro actor
    have hle := Cell.unexpired_le (milliseconds later)
      (h.hashes (actorScope (some actor))) (P.limit_nonneg _)
    rwa [P.limit_actorScope] at hle
  paired := by
    intro scope id
    rw [Bool.eq_iff_iff, Option.isSome_iff_exists, Option.isSome_iff_exists]
    exact ((h.cells scope).read (milliseconds later)).paired id

/-- Every call of the run meets the condition in the state before it. -/
def MeetsAlong (P : CapacityPolicy) : List Timed → Backends → Prop
  | [], _ => True
  | t :: calls, s => Meets P s.memory t ∧ MeetsAlong P calls (s.serve P t).2

instance decidableMeetsAlong (P : CapacityPolicy) :
    (calls : List Timed) → (s : Backends) → Decidable (MeetsAlong P calls s)
  | [], _ => isTrue trivial
  | t :: calls, s =>
    have := decidableMeetsAlong P calls (s.serve P t).2
    inferInstanceAs (Decidable (_ ∧ _))

theorem Sound.run (h : s.Sound P earlier) (calls : List Timed)
    (hlater : ∀ t ∈ calls, earlier ≤ milliseconds t.now)
    (hordered : (calls.map Timed.now).Pairwise (· ≤ ·)) (hmeets : MeetsAlong P calls s) :
    (∀ answers ∈ (s.run P calls).1, answers.1 = answers.2) ∧
      ∃ last, (s.run P calls).2.Sound P last := by
  induction calls generalizing s earlier with
  | nil => exact ⟨by simp [Backends.run], earlier, h⟩
  | cons t calls ih =>
    obtain ⟨hmeet, hrest⟩ := hmeets
    rw [List.map_cons, List.pairwise_cons] at hordered
    have hnow : s.Sound P (milliseconds t.now) := h.mono (hlater t List.mem_cons_self)
    obtain ⟨hanswer, hnext⟩ := hnow.serve hmeet
    have hafter : ∀ t' ∈ calls, milliseconds t.now ≤ milliseconds t'.now :=
      fun t' ht' => milliseconds_mono (hordered.1 _ (List.mem_map_of_mem ht'))
    obtain ⟨hanswers, hfinal⟩ := ih hnext hafter hordered.2 hrest
    refine ⟨?_, hfinal⟩
    intro answers hmem
    rcases List.mem_cons.mp hmem with rfl | hmem
    · exact hanswer
    · exact hanswers answers hmem

end Backends

/-- The calls come at non-decreasing readings, and each is in time on both clocks and names the
weight and the actor that the lease under its id was admitted with: then both backends give the
same answers, no limit is exceeded at any reading, and the keys of a scope hold the same ids. -/
theorem backends_agree (P : CapacityPolicy) (calls : List Timed)
    (hordered : (calls.map Timed.now).Pairwise (· ≤ ·))
    (hmeets : Backends.MeetsAlong P calls .start) :
    (∀ answers ∈ (Backends.start.run P calls).1, answers.1 = answers.2) ∧
      ∀ later, (Backends.start.run P calls).2.Safe P later := by
  cases calls with
  | nil => exact ⟨by simp [Backends.run], (Backends.start_sound P 0).safe⟩
  | cons t rest =>
    have hlater : ∀ t' ∈ t :: rest, milliseconds t.now ≤ milliseconds t'.now := by
      intro t' hmem
      rw [List.map_cons, List.pairwise_cons] at hordered
      rcases List.mem_cons.mp hmem with rfl | hmem
      · exact le_rfl
      · exact milliseconds_mono (hordered.1 _ (List.mem_map_of_mem hmem))
    obtain ⟨hanswers, last, hsound⟩ :=
      (Backends.start_sound P (milliseconds t.now)).run (t :: rest) hlater hordered hmeets
    exact ⟨hanswers, hsound.safe⟩

namespace Sample

def policy : CapacityPolicy := ⟨4, 2, 10, by decide, by decide⟩

def lease : CapacityReservation := ⟨"a", 2, some "customer"⟩

/-- A lease is renewed, keeps another request of its actor out, and is released. -/
def calls : List Timed :=
  [⟨1, .reserve lease⟩, ⟨3 / 2, .renew lease⟩, ⟨2, .reserve ⟨"b", 1, some "customer"⟩⟩,
    ⟨3, .release lease⟩]

theorem calls_agree : (∀ answers ∈ (Backends.start.run policy calls).1, answers.1 = answers.2) ∧
    ∀ later, (Backends.start.run policy calls).2.Safe policy later :=
  backends_agree policy calls (by decide +kernel) (by decide +kernel)

/-- The renewal names another weight than the lease has: only the in-memory backend refuses it. -/
theorem other_weight_disagrees :
    ¬ ∀ answers ∈ (Backends.start.run policy
      [⟨0, .reserve ⟨"a", 1, none⟩⟩, ⟨1, .renew ⟨"a", 2, none⟩⟩]).1, answers.1 = answers.2 := by
  decide +kernel

end Sample

end MaestroKernel.Capacity.Runtime
