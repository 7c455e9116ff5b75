import MaestroKernel.Capacity.Tracking

/-! # Kept leases and limits

A lease that is renewed in time is never lost, and the limits hold of the leases that
are granted. In memory both hold of every run. In Redis a renewal does not renew the
time to live of the sorted sets, so both hold as long as no call comes too late for it. -/

namespace MaestroKernel.Capacity

open Durable

variable {I D : Type} [LinearOrder I] {B : Backend I D} (P : DomainCapacityPolicy) (R : Drawn)

/-! ## A renewed lease is kept -/

/-- The answer to a call at a site honours the leases of the ledger. -/
structure Honoured (σ : Site B) (now : I) (call : Call D) : Prop where
  /-- A lease renewed before it expires is renewed. -/
  renewed : ∀ id leaseSeconds, call = .renew id leaseSeconds → id ∈ σ.ledger.live now →
    σ.answer P R now call = .renewed true
  /-- A reservation counts every unexpired lease, in its domain and globally, and itself. -/
  counted : ∀ id leaseSeconds decision, call = .reserve id leaseSeconds →
    σ.answer P R now call = .decided decision →
      decision.globalUsed = (σ.ledger.live now).length + (if decision.admitted then 1 else 0) ∧
      decision.domainUsed = (σ.ledger.liveIn R now (R.domain id)).length +
        (if decision.admitted then 1 else 0)
  /-- The answer is a function of the unexpired leases alone. -/
  answered : σ.answer P R now call = due P R σ.ledger now call

variable {P R}

theorem due_decided {L : Ledger I} {now : I} {id : String} {leaseSeconds : D}
    {decision : DomainCapacityDecision}
    (h : due P R L now (.reserve id leaseSeconds) = .decided decision) :
    ∃ domainLimit, P.limitFor (R.domain id) = .ok domainLimit ∧
      decision = admission P.globalLimit domainLimit P.emergencyReserve (L.live now).length
        (L.liveIn R now (R.domain id)).length (R.priority id) := by
  unfold due at h
  dsimp only at h
  cases hlimit : P.limitFor (R.domain id) with
  | error message =>
    rw [hlimit] at h
    exact absurd h (by simp)
  | ok domainLimit =>
    rw [hlimit] at h
    exact ⟨domainLimit, rfl, (Answer.decided.inj h).symm⟩

theorem honoured_of_due {σ : Site B} {now : I} {call : Call D}
    (h : σ.answer P R now call = due P R σ.ledger now call) : Honoured P R σ now call where
  renewed id leaseSeconds hcall hmem := by
    subst hcall
    rw [h, due, decide_eq_true hmem]
  counted id leaseSeconds decision hcall hanswer := by
    subst hcall
    obtain ⟨domainLimit, -, rfl⟩ := due_decided (h.symm.trans hanswer)
    exact admission_used
  answered := h

namespace Redis

theorem lost_of_not_intact {start now : ℕ} {σ : Site redis} (hσ : Reaches P R Intact start σ)
    (hnow : σ.clock ≤ now) {reservation : DomainCapacityReservation}
    (hintact : ¬ Intact σ.state now reservation) :
    ∃ id ∈ σ.ledger.live now, ∀ leaseSeconds,
      σ.answer P R now (.renew id leaseSeconds) = .renewed false := by
  have hmirrors : Mirrors R σ.state now σ.ledger :=
    (tracks R).later ((tracks R).reached hσ) hnow
  obtain ⟨key, hkey⟩ : ∃ key, ¬ Stored.Intact (σ.state key) now := by
    by_contra hall
    push Not at hall
    exact hintact ⟨hall _, hall _⟩
  unfold Stored.Intact at hkey
  push Not at hkey
  obtain ⟨deadline, hdeadline, hlt, hlive⟩ := hkey
  obtain ⟨id, hid⟩ := List.exists_mem_of_ne_nil _ hlive
  obtain ⟨hmem, hcounts⟩ := (hmirrors key).mem_live id |>.mp hid
  refine ⟨id, hmem, fun leaseSeconds => ?_⟩
  have hscore : σ.state.zscore now key id = none := by
    unfold Keyspace.zscore Keyspace.read
    rw [if_pos (expired_iff.mpr ⟨deadline, hdeadline, hlt⟩)]
    rfl
  have hrefused : (σ.state.zscore now .globalKey id).all (fun e => e ≤ now) = true ∨
      (σ.state.zscore now (.domainKey (R.domain id)) id).all (fun e => e ≤ now) = true := by
    cases key with
    | globalKey =>
      left
      rw [hscore]
      rfl
    | domainKey domain =>
      right
      have hdomain : R.domain id = domain := of_decide_eq_true hcounts
      rw [hdomain, hscore]
      rfl
  have heq := renew_eq (R.reservation id) leaseSeconds now σ.state
  rw [if_pos hrefused] at heq
  exact congrArg (fun after => Answer.renewed after.1) heq

end Redis

/-- Every lease that is renewed before it expires and is not released renews and is
counted: in memory at every site, in Redis at the sites that intact calls reach; at the
first call there that is not intact, such a lease is lost. -/
theorem renewed_leases_are_kept {T : Type} [LinearOrder T] [Add T] (P : DomainCapacityPolicy)
    (R : Drawn) :
    (∀ (start : T) (σ : Site (memory T)), Reaches P R (fun _ _ _ => True) start σ →
      ∀ now call, σ.clock ≤ now → Honoured P R σ now call) ∧
    ∀ (start : ℕ) (σ : Site redis), Reaches P R Redis.Intact start σ →
      ∀ now call, σ.clock ≤ now →
        (Redis.Intact σ.state now (R.reservation call.leaseId) → Honoured P R σ now call) ∧
        (¬ Redis.Intact σ.state now (R.reservation call.leaseId) → ∃ id ∈ σ.ledger.live now,
          ∀ leaseSeconds, ¬ Honoured P R σ now (.renew id leaseSeconds)) := by
  constructor
  · intro start σ hσ now call hnow
    exact honoured_of_due ((InMemoryDomainCapacityBackend.tracks R).answer_due hσ hnow trivial)
  · intro start σ hσ now call hnow
    constructor
    · intro hintact
      exact honoured_of_due ((Redis.tracks R).answer_due hσ hnow hintact)
    · intro hintact
      obtain ⟨id, hmem, hlost⟩ := Redis.lost_of_not_intact hσ hnow hintact
      refine ⟨id, hmem, fun leaseSeconds h => ?_⟩
      have hrenewed := h.renewed id leaseSeconds rfl hmem
      rw [hlost leaseSeconds] at hrenewed
      simp at hrenewed

/-! ### One lease of 30 seconds, renewed every 20 -/

namespace Renewals

def drawn : Drawn := ⟨fun _ => "video", fun _ => .normal⟩

def policy (limit : ℕ) (h : 1 ≤ limit) : DomainCapacityPolicy where
  globalLimit := limit
  domainLimits := [("video", limit)]
  emergencyReserve := 0
  global_pos := h
  reserve_lt := h
  domains_ne := List.cons_ne_nil _ _
  names := by
    intro d hd
    obtain rfl := List.mem_singleton.mp hd
    have hname : isBlank "video" = false := by decide +kernel
    exact hname
  limits_pos := by
    intro d hd
    obtain rfl := List.mem_singleton.mp hd
    exact h

def single : DomainCapacityPolicy := policy 1 le_rfl

def reserved : Site redis :=
  (⟨redis.init, 0, .empty⟩ : Site redis).next single drawn 0 (.reserve "a" 30)

def renewedOnce : Site redis := reserved.next single drawn 20000 (.renew "a" 30)

/-- The lease runs up to 70 seconds, the keys up to 60. -/
def renewedTwice : Site redis := renewedOnce.next single drawn 40000 (.renew "a" 30)

theorem reached {ok : redis.State → ℕ → DomainCapacityReservation → Prop}
    (hreserve : ok redis.init 0 (drawn.reservation "a"))
    (hrenew : ok reserved.state 20000 (drawn.reservation "a"))
    (hrenew' : ok renewedOnce.state 40000 (drawn.reservation "a")) :
    Reaches single drawn ok 0 renewedTwice :=
  .next 40000 (.renew "a" 30) (.next 20000 (.renew "a" 30)
    (.next 0 (.reserve "a" 30) .init le_rfl hreserve) (Nat.zero_le _) hrenew)
    (Nat.le_of_ble_eq_true rfl) hrenew'

theorem reached_intact : Reaches single drawn Redis.Intact 0 renewedTwice :=
  reached (Redis.intact_of_decide (by decide +kernel)) (Redis.intact_of_decide (by decide +kernel))
    (Redis.intact_of_decide (by decide +kernel))

/-- The keys are intact up to 60 seconds. -/
theorem kept_before_deadline : Honoured single drawn renewedTwice 50000 (.renew "a" 30) :=
  ((renewed_leases_are_kept (T := ℕ) single drawn).2 0 renewedTwice reached_intact 50000 _
    (Nat.le_of_ble_eq_true rfl)).1 (Redis.intact_of_decide (by decide +kernel))

/-- Ten seconds before it expires the lease is lost. -/
theorem lost_after_deadline : ¬ ∀ (P : DomainCapacityPolicy) (R : Drawn) (start : ℕ)
    (σ : Site redis), Reaches P R (fun _ _ _ => True) start σ → ∀ now call, σ.clock ≤ now →
      Honoured P R σ now call := by
  intro h
  have hkept := h single drawn 0 renewedTwice (reached trivial trivial trivial) 60001
    (.renew "a" 30) (Nat.le_of_ble_eq_true rfl)
  have hrenewed := hkept.renewed "a" 30 rfl (by decide +kernel)
  have hlost : renewedTwice.answer single drawn 60001 (.renew "a" 30) = .renewed false := by
    decide +kernel
  rw [hlost] at hrenewed
  simp at hrenewed

end Renewals

/-! ## The limits hold -/

structure WithinLimits (P : DomainCapacityPolicy) (R : Drawn) (L : Ledger I) (now : I) : Prop where
  ofGlobal : (L.live now).length ≤ P.globalLimit
  ofDomain : ∀ domain domainLimit, P.limitFor domain = .ok domainLimit →
    (L.liveIn R now domain).length ≤ domainLimit

theorem length_le_of_subset {ids ids' : List String} (h : ids.Nodup) (hsubset : ids ⊆ ids') :
    ids.length ≤ ids'.length :=
  (List.subperm_of_subset h hsubset).length_le

theorem WithinLimits.of_subset {L L' : Ledger I} {now later : I} (h : WithinLimits P R L now)
    (hsubset : L'.live later ⊆ L.live now) : WithinLimits P R L' later where
  ofGlobal := (length_le_of_subset (L'.nodup_live later) hsubset).trans h.ofGlobal
  ofDomain domain domainLimit hlimit :=
    (length_le_of_subset ((L'.nodup_live later).filter _) (List.filter_subset _ hsubset)).trans
      (h.ofDomain domain domainLimit hlimit)

/-- A reservation below both limits stays within them. -/
theorem WithinLimits.zadd {L : Ledger I} {now : I} (h : WithinLimits P R L now) {id : String}
    {domainLimit : ℕ} (hlimit : P.limitFor (R.domain id) = .ok domainLimit)
    (hglobal : (L.live now).length < P.globalLimit)
    (hdomain : (L.liveIn R now (R.domain id)).length < domainLimit) (expiry : I) :
    WithinLimits P R (L.zadd id expiry) now where
  ofGlobal := by
    have hlen := length_le_of_subset ((L.zadd id expiry).nodup_live now)
      (L.live_zadd_subset id expiry now)
    rw [List.length_cons] at hlen
    omega
  ofDomain domain limit hdomainLimit := by
    have hlen := length_le_of_subset (((L.zadd id expiry).nodup_live now).filter _)
      (List.filter_subset (fun id => R.domain id = domain) (L.live_zadd_subset id expiry now))
    by_cases he : R.domain id = domain
    · subst he
      obtain rfl : domainLimit = limit := Except.ok.inj (hlimit.symm.trans hdomainLimit)
      rw [List.filter_cons_of_pos (by simp), List.length_cons] at hlen
      exact hlen.trans hdomain
    · rw [List.filter_cons_of_neg (by simpa using he)] at hlen
      exact hlen.trans (h.ofDomain domain limit hdomainLimit)

/-- What an admission outside an emergency leaves free. -/
structure HeadroomKept (P : DomainCapacityPolicy) (R : Drawn) (σ : Site B) (now : I)
    (call : Call D) : Prop where
  before : ∀ id leaseSeconds decision, call = .reserve id leaseSeconds →
    σ.answer P R now call = .decided decision → decision.admitted = true →
      R.priority id ≠ .emergency →
        (σ.ledger.live now).length + (P.emergencyReserve + 1) ≤ P.globalLimit
  after : ∀ id leaseSeconds decision, call = .reserve id leaseSeconds →
    σ.answer P R now call = .decided decision → decision.admitted = true →
      R.priority id ≠ .emergency →
        ((σ.next P R now call).ledger.live now).length ≤ P.globalLimit - P.emergencyReserve

theorem headroom_of_due {σ : Site B} {now : I} {call : Call D}
    (h : σ.answer P R now call = due P R σ.ledger now call) : HeadroomKept P R σ now call := by
  have hbefore : ∀ id leaseSeconds decision, call = .reserve id leaseSeconds →
      σ.answer P R now call = .decided decision → decision.admitted = true →
        R.priority id ≠ .emergency →
          (σ.ledger.live now).length + (P.emergencyReserve + 1) ≤ P.globalLimit := by
    intro id leaseSeconds decision hcall hanswer hadmitted hpriority
    subst hcall
    obtain ⟨domainLimit, -, rfl⟩ := due_decided (h.symm.trans hanswer)
    exact (admission_admitted.mp hadmitted).2.2 hpriority
  refine ⟨hbefore, ?_⟩
  intro id leaseSeconds decision hcall hanswer hadmitted hpriority
  have hfree := hbefore id leaseSeconds decision hcall hanswer hadmitted hpriority
  subst hcall
  have hledger : (σ.next P R now (.reserve id leaseSeconds)).ledger =
      σ.ledger.zadd id (B.expiry now leaseSeconds) := by
    simp only [Site.next, record, hanswer, hadmitted, if_true]
  rw [hledger]
  have hlen := length_le_of_subset
    ((σ.ledger.zadd id (B.expiry now leaseSeconds)).nodup_live now)
    (σ.ledger.live_zadd_subset id _ now)
  rw [List.length_cons] at hlen
  omega

theorem within_next {σ : Site B} {now : I} {call : Call D} (hnow : σ.clock ≤ now)
    (h : σ.answer P R now call = due P R σ.ledger now call)
    (hwithin : WithinLimits P R σ.ledger σ.clock) :
    WithinLimits P R (σ.next P R now call).ledger now := by
  have hwithin : WithinLimits P R σ.ledger now := hwithin.of_subset (σ.ledger.live_anti hnow)
  unfold Site.next
  dsimp only
  rw [h]
  cases call with
  | reserve id leaseSeconds =>
    cases hdue : due P R σ.ledger now (.reserve id leaseSeconds) with
    | decided decision =>
      obtain ⟨domainLimit, hlimit, rfl⟩ := due_decided hdue
      simp only [record]
      split
      · rename_i hadmitted
        obtain ⟨hglobal, hdomain, -⟩ := admission_admitted.mp hadmitted
        exact hwithin.zadd hlimit hglobal hdomain _
      · exact hwithin
    | valueError message => exact hwithin
    | renewed renewed => exact hwithin
    | released => exact hwithin
  | renew id leaseSeconds =>
    simp only [due, record]
    split
    · rename_i hlive
      refine hwithin.of_subset fun m hm => ?_
      rcases List.mem_cons.mp (σ.ledger.live_zadd_subset _ _ now hm) with rfl | hold
      · exact of_decide_eq_true hlive
      · exact hold
    · exact hwithin.of_subset (σ.ledger.live_zrem_subset _ now)
  | release id => exact hwithin.of_subset (σ.ledger.live_zrem_subset _ now)

theorem Tracks.within {ok : B.State → I → DomainCapacityReservation → Prop} (h : Tracks B R ok)
    {start : I} {σ : Site B} (hσ : Reaches P R ok start σ) :
    WithinLimits P R σ.ledger σ.clock := by
  induction hσ with
  | init => exact ⟨Nat.zero_le _, fun _ _ _ => Nat.zero_le _⟩
  | next now call hσ hnow hok ih => exact within_next hnow (h.answer_due hσ hnow hok) ih

/-- The unexpired leases stay within the limits and reservations outside an emergency
leave the reserve free: in memory at every site, in Redis as long as the calls are intact. -/
theorem capacity_limits_hold {T : Type} [LinearOrder T] [Add T] (P : DomainCapacityPolicy)
    (R : Drawn) :
    (∀ (start : T) (σ : Site (memory T)), Reaches P R (fun _ _ _ => True) start σ →
      ∀ now call, σ.clock ≤ now →
        WithinLimits P R σ.ledger now ∧ HeadroomKept P R σ now call) ∧
    ∀ (start : ℕ) (σ : Site redis), Reaches P R Redis.Intact start σ →
      ∀ now call, σ.clock ≤ now →
        WithinLimits P R σ.ledger now ∧
          (Redis.Intact σ.state now (R.reservation call.leaseId) → HeadroomKept P R σ now call) := by
  constructor
  · intro start σ hσ now call hnow
    have htracks := InMemoryDomainCapacityBackend.tracks (T := T) R
    exact ⟨(htracks.within hσ).of_subset (σ.ledger.live_anti hnow),
      headroom_of_due (htracks.answer_due hσ hnow trivial)⟩
  · intro start σ hσ now call hnow
    exact ⟨((Redis.tracks R).within hσ).of_subset (σ.ledger.live_anti hnow),
      fun hintact => headroom_of_due ((Redis.tracks R).answer_due hσ hnow hintact)⟩

namespace Renewals

/-- The first lease is forgotten, and a second one granted beside it. -/
theorem second_lease_granted : ¬ ∀ (P : DomainCapacityPolicy) (R : Drawn) (start : ℕ)
    (σ : Site redis), Reaches P R (fun _ _ _ => True) start σ →
      WithinLimits P R σ.ledger σ.clock := by
  intro h
  have hreached : Reaches single drawn (fun _ _ _ => True) 0
      (renewedTwice.next single drawn 60001 (.reserve "b" 30)) :=
    .next 60001 _ (reached trivial trivial trivial) (Nat.le_of_ble_eq_true rfl) trivial
  have hlimit := (h single drawn 0 _ hreached).ofGlobal
  have htwo : ((renewedTwice.next single drawn 60001 (.reserve "b" 30)).ledger.live
      60001).length = 2 := by
    decide +kernel
  exact absurd (htwo.symm.le.trans hlimit) (by decide)

/-- Before the deadline the second reservation waits. -/
theorem within_before_deadline : WithinLimits single drawn renewedTwice.ledger 50000 :=
  ((capacity_limits_hold (T := ℕ) single drawn).2 0 renewedTwice reached_intact 50000
    (.reserve "b" 30) (Nat.le_of_ble_eq_true rfl)).1

end Renewals

/-! ## The backends agree -/

def Call.inMilliseconds : Call ℚ → Call ℕ
  | .reserve leaseId leaseSeconds => .reserve leaseId (Redis.leaseMs leaseSeconds)
  | .renew leaseId leaseSeconds => .renew leaseId (Redis.leaseMs leaseSeconds)
  | .release leaseId => .release leaseId

/-- Both backends have served the same calls, and Redis has found its keys intact. -/
inductive SideBySide (P : DomainCapacityPolicy) (R : Drawn) (start : ℕ) :
    Site redis → Site (memory ℕ) → Prop where
  | init : SideBySide P R start ⟨redis.init, start, .empty⟩ ⟨(memory ℕ).init, start, .empty⟩
  | next {σ τ} (now : ℕ) (call : Call ℚ) : SideBySide P R start σ τ → σ.clock ≤ now →
      Redis.Intact σ.state now (R.reservation call.leaseId) →
      SideBySide P R start (σ.next P R now call) (τ.next P R now call.inMilliseconds)

theorem due_inMilliseconds (L : Ledger ℕ) (now : ℕ) (call : Call ℚ) :
    due P R L now call.inMilliseconds = due P R L now call := by
  cases call with
  | reserve leaseId leaseSeconds => rfl
  | renew leaseId leaseSeconds => rfl
  | release leaseId => rfl

theorem record_inMilliseconds (L : Ledger ℕ) (now : ℕ) (call : Call ℚ) (answer : Answer) :
    record (memory ℕ) now L call.inMilliseconds answer = record redis now L call answer := by
  cases call with
  | reserve leaseId leaseSeconds => cases answer <;> rfl
  | renew leaseId leaseSeconds => cases answer <;> rfl
  | release leaseId => rfl

theorem SideBySide.same {start : ℕ} {σ : Site redis} {τ : Site (memory ℕ)}
    (h : SideBySide P R start σ τ) : Reaches P R Redis.Intact start σ ∧
      Reaches P R (fun _ _ _ => True) start τ ∧ τ.clock = σ.clock ∧ τ.ledger = σ.ledger := by
  induction h with
  | init => exact ⟨.init, .init, rfl, rfl⟩
  | @next σ τ now call _ hnow hintact ih =>
    obtain ⟨hσ, hτ, hclock, hledger⟩ := ih
    have hnow' := hclock.le.trans hnow
    refine ⟨.next now call hσ hnow hintact, .next now _ hτ hnow' trivial, rfl, ?_⟩
    have hanswer := (Redis.tracks R).answer_due hσ hnow hintact
    have hanswer' : τ.answer P R now call.inMilliseconds =
        due P R τ.ledger now call.inMilliseconds :=
      (InMemoryDomainCapacityBackend.tracks R).answer_due hτ hnow' trivial
    rw [due_inMilliseconds, hledger, ← hanswer] at hanswer'
    simp only [Site.next, hanswer', hledger, record_inMilliseconds]

theorem domain_backends_agree {start now : ℕ} {σ : Site redis} {τ : Site (memory ℕ)}
    (h : SideBySide P R start σ τ) (hnow : σ.clock ≤ now) (call : Call ℚ)
    (hintact : Redis.Intact σ.state now (R.reservation call.leaseId)) :
    σ.answer P R now call = τ.answer P R now call.inMilliseconds := by
  obtain ⟨hσ, hτ, hclock, hledger⟩ := h.same
  rw [(Redis.tracks R).answer_due hσ hnow hintact,
    (InMemoryDomainCapacityBackend.tracks R).answer_due hτ (hclock.le.trans hnow) trivial,
    due_inMilliseconds, hledger]

open Renewals in
/-- A second lease is refused by both. -/
theorem domain_backends_agree_full : reserved.answer single drawn 10 (.reserve "b" 30) =
    ((⟨(memory ℕ).init, 0, .empty⟩ : Site (memory ℕ)).next single drawn 0
      (Call.reserve "a" 30).inMilliseconds).answer single drawn 10
        (Call.reserve "b" 30).inMilliseconds :=
  domain_backends_agree
    (.next 0 (.reserve "a" 30) .init le_rfl (Redis.intact_of_decide (by decide +kernel)))
    (Nat.zero_le _) (.reserve "b" 30) (Redis.intact_of_decide (by decide +kernel))

end MaestroKernel.Capacity
