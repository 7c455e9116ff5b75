import MaestroKernel.Capacity.Backends

/-! # Leases as their holders see them

A site is a backend together with the ledger of the leases that it has granted: a
lease runs up to the expiry that its last grant or renewal gave it. A backend tracks
the ledger when every answer is the one that the ledger calls for. -/

namespace MaestroKernel.Capacity

open Durable

/-- What `acquire` drew. Every `uuid4` is new, so a lease id has one reservation. -/
structure Drawn where
  domain : String → String
  priority : String → ExecutionPriority

abbrev Drawn.reservation (R : Drawn) (leaseId : String) : DomainCapacityReservation :=
  ⟨leaseId, R.domain leaseId, R.priority leaseId⟩

/-- A call that some holder makes. -/
inductive Call (D : Type) where
  | reserve (leaseId : String) (leaseSeconds : D)
  | renew (leaseId : String) (leaseSeconds : D)
  | release (leaseId : String)

def Call.leaseId {D : Type} : Call D → String
  | .reserve leaseId _ => leaseId
  | .renew leaseId _ => leaseId
  | .release leaseId => leaseId

inductive Answer where
  | valueError (message : String)
  | decided (decision : DomainCapacityDecision)
  | renewed (renewed : Bool)
  | released
deriving DecidableEq

variable {I D : Type} [LinearOrder I]

/-- The expiry of every lease that is held. -/
abbrev Ledger (I : Type) [LinearOrder I] : Type := SortedSet String I

namespace Ledger

variable (R : Drawn) (L : Ledger I) (now : I)

/-- The unexpired leases of a domain. -/
def liveIn (domain : String) : List String := (L.live now).filter fun id => R.domain id = domain

end Ledger

/-- The decision of `reserve`, given the leases in use. -/
def admission (globalLimit domainLimit emergencyReserve globalUsed domainUsed : ℕ)
    (priority : ExecutionPriority) : DomainCapacityDecision :=
  if globalUsed ≥ globalLimit then ⟨false, globalUsed, domainUsed, "global"⟩
  else if domainUsed ≥ domainLimit then ⟨false, globalUsed, domainUsed, "domain"⟩
  else if priority ≠ .emergency ∧ globalUsed ≥ globalLimit - emergencyReserve then
    ⟨false, globalUsed, domainUsed, "emergency_reserve"⟩
  else ⟨true, globalUsed + 1, domainUsed + 1, ""⟩

section Admission

variable {globalLimit domainLimit emergencyReserve globalUsed domainUsed : ℕ}
  {priority : ExecutionPriority}

theorem admission_admitted :
    (admission globalLimit domainLimit emergencyReserve globalUsed domainUsed priority).admitted =
      true ↔ globalUsed < globalLimit ∧ domainUsed < domainLimit ∧
        (priority ≠ .emergency → globalUsed + emergencyReserve + 1 ≤ globalLimit) := by
  unfold admission
  split
  · simp only [Bool.false_eq_true, false_iff]
    omega
  · split
    · simp only [Bool.false_eq_true, false_iff]
      omega
    · split
      · rename_i h
        simp only [Bool.false_eq_true, false_iff]
        intro hall
        have := hall.2.2 h.1
        omega
      · rename_i h
        simp only [true_iff]
        refine ⟨by omega, by omega, fun hp => ?_⟩
        have : ¬ globalUsed ≥ globalLimit - emergencyReserve := fun hge => h ⟨hp, hge⟩
        omega

theorem admission_used :
    (admission globalLimit domainLimit emergencyReserve globalUsed domainUsed priority).globalUsed =
        globalUsed + (if (admission globalLimit domainLimit emergencyReserve globalUsed domainUsed
          priority).admitted then 1 else 0) ∧
      (admission globalLimit domainLimit emergencyReserve globalUsed domainUsed
        priority).domainUsed = domainUsed + (if (admission globalLimit domainLimit emergencyReserve
          globalUsed domainUsed priority).admitted then 1 else 0) := by
  unfold admission
  split
  · simp
  · split
    · simp
    · split <;> simp

end Admission

/-! ## Runs -/

/-- A backend, the last clock reading, and the leases that it has granted. -/
structure Site (B : Backend I D) where
  state : B.State
  clock : I
  ledger : Ledger I

variable (B : Backend I D) (P : DomainCapacityPolicy) (R : Drawn)

def perform (now : I) (s : B.State) : Call D → Answer × B.State
  | .reserve leaseId leaseSeconds =>
    match P.limitFor (R.domain leaseId) with
    | .error message => (.valueError message, s)
    | .ok domainLimit =>
      let (decision, s) := B.reserve (R.reservation leaseId) P.globalLimit domainLimit
        P.emergencyReserve leaseSeconds now s
      (.decided decision, s)
  | .renew leaseId leaseSeconds =>
    let (renewed, s) := B.renew (R.reservation leaseId) leaseSeconds now s
    (.renewed renewed, s)
  | .release leaseId => (.released, B.release (R.reservation leaseId) now s)

/-- What the holder knows after the answer. One that was not renewed has lost the lease. -/
def record (now : I) (L : Ledger I) : Call D → Answer → Ledger I
  | .reserve leaseId leaseSeconds, .decided decision =>
    if decision.admitted then L.zadd leaseId (B.expiry now leaseSeconds) else L
  | .renew leaseId leaseSeconds, .renewed renewed =>
    if renewed then L.zadd leaseId (B.expiry now leaseSeconds) else L.zrem [leaseId]
  | .release leaseId, _ => L.zrem [leaseId]
  | _, _ => L

variable {B}

def Site.answer (σ : Site B) (now : I) (call : Call D) : Answer :=
  (perform B P R now σ.state call).1

def Site.next (σ : Site B) (now : I) (call : Call D) : Site B :=
  ⟨(perform B P R now σ.state call).2, now, record B now σ.ledger call (σ.answer P R now call)⟩

/-- The sites that calls reach at non-decreasing clock readings from `start` on, when every
call meets `ok`. -/
inductive Reaches (ok : B.State → I → DomainCapacityReservation → Prop) (start : I) :
    Site B → Prop where
  | init : Reaches ok start ⟨B.init, start, .empty⟩
  | next {σ} (now : I) (call : Call D) : Reaches ok start σ → σ.clock ≤ now →
      ok σ.state now (R.reservation call.leaseId) → Reaches ok start (σ.next P R now call)

def due (L : Ledger I) (now : I) : Call D → Answer
  | .reserve leaseId _ =>
    match P.limitFor (R.domain leaseId) with
    | .error message => .valueError message
    | .ok domainLimit =>
      .decided (admission P.globalLimit domainLimit P.emergencyReserve (L.live now).length
        (L.liveIn R now (R.domain leaseId)).length (R.priority leaseId))
  | .renew leaseId _ => .renewed (leaseId ∈ L.live now)
  | .release _ => .released

variable (B)

/-- `rel` relates a state to a ledger after a clock reading, every method keeps it under
`ok`, and answers from it. -/
structure Tracks (ok : B.State → I → DomainCapacityReservation → Prop) where
  rel : B.State → I → Ledger I → Prop
  init : ∀ now, rel B.init now .empty
  later : ∀ {s now t L}, rel s now L → now ≤ t → rel s t L
  reserve : ∀ {s now L id}, rel s now L → ok s now (R.reservation id) →
    ∀ globalLimit domainLimit emergencyReserve leaseSeconds,
      (B.reserve (R.reservation id) globalLimit domainLimit emergencyReserve leaseSeconds now s).1 =
          admission globalLimit domainLimit emergencyReserve (L.live now).length
            (L.liveIn R now (R.domain id)).length (R.priority id) ∧
        rel (B.reserve (R.reservation id) globalLimit domainLimit emergencyReserve leaseSeconds now
          s).2 now
          (if (admission globalLimit domainLimit emergencyReserve (L.live now).length
            (L.liveIn R now (R.domain id)).length (R.priority id)).admitted
            then L.zadd id (B.expiry now leaseSeconds) else L)
  renew : ∀ {s now L id}, rel s now L → ok s now (R.reservation id) → ∀ leaseSeconds,
    (B.renew (R.reservation id) leaseSeconds now s).1 = decide (id ∈ L.live now) ∧
      rel (B.renew (R.reservation id) leaseSeconds now s).2 now
        (if id ∈ L.live now then L.zadd id (B.expiry now leaseSeconds) else L.zrem [id])
  release : ∀ {s now L id}, rel s now L → ok s now (R.reservation id) →
    rel (B.release (R.reservation id) now s) now (L.zrem [id])

namespace Tracks

variable {B} {P} {R} {ok : B.State → I → DomainCapacityReservation → Prop}

theorem step (h : Tracks B R ok) {σ : Site B} (hrel : h.rel σ.state σ.clock σ.ledger) {now : I}
    (hnow : σ.clock ≤ now) {call : Call D} (hok : ok σ.state now (R.reservation call.leaseId)) :
    σ.answer P R now call = due P R σ.ledger now call ∧
      h.rel (σ.next P R now call).state now (σ.next P R now call).ledger := by
  have hrel := h.later hrel hnow
  unfold Site.next Site.answer
  cases call with
  | reserve leaseId leaseSeconds =>
    have hok : ok σ.state now (R.reservation leaseId) := hok
    unfold perform due
    dsimp only
    cases hlimit : P.limitFor (R.domain leaseId) with
    | error message => exact ⟨rfl, hrel⟩
    | ok domainLimit =>
      obtain ⟨hanswer, hnext⟩ := h.reserve hrel hok P.globalLimit domainLimit
        P.emergencyReserve leaseSeconds
      rw [← hanswer] at hnext
      exact ⟨congrArg Answer.decided hanswer, hnext⟩
  | renew leaseId leaseSeconds =>
    have hok : ok σ.state now (R.reservation leaseId) := hok
    obtain ⟨hanswer, hnext⟩ := h.renew hrel hok leaseSeconds
    refine ⟨congrArg Answer.renewed hanswer, ?_⟩
    simp only [perform, record, hanswer, decide_eq_true_eq]
    exact hnext
  | release leaseId => exact ⟨rfl, h.release hrel hok⟩

theorem reached (h : Tracks B R ok) {start : I} {σ : Site B} (hσ : Reaches P R ok start σ) :
    h.rel σ.state σ.clock σ.ledger := by
  induction hσ with
  | init => exact h.init start
  | next now call _ hnow hok ih => exact (h.step ih hnow hok).2

theorem answer_due (h : Tracks B R ok) {start : I} {σ : Site B} (hσ : Reaches P R ok start σ)
    {now : I} (hnow : σ.clock ≤ now) {call : Call D}
    (hok : ok σ.state now (R.reservation call.leaseId)) :
    σ.answer P R now call = due P R σ.ledger now call :=
  (h.step (h.reached hσ) hnow hok).1

end Tracks

end MaestroKernel.Capacity
