import MaestroKernel.Library.Checked
import MaestroKernel.Library.Table
import MaestroKernel.Library.Transaction
import MaestroKernel.Market.Catalog
import Mathlib.Data.List.Chain

/-! # The event ledger of top-ups

A verified payment stages a chain of commercial events. The chain is appended as a whole, or found as a
whole; a mixture, a conflict or a gap raises, and the unit of work around it rolls back. -/

namespace MaestroKernel.Billing.TopUpLedger

open Checked Transaction
open Durable (isBlank)
open Market (strip)

/-! ## The state machine -/

abbrev Uuid : Type := ℕ

inductive CommercialAggregate where
  | order | payment | subscription | assessmentActivation | topUp | reconciliation
deriving DecidableEq

namespace CommercialAggregate

def value : CommercialAggregate → String
  | order => "order"
  | payment => "payment"
  | subscription => "subscription"
  | assessmentActivation => "assessment_activation"
  | topUp => "top_up"
  | reconciliation => "reconciliation"

/-- `COMMERCIAL_TRANSITIONS` -/
def transitions : CommercialAggregate → List (String × String)
  | order => [("draft", "pending_payment"), ("pending_payment", "paid"),
      ("pending_payment", "cancelled"), ("paid", "fulfilled"), ("paid", "refunded")]
  | payment => [("pending", "verified"), ("pending", "failed"), ("verified", "settled"),
      ("verified", "refunded")]
  | subscription => [("pending", "active"), ("active", "suspended"), ("suspended", "active"),
      ("active", "cancelled"), ("suspended", "cancelled"), ("active", "expired")]
  | assessmentActivation => [("requested", "qualified"), ("qualified", "approved"),
      ("approved", "activated"), ("requested", "rejected"), ("qualified", "rejected"),
      ("approved", "revoked"), ("activated", "revoked")]
  | topUp => [("draft", "awaiting_confirmation"), ("awaiting_confirmation", "awaiting_payment"),
      ("awaiting_confirmation", "cancelled"), ("awaiting_payment", "payment_pending"),
      ("awaiting_payment", "cancelled"), ("payment_pending", "payment_verified"),
      ("payment_pending", "payment_rejected"), ("payment_verified", "grant_pending"),
      ("grant_pending", "granted"), ("grant_pending", "failed")]
  | reconciliation => [("open", "matched"), ("open", "exception"), ("exception", "matched"),
      ("matched", "closed")]

end CommercialAggregate

inductive LedgerError where
  | valueError (message : String)
  | commercialTransition (message : String)
  | topUpEventLedgerConflict (message : String)
  | integrityError
deriving DecidableEq

/-- `str.lower` and the text of a UUID. -/
structure Texts where
  lower : String → String
  uuid : Uuid → String

variable (env : Texts)

def normalizeCommercialState (value : String) : String := env.lower (strip value)

/-- `validate_commercial_transition` of a new `CommercialTransition`. -/
def validateCommercialTransition (aggregate : CommercialAggregate)
    (currentState nextState operation : String) : Except LedgerError Unit := do
  raiseIf (isBlank currentState = true) (.valueError "current_state must not be blank")
  raiseIf (isBlank nextState = true) (.valueError "next_state must not be blank")
  raiseIf (isBlank operation = true) (.valueError "operation must not be blank")
  let current := normalizeCommercialState env currentState
  let next := normalizeCommercialState env nextState
  raiseIf (current = next) (.commercialTransition
    ("commercial transition must change state: " ++ aggregate.value ++ " " ++ current))
  raiseIf ((current, next) ∉ aggregate.transitions) (.commercialTransition
    ("commercial transition is not allowed: " ++ aggregate.value ++ " " ++ current ++ "->" ++ next ++
      " operation=" ++ operation))

structure CommercialIdempotencyKey where
  aggregate : CommercialAggregate
  aggregateId : Uuid
  operation : String
  requestKey : String
deriving DecidableEq

namespace CommercialIdempotencyKey

def postInit (key : CommercialIdempotencyKey) : Except LedgerError Unit := do
  raiseIf (isBlank key.operation = true) (.valueError "operation must not be blank")
  raiseIf (isBlank key.requestKey = true) (.valueError "request_key must not be blank")

def canonical (key : CommercialIdempotencyKey) : String :=
  key.aggregate.value ++ ":" ++ env.uuid key.aggregateId ++ ":" ++ env.lower (strip key.operation) ++
    ":" ++ strip key.requestKey

end CommercialIdempotencyKey

/-- An instant in microseconds; without a zone the time is naive. -/
structure Timestamp where
  micros : ℤ
  zoned : Bool := true
deriving DecidableEq

@[ext] structure EventFields where
  eventId : Uuid
  aggregate : CommercialAggregate
  aggregateId : Uuid
  currentState : String
  nextState : String
  operation : String
  idempotencyKey : CommercialIdempotencyKey
  occurredAt : Timestamp
  actorReference : String
  evidenceReference : String
  payloadDigest : String
deriving DecidableEq

/-- The checks of the key, and of the event that holds it. -/
def EventFields.postInit (e : EventFields) : Except LedgerError Unit := do
  e.idempotencyKey.postInit
  raiseIf (e.idempotencyKey.aggregate ≠ e.aggregate)
    (.valueError "idempotency aggregate must match event aggregate")
  raiseIf (e.idempotencyKey.aggregateId ≠ e.aggregateId)
    (.valueError "idempotency aggregate_id must match event aggregate_id")
  raiseIf (env.lower (strip e.idempotencyKey.operation) ≠ env.lower (strip e.operation))
    (.valueError "idempotency operation must match event operation")
  raiseIf (e.occurredAt.zoned = false) (.valueError "occurred_at must be timezone aware")
  raiseIf (isBlank e.actorReference = true) (.valueError "actor_reference must not be blank")
  raiseIf (isBlank e.evidenceReference = true) (.valueError "evidence_reference must not be blank")
  raiseIf (isBlank e.payloadDigest = true) (.valueError "payload_digest must not be blank")
  validateCommercialTransition env e.aggregate e.currentState e.nextState e.operation

structure CommercialEvent extends EventFields where
  checked : toEventFields.postInit env = .ok ()
deriving DecidableEq

variable {env}

def validateTopUpTransitionChain : List (CommercialEvent env) → Except LedgerError Unit
  | [] => .error (.valueError "top-up transition chain must not be empty")
  | [last] => raiseIf (last.aggregate ≠ .topUp)
      (.valueError "top-up transition chain contains another aggregate")
  | previous :: current :: rest => do
      raiseIf (previous.aggregate ≠ .topUp)
        (.valueError "top-up transition chain contains another aggregate")
      raiseIf (previous.aggregateId ≠ current.aggregateId)
        (.valueError "top-up transition chain changes aggregate_id")
      raiseIf (previous.nextState ≠ current.currentState)
        (.valueError "top-up transition chain contains a state gap")
      validateTopUpTransitionChain (current :: rest)

def sameEvent (left right : CommercialEvent env) : Bool :=
  left.eventId = right.eventId && left.aggregate = right.aggregate &&
    left.aggregateId = right.aggregateId && left.currentState = right.currentState &&
    left.nextState = right.nextState && left.operation = right.operation &&
    left.idempotencyKey.canonical env = right.idempotencyKey.canonical env &&
    left.actorReference = right.actorReference && left.evidenceReference = right.evidenceReference &&
    left.payloadDigest = right.payloadDigest

/-! ## Staging -/

/-- The events in the order of their ledger sequence. -/
abbrev Ledger (env : Texts) : Type := List (CommercialEvent env)

def Ledger.get? (ledger : Ledger env) (canonicalKey : String) : Option (CommercialEvent env) :=
  ledger.find? fun event => event.idempotencyKey.canonical env = canonicalKey

structure StageResult (env : Texts) where
  appended : List (CommercialEvent env) := []
  replayed : List (CommercialEvent env) := []
deriving DecidableEq

structure Staging (env : Texts) extends StageResult env where
  ledger : Ledger env
  seenNewEvent : Bool := false

def stageEvent (s : Staging env) (event : CommercialEvent env) :
    Except LedgerError (Staging env) :=
  match s.ledger.get? (event.idempotencyKey.canonical env) with
  | none => do
      raiseIf (s.replayed ≠ []) (.topUpEventLedgerConflict
        "top-up event chain is partially replayed; atomic ledger is incomplete")
      pure { s with
        ledger := s.ledger ++ [event]
        appended := s.appended ++ [event]
        seenNewEvent := true }
  | some existing => do
      raiseIf (s.seenNewEvent = true) (.topUpEventLedgerConflict
        "top-up event chain mixes new events with an existing suffix")
      raiseIf (sameEvent existing event = false) (.topUpEventLedgerConflict
        "top-up event idempotency key conflicts with existing event")
      pure { s with replayed := s.replayed ++ [existing] }

def stageLoop : List (CommercialEvent env) → Staging env → Except LedgerError (Staging env)
  | [], s => .ok s
  | event :: events, s => do
      let next ← stageEvent s event
      stageLoop events next

def stageTopUpEvents (events : List (CommercialEvent env)) (ledger : Ledger env) :
    Except LedgerError (Staging env) := do
  validateTopUpTransitionChain events
  stageLoop events { ledger := ledger }

/-- The unique columns of the table. -/
structure Ledger.Valid (ledger : Ledger env) : Prop where
  event_id : (ledger.map fun event => event.eventId).Nodup
  canonical_key : (ledger.map fun event => event.idempotencyKey.canonical env).Nodup

instance : DecidablePred (@Ledger.Valid env) := fun _ =>
  decidable_of_iff (_ ∧ _) ⟨fun ⟨a, b⟩ => ⟨a, b⟩, fun ⟨a, b⟩ => ⟨a, b⟩⟩

def ending : Except LedgerError (Staging env) → Ending LedgerError (StageResult env) (Ledger env)
  | .error e => .rollback e
  | .ok s => .commit s.ledger (.ok s.toStageResult)

/-- Staging in a unit of work of its own. -/
def service (env : Texts) :
    Service (List (CommercialEvent env)) LedgerError (StageResult env) (Ledger env) where
  Valid := Ledger.Valid
  decValid := inferInstance
  violation := .integrityError
  work events ledger := ending (stageTopUpEvents events ledger)

/-! ## Paths -/

variable {events chain : List (CommercialEvent env)} {event stored : CommercialEvent env}
  {ledger : Ledger env} {s s' : Staging env}

/-- The next event of an order. -/
def Follows (previous current : CommercialEvent env) : Prop :=
  previous.aggregateId = current.aggregateId ∧ previous.nextState = current.currentState

theorem validate_eq_ok : validateTopUpTransitionChain events = .ok () ↔
    events ≠ [] ∧ (∀ event ∈ events, event.aggregate = .topUp) ∧ events.IsChain Follows := by
  induction events with
  | nil => simp [validateTopUpTransitionChain]
  | cons previous events ih =>
    cases events with
    | nil => simp [validateTopUpTransitionChain]
    | cons current rest =>
      rw [List.forall_mem_cons, List.isChain_cons_cons, Follows]
      simp only [validateTopUpTransitionChain, raiseIf_bind_ok, ne_eq, not_not, ih]
      tauto

theorem transition_allowed (event : CommercialEvent env) :
    (normalizeCommercialState env event.currentState, normalizeCommercialState env event.nextState) ∈
      event.aggregate.transitions := by
  have hchecked := event.checked
  simp only [EventFields.postInit, validateCommercialTransition, check_bind_ok, raiseIf_eq_ok,
    not_not] at hchecked
  exact hchecked.2.2.2.2.2.2.2.2.2.2.2.2

/-- A path of the transition authority. -/
structure LegalPath (chain : List (CommercialEvent env)) : Prop where
  authorised : chain = [] ∨ validateTopUpTransitionChain chain = .ok ()
  allowed : ∀ event ∈ chain, (normalizeCommercialState env event.currentState,
    normalizeCommercialState env event.nextState) ∈ CommercialAggregate.topUp.transitions

theorem legalPath_iff : LegalPath chain ↔
    (∀ event ∈ chain, event.aggregate = .topUp) ∧ chain.IsChain Follows := by
  constructor
  · rintro ⟨rfl | hvalid, -⟩
    · exact ⟨List.forall_mem_nil _, .nil⟩
    · exact (validate_eq_ok.mp hvalid).2
  · rintro ⟨htopUp, hchain⟩
    constructor
    case authorised =>
      by_cases hempty : chain = []
      · exact .inl hempty
      · exact .inr (validate_eq_ok.mpr ⟨hempty, htopUp, hchain⟩)
    case allowed =>
      intro event hmem
      rw [← htopUp event hmem]
      exact transition_allowed event

def storedChain (ledger : Ledger env) (order : Uuid) : List (CommercialEvent env) :=
  ledger.filter fun event => event.aggregate = .topUp && event.aggregateId = order

/-- The events begin where the stored ones of their order end. -/
def Continues (ledger : Ledger env) (events : List (CommercialEvent env)) : Prop :=
  ∀ first ∈ events.head?, ∀ last ∈ (storedChain ledger first.aggregateId).getLast?,
    last.nextState = first.currentState

theorem aggregateId_eq_of_chain {first : CommercialEvent env}
    (hchain : (first :: events).IsChain Follows) :
    ∀ event ∈ first :: events, event.aggregateId = first.aggregateId := by
  induction events generalizing first with
  | nil => simp
  | cons next events ih =>
    obtain ⟨hfollows, hrest⟩ := List.isChain_cons_cons.mp hchain
    refine List.forall_mem_cons.mpr ⟨rfl, fun event hmem => ?_⟩
    exact (ih hrest event hmem).trans hfollows.1.symm

theorem legalPath_append (hvalid : validateTopUpTransitionChain events = .ok ())
    (hcontinues : Continues ledger events) (order : Uuid)
    (hlegal : LegalPath (storedChain ledger order)) :
    LegalPath (storedChain (ledger ++ events) order) := by
  obtain ⟨hempty, htopUp, hchain⟩ := validate_eq_ok.mp hvalid
  cases events with
  | nil => exact absurd rfl hempty
  | cons first rest =>
    have hids := aggregateId_eq_of_chain hchain
    by_cases horder : first.aggregateId = order
    · have hall : (first :: rest).filter (fun event => event.aggregate = .topUp &&
          event.aggregateId = order) = first :: rest := by
        rw [List.filter_eq_self]
        intro event hmem
        simp [htopUp event hmem, hids event hmem, horder]
      obtain ⟨hstored, hpath⟩ := legalPath_iff.mp hlegal
      rw [storedChain, List.filter_append, hall, legalPath_iff, List.forall_mem_append]
      refine ⟨⟨hstored, htopUp⟩, List.isChain_append.mpr ⟨hpath, hchain, ?_⟩⟩
      intro last hlast next hnext
      obtain rfl := Option.some.inj hnext
      have hown : last.aggregateId = order := by
        have hmem := List.mem_of_getLast? hlast
        have hkey := (List.mem_filter.mp hmem).2
        simp only [Bool.and_eq_true, decide_eq_true_eq] at hkey
        exact hkey.2
      refine ⟨hown.trans horder.symm, ?_⟩
      rw [← horder] at hlast
      exact hcontinues first rfl last hlast
    · have hnone : (first :: rest).filter (fun event => event.aggregate = .topUp &&
          event.aggregateId = order) = [] := by
        rw [List.filter_eq_nil_iff]
        intro event hmem
        simp [hids event hmem, horder]
      rw [storedChain, List.filter_append, hnone, List.append_nil]
      exact hlegal

/-! ## What staging does -/

def Found (ledger : Ledger env) (event stored : CommercialEvent env) : Prop :=
  ledger.get? (event.idempotencyKey.canonical env) = some stored ∧ sameEvent stored event = true

/-- The loop while all events so far are new. -/
structure Appending (ledger : Ledger env) (done : List (CommercialEvent env)) (s : Staging env) :
    Prop where
  content : s.ledger = ledger ++ done
  appended : s.appended = done
  replayed : s.replayed = []
  seen : s.seenNewEvent = true ↔ done ≠ []
  fresh : ∀ event ∈ done, ledger.get? (event.idempotencyKey.canonical env) = none

/-- The loop while all events so far are stored. -/
structure Replaying (ledger : Ledger env) (done : List (CommercialEvent env)) (s : Staging env) :
    Prop where
  content : s.ledger = ledger
  appended : s.appended = []
  seen : s.seenNewEvent = false
  replayed : List.Forall₂ (Found ledger) done s.replayed

def Staged (ledger : Ledger env) (done : List (CommercialEvent env)) (s : Staging env) : Prop :=
  Appending ledger done s ∨ Replaying ledger done s

/-- A new event goes on with new events only. -/
theorem appending_of_none {done : List (CommercialEvent env)} (hstaged : Staged ledger done s)
    (hnone : s.ledger.get? (event.idempotencyKey.canonical env) = none)
    (hreplayed : s.replayed = []) :
    Appending ledger (done ++ [event])
      { s with ledger := s.ledger ++ [event], appended := s.appended ++ [event],
               seenNewEvent := true } := by
  have happending : Appending ledger done s := by
    rcases hstaged with h | h
    · exact h
    · have hdone : done = [] := by
        have hpairs := h.replayed
        rw [hreplayed, List.forall₂_nil_right_iff] at hpairs
        exact hpairs
      subst hdone
      refine ⟨?_, h.appended, hreplayed, ?_, List.forall_mem_nil _⟩
      · rw [h.content, List.append_nil]
      · rw [h.seen]
        simp
  have hfresh : ledger.get? (event.idempotencyKey.canonical env) = none := by
    rw [happending.content, Ledger.get?, List.find?_append, Option.or_eq_none_iff] at hnone
    exact hnone.1
  constructor
  case content =>
    rw [happending.content]
    exact List.append_assoc ledger done [event]
  case appended =>
    rw [happending.appended]
  case replayed => exact hreplayed
  case seen => simp
  case fresh =>
    rw [List.forall_mem_append, List.forall_mem_singleton]
    exact ⟨happending.fresh, hfresh⟩

theorem replaying_of_some {done : List (CommercialEvent env)} (hstaged : Staged ledger done s)
    (hsome : s.ledger.get? (event.idempotencyKey.canonical env) = some stored)
    (hseen : s.seenNewEvent = false) (hsame : sameEvent stored event = true) :
    Replaying ledger (done ++ [event]) { s with replayed := s.replayed ++ [stored] } := by
  have hreplaying : Replaying ledger done s := by
    rcases hstaged with h | h
    · have hdone : done = [] := by
        by_contra hne
        rw [h.seen.mpr hne] at hseen
        cases hseen
      subst hdone
      refine ⟨h.content.trans (List.append_nil ledger), h.appended, hseen, ?_⟩
      rw [h.replayed]
      exact .nil
    · exact h
  rw [hreplaying.content] at hsome
  exact ⟨hreplaying.content, hreplaying.appended, hseen,
    List.rel_append hreplaying.replayed (.cons ⟨hsome, hsame⟩ .nil)⟩

theorem staged_stageEvent {done : List (CommercialEvent env)} (hstaged : Staged ledger done s)
    (h : stageEvent s event = .ok s') : Staged ledger (done ++ [event]) s' := by
  rw [stageEvent] at h
  split at h
  · rename_i hnone
    simp only [raiseIf_bind_ok, ne_eq, not_not, pure_ok] at h
    obtain ⟨hreplayed, rfl⟩ := h
    exact .inl (appending_of_none hstaged hnone hreplayed)
  · rename_i stored hsome
    simp only [raiseIf_bind_ok, Bool.not_eq_true, Bool.not_eq_false, pure_ok] at h
    obtain ⟨hseen, hsame, rfl⟩ := h
    exact .inr (replaying_of_some hstaged hsome hseen hsame)

theorem staged_stageLoop {done : List (CommercialEvent env)} (hstaged : Staged ledger done s)
    (h : stageLoop events s = .ok s') : Staged ledger (done ++ events) s' := by
  induction events generalizing done s with
  | nil =>
    obtain rfl := Except.ok.inj h
    rw [List.append_nil]
    exact hstaged
  | cons event events ih =>
    rw [stageLoop, bind_ok] at h
    obtain ⟨next, hnext, hrest⟩ := h
    have hdone := ih (staged_stageEvent hstaged hnext) hrest
    rw [List.append_assoc, List.singleton_append] at hdone
    exact hdone

theorem staged_of_ok (h : stageTopUpEvents events ledger = .ok s) :
    validateTopUpTransitionChain events = .ok () ∧ Staged ledger events s := by
  rw [stageTopUpEvents, check_bind_ok] at h
  have hstart : Staged ledger [] { ledger := ledger } :=
    .inl ⟨(List.append_nil ledger).symm, rfl, rfl, by simp, List.forall_mem_nil _⟩
  exact ⟨h.1, staged_stageLoop hstart h.2⟩

/-- A staging that is accepted: a chain without a gap, all new or all stored. -/
structure Accepted (db db' : (service env).Database) (events : List (CommercialEvent env))
    (result : StageResult env) : Prop where
  chain : validateTopUpTransitionChain events = .ok ()
  whole : (result.appended = events ∧ result.replayed = [] ∧ db'.1 = db.1 ++ events ∧
      ∀ event ∈ events, Ledger.get? db.1 (event.idempotencyKey.canonical env) = none) ∨
    (result.appended = [] ∧ db' = db ∧ List.Forall₂ (Found db.1) events result.replayed)
  legal : Continues db.1 events → ∀ order, LegalPath (storedChain db.1 order) →
    LegalPath (storedChain db'.1 order)

theorem accepted_of_respond (db : (service env).Database) (events : List (CommercialEvent env)) :
    (∃ e, (service env).respond events db = (.error e, db)) ∨
      ∃ result db', (service env).respond events db = (.ok result, db') ∧
        Accepted db db' events result := by
  rcases Service.respond_error_or_commit (S := service env) events db with
    hraised | ⟨ledger', reply, hvalid, hwork, hrespond⟩
  · exact .inl hraised
  · right
    change ending (stageTopUpEvents events db.1) = .commit ledger' reply at hwork
    cases hstage : stageTopUpEvents events db.1 with
    | error e =>
      rw [hstage] at hwork
      cases hwork
    | ok s =>
      rw [hstage] at hwork
      obtain ⟨rfl, rfl⟩ := Ending.commit.inj hwork
      obtain ⟨hchain, hstaged⟩ := staged_of_ok hstage
      refine ⟨s.toStageResult, _, hrespond, hchain, ?_, ?_⟩
      · rcases hstaged with h | h
        · exact .inl ⟨h.appended, h.replayed, h.content, h.fresh⟩
        · exact .inr ⟨h.appended, Subtype.ext h.content, h.replayed⟩
      · intro hcontinues order hlegal
        rcases hstaged with h | h
        · change LegalPath (storedChain s.ledger order)
          rw [h.content]
          exact legalPath_append hchain hcontinues order hlegal
        · change LegalPath (storedChain s.ledger order)
          rw [h.content]
          exact hlegal

/-- A staging raises and leaves the ledger, or accepts its chain as a whole. -/
theorem staging_all_or_nothing (env : Texts) (db : (service env).Database)
    (events : List (CommercialEvent env)) :
    (∃ e, (service env).respond events db = (.error e, db)) ∨
      ∃ result db', (service env).respond events db = (.ok result, db') ∧
        Accepted db db' events result :=
  accepted_of_respond db events

/-! ## Replays -/

theorem Found.mono (hext : ledger <+: ledger') (h : Found ledger event stored) :
    Found ledger' event stored := by
  obtain ⟨more, rfl⟩ := hext
  refine ⟨?_, h.2⟩
  rw [Ledger.get?, List.find?_append, ← Ledger.get?, h.1]
  rfl

theorem append_only {db final : (service env).Database}
    (h : (service env).Reaches (service env).Any db final) : db.1 <+: final.1 := by
  induction h with
  | refl => exact List.prefix_rfl
  | @tail b events _ _ ih =>
    rcases accepted_of_respond b events with ⟨e, hrespond⟩ | ⟨result, db', hrespond, haccepted⟩
    · rwa [hrespond]
    · rw [hrespond]
      rcases haccepted.whole with ⟨-, -, happended, -⟩ | ⟨-, rfl, -⟩
      · exact ih.trans ⟨events, happended.symm⟩
      · exact ih

theorem stageLoop_found {storeds : List (CommercialEvent env)}
    (h : List.Forall₂ (Found ledger) events storeds) (hledger : s.ledger = ledger)
    (hseen : s.seenNewEvent = false) :
    stageLoop events s = .ok { s with replayed := s.replayed ++ storeds } := by
  induction h generalizing s with
  | nil => rw [List.append_nil]; rfl
  | @cons event stored events storeds hfound _ ih =>
    have hstep : stageEvent s event = .ok { s with replayed := s.replayed ++ [stored] } := by
      simp only [stageEvent, hledger, hfound.1]
      exact raiseIf_bind_ok.mpr ⟨by simp [hseen], raiseIf_bind_ok.mpr ⟨by simp [hfound.2],
        by simp [pure_ok]⟩⟩
    rw [stageLoop, hstep, ok_bind, ih (by exact hledger) (by exact hseen)]
    simp

/-- A chain that was staged is answered with the stored events ever after, and written no more. -/
theorem staging_replayed {db mid final : (service env).Database} {result : StageResult env}
    (hfirst : (service env).respond events db = (.ok result, mid))
    (hlater : (service env).Reaches (service env).Any mid final) :
    ∃ storeds, List.Forall₂ (fun event stored => sameEvent stored event = true) events storeds ∧
      (service env).respond events final = (.ok { replayed := storeds }, final) := by
  rcases accepted_of_respond db events with ⟨e, h⟩ | ⟨result', db', h, haccepted⟩
  · rw [hfirst] at h
    cases (Prod.mk.inj h).1
  obtain ⟨-, rfl⟩ := Prod.mk.inj (hfirst.symm.trans h)
  obtain ⟨storeds, hfound⟩ : ∃ storeds, List.Forall₂ (Found mid.1) events storeds := by
    rcases haccepted.whole with ⟨-, -, happended, -⟩ | ⟨-, rfl, hreplayed⟩
    · refine ⟨events, List.forall₂_same.mpr fun event hmem => ⟨?_, by simp [sameEvent]⟩⟩
      exact Table.get?_of_mem mid.2.canonical_key (happended ▸ List.mem_append_right _ hmem)
    · exact ⟨_, hreplayed⟩
  have hfinal := hfound.imp fun _ _ => Found.mono (append_only hlater)
  refine ⟨storeds, hfinal.imp fun _ _ h => h.2, Service.respond_of_commit ?_ final.2⟩
  have hloop := stageLoop_found hfinal (s := { ledger := final.1 }) rfl rfl
  change ending (stageTopUpEvents events final.1) = _
  rw [stageTopUpEvents, haccepted.chain, ok_bind, hloop]
  rfl

namespace Sample

def texts : Texts where
  lower text := String.ofList (text.toList.map Char.toLower)
  uuid id := toString id

/-- A payment of the order 1 is recorded. -/
def fields (eventId : Uuid) (requestKey : String) (micros : ℤ) : EventFields where
  eventId := eventId
  aggregate := .topUp
  aggregateId := 1
  currentState := "awaiting_payment"
  nextState := "payment_pending"
  operation := "record_payment"
  idempotencyKey := ⟨.topUp, 1, "record_payment", requestKey⟩
  occurredAt := { micros := micros }
  actorReference := "payment-verifier:test"
  evidenceReference := "audit://payment/001"
  payloadDigest := "sha256:payment"

def recorded : CommercialEvent texts := ⟨fields 10 "first" 0, by decide +kernel⟩

def recordedLater : CommercialEvent texts := ⟨fields 10 "first" 60, by decide +kernel⟩

def recordedAgain : CommercialEvent texts := ⟨fields 11 "second" 60, by decide +kernel⟩

def oneRecorded : (service texts).Database := ⟨[recorded], by decide +kernel⟩

/-- A second chain of the order starts where the first one did, and is appended. -/
theorem second_chain_accepted :
    ((service texts).respond [recordedAgain] oneRecorded).1 = .ok { appended := [recordedAgain] } ∧
      LegalPath (storedChain oneRecorded.1 1) ∧
      ¬ LegalPath (storedChain ((service texts).respond [recordedAgain] oneRecorded).2.1 1) := by
  refine ⟨by decide +kernel, ⟨.inr (by decide +kernel), by decide +kernel⟩, fun hlegal => ?_⟩
  have hauthorised := hlegal.authorised
  revert hauthorised
  decide +kernel

/-- An event that occurred at another time replays the stored one. -/
example : ((service texts).respond [recordedLater] oneRecorded).1 = .ok { replayed := [recorded] } ∧
    recorded ≠ recordedLater := by
  decide +kernel

/-- Another chain is staged between the two calls. -/
theorem staging_replayed_later :
    let mid := ((service texts).respond [recordedLater] oneRecorded).2
    let final := ((service texts).respond [recordedAgain] mid).2
    ∃ storeds, List.Forall₂ (fun event stored => sameEvent stored event = true) [recordedLater]
        storeds ∧
      (service texts).respond [recordedLater] final = (.ok { replayed := storeds }, final) := by
  have hfirst : ((service texts).respond [recordedLater] oneRecorded).1 =
      .ok { replayed := [recorded] } := by decide +kernel
  exact staging_replayed (Prod.ext hfirst rfl) (.single _ _ trivial)

end Sample

end MaestroKernel.Billing.TopUpLedger
