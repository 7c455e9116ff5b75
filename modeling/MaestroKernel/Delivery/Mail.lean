import MaestroKernel.Delivery.Attempts
import MaestroKernel.Delivery.Email

/-! # What a dispatcher of mails counts

Every claim of a batch ends in one of four ways, and the counts of the result are those of the
finalisations that the dispatcher made. -/

namespace MaestroKernel.Delivery.Email

open Interaction Outbox

namespace DeliveryDispatchResult

/-- The counts that the notes of a dispatcher bear out. -/
def ofTally (counts : Tally) : DeliveryDispatchResult :=
  ⟨counts.claimed, counts.delivered, counts.rescheduled, counts.dead, counts.stale⟩

/-- The claims that have been finalised. -/
def finished (r : DeliveryDispatchResult) : ℕ :=
  r.delivered + r.retryScheduled + r.deadLettered + r.staleFinalization

end DeliveryDispatchResult

/-- A row is rescheduled by a dispatcher only, below its maximum, and redriven by an operator. -/
def licence : Licence Op where
  reschedule
    | .dispatchOnce d, attempts => attempts < d.config.maxAttempts
    | .redrive .., _ => False
  redrive
    | .dispatchOnce _ => False
    | .redrive .. => True

/-- A batch ends with the counts of its notes, and every claim of it is in one of them. -/
def post : Op → Outcome → List Note → Prop
  | .dispatchOnce _, .dispatched r, notes => r = .ofTally (tally notes) ∧ r.claimed = r.finished
  | .dispatchOnce _, .redriven _, _ => False
  | .redrive .., _, _ => True

/-- One more claim has been finalised. -/
def Counted (counts : DeliveryDispatchResult) (claims : List (OutboxRow AuthDelivery))
    (counts' : DeliveryDispatchResult) (notes' : List Note)
    (claims' : List (OutboxRow AuthDelivery)) : Prop :=
  claims' = claims ∧ counts' = .ofTally (tally notes') ∧ counts'.claimed = counts.claimed ∧
    counts'.finished = counts.finished + 1

namespace DeliveryDispatcher

variable {d : DeliveryDispatcher} {t : ℕ} {notes : List Note}
  {claims : List (OutboxRow AuthDelivery)} {claim : DeliveryClaim}
  {counts : DeliveryDispatchResult}

def Holds (claims : List (OutboxRow AuthDelivery)) (claim : DeliveryClaim) : Prop :=
  ∃ row ∈ claims, row.claimId = some claim.claimId ∧ row.attemptCount = claim.attemptCount

/-! One statement each. -/

theorem clock_meets : Meets code licence post t (.dispatchOnce d) notes claims clock
    fun _ notes' claims' => notes' = notes ∧ claims' = claims :=
  Meets.clock fun _ => Meets.done ⟨rfl, rfl⟩

theorem markDelivered_meets (outboxId claimId : Uuid) (deliveredAt : ℤ) :
    Meets code licence post t (.dispatchOnce d) notes claims
      (markDelivered outboxId claimId deliveredAt) fun done notes' claims' =>
        notes' = notes ++ [World.settled t outboxId claimId (.finalised claimId .delivered) done] ∧
          claims' = claims :=
  Meets.markDelivered fun _ => Meets.done ⟨rfl, rfl⟩

theorem markFailed_meets (outboxId claimId : Uuid) (availableAt : ℤ) (errorCode : String)
    (deadLetteredAt : Option ℤ) (hlimit : deadLetteredAt = none →
      ∃ row ∈ claims, row.claimId = some claimId ∧ row.attemptCount < d.config.maxAttempts) :
    Meets code licence post t (.dispatchOnce d) notes claims
      (markFailed outboxId claimId availableAt errorCode deadLetteredAt) fun done notes' claims' =>
        notes' = notes ++
          [World.settled t outboxId claimId (World.failure claimId deadLetteredAt) done] ∧
        claims' = claims :=
  Meets.markFailed hlimit fun _ => Meets.done ⟨rfl, rfl⟩

theorem decrypt_meets (purpose : String) :
    Meets code licence post t (.dispatchOnce d) notes claims (decrypt claim purpose)
      fun _ notes' claims' => notes' = notes ∧ claims' = claims :=
  Meets.ask fun _ => Meets.done ⟨rfl, rfl⟩

theorem sendVerificationEmail_meets (template : String) (recipient : Option String)
    (verificationUrl : VerificationUrl) (idempotencyKey : String × Uuid) :
    Meets code licence post t (.dispatchOnce d) notes claims
      (sendVerificationEmail template recipient verificationUrl idempotencyKey)
      fun _ notes' claims' => notes' = notes ∧ claims' = claims :=
  Meets.ask fun _ => Meets.done ⟨rfl, rfl⟩

/-! Their programs. -/

theorem fail_meets (errorCode : String) (terminal : Bool) (hheld : Holds claims claim)
    (hcounts : counts = .ofTally (tally notes)) :
    Meets code licence post t (.dispatchOnce d) notes claims
      (d.fail claim errorCode terminal counts) (Counted counts claims) := by
  unfold fail
  apply Meets.bind clock_meets
  rintro now notes claims ⟨rfl, rfl⟩
  generalize hdead : (if terminal ∨ claim.attemptCount ≥ d.config.maxAttempts then some now
    else none) = deadLetteredAt
  have hlimit : deadLetteredAt = none → ∃ row ∈ claims, row.claimId = some claim.claimId ∧
      row.attemptCount < d.config.maxAttempts := by
    intro halive
    obtain ⟨row, hrow, hid, hattempts⟩ := hheld
    refine ⟨row, hrow, hid, ?_⟩
    rw [halive] at hdead
    simp only [ite_eq_right_iff, reduceCtorEq, imp_false, not_or, ge_iff_le, not_le] at hdead
    rw [hattempts]
    exact hdead.2
  apply Meets.bind (markFailed_meets _ _ _ _ _ hlimit)
  rintro done _ _ ⟨rfl, rfl⟩
  have htally := @tally_failure t notes claim.outboxId claim.claimId deadLetteredAt
  cases done with
  | false =>
    apply Meets.done
    refine ⟨rfl, ?_, rfl, ?_⟩
    · rw [tally_stale, hcounts]
      rfl
    · simp only [DeliveryDispatchResult.finished]
      omega
  | true =>
    cases deadLetteredAt with
    | some at_ =>
      apply Meets.done
      refine ⟨rfl, ?_, rfl, ?_⟩
      · rw [htally, hcounts]
        rfl
      · simp only [DeliveryDispatchResult.finished]
        omega
    | none =>
      apply Meets.done
      refine ⟨rfl, ?_, rfl, ?_⟩
      · rw [htally, hcounts]
        rfl
      · simp only [DeliveryDispatchResult.finished]
        omega

theorem send_meets (profile : DeliveryEventProfile) :
    Meets code licence post t (.dispatchOnce d) notes claims (d.send claim profile)
      fun _ notes' claims' => notes' = notes ∧ claims' = claims := by
  unfold send
  apply Meets.bind (decrypt_meets _)
  rintro token notes claims ⟨rfl, rfl⟩
  cases token with
  | error _ => exact Meets.done ⟨rfl, rfl⟩
  | ok rawToken =>
    apply Meets.bind (sendVerificationEmail_meets _ _ _ _)
    rintro sent notes claims ⟨rfl, rfl⟩
    cases sent with
    | error failure =>
      cases failure with
      | providerError errorCode retryable => exact Meets.done ⟨rfl, rfl⟩
      | unexpected => exact Meets.done ⟨rfl, rfl⟩
    | ok _ => exact Meets.done ⟨rfl, rfl⟩

theorem ineligible_of_unknown (now : ℤ) (h : DELIVERY_EVENT_PROFILES claim.eventType = none) :
    ineligibleError claim now = some "event_type_invalid" := by
  simp [ineligibleError, h]

theorem dispatch_meets (hheld : Holds claims claim) (hcounts : counts = .ofTally (tally notes)) :
    Meets code licence post t (.dispatchOnce d) notes claims (d.dispatch counts claim)
      (Counted counts claims) := by
  unfold dispatch
  apply Meets.bind clock_meets
  rintro now notes claims ⟨rfl, rfl⟩
  cases hineligible : ineligibleError claim now with
  | some error => exact fail_meets error true hheld hcounts
  | none =>
    cases hprofile : DELIVERY_EVENT_PROFILES claim.eventType with
    | none =>
      rw [ineligible_of_unknown now hprofile] at hineligible
      cases hineligible
    | some profile =>
      apply Meets.bind (send_meets profile)
      rintro outcome notes claims ⟨rfl, rfl⟩
      cases outcome with
      | error failure => exact fail_meets failure.1 failure.2 hheld hcounts
      | ok _ =>
        apply Meets.bind clock_meets
        rintro deliveredAt notes claims ⟨rfl, rfl⟩
        apply Meets.bind (markDelivered_meets _ _ _)
        rintro done _ _ ⟨rfl, rfl⟩
        cases done with
        | false =>
          apply Meets.done
          refine ⟨rfl, ?_, rfl, ?_⟩
          · rw [tally_stale, hcounts]
            rfl
          · simp only [DeliveryDispatchResult.finished]
            omega
        | true =>
          apply Meets.done
          refine ⟨rfl, ?_, rfl, ?_⟩
          · rw [tally_delivered, hcounts]
            rfl
          · simp only [DeliveryDispatchResult.finished]
            omega

theorem loop_meets (batch : List DeliveryClaim) (hheld : ∀ claim ∈ batch, Holds claims claim)
    (hcounts : counts = .ofTally (tally notes)) :
    Meets code licence post t (.dispatchOnce d) notes claims (batch.foldlM d.dispatch counts)
      fun counts' notes' _ => counts' = .ofTally (tally notes') ∧
        counts'.claimed = counts.claimed ∧ counts'.finished = counts.finished + batch.length := by
  induction batch generalizing counts notes with
  | nil => exact Meets.done ⟨hcounts, rfl, rfl⟩
  | cons claim batch ih =>
    rw [List.foldlM_cons]
    apply Meets.bind (dispatch_meets (hheld claim List.mem_cons_self) hcounts)
    rintro counts' notes' claims' ⟨rfl, hcounts', hclaimed, hfinished⟩
    have hrest := ih (fun claim hmem => hheld claim (List.mem_cons_of_mem _ hmem)) hcounts'
    apply hrest.mono
    rintro final notes'' _ ⟨hfinal, hclaimed', hfinished'⟩
    refine ⟨hfinal, hclaimed'.trans hclaimed, ?_⟩
    rw [hfinished', hfinished, List.length_cons]
    omega

theorem claimsOf_spec {rows : List (OutboxRow AuthDelivery × Joined)}
    (hsome : ∀ row ∈ rows, row.1.claimId.isSome) :
    (claimsOf rows).length = rows.length ∧
      ∀ claim ∈ claimsOf rows, Holds (rows.map Prod.fst) claim := by
  constructor
  · apply List.filterMap_length_eq_length.mpr
    intro row hrow
    simpa using hsome row hrow
  · intro claim hclaim
    obtain ⟨row, hrow, hmap⟩ := List.mem_filterMap.mp hclaim
    obtain ⟨claimId, hid, rfl⟩ := Option.map_eq_some_iff.mp hmap
    exact ⟨row.1, List.mem_map_of_mem hrow, hid, rfl⟩

theorem claimBatch_meets (now leaseTimeout : ℤ) (batchSize : ℕ) :
    Meets code licence post t (.dispatchOnce d) [] [] (claimBatch now leaseTimeout batchSize)
      fun batch notes' claims' => tally notes' = ⟨batch.length, 0, 0, 0, 0⟩ ∧
        ∀ claim ∈ batch, Holds claims' claim := by
  apply Meets.claimBatch
  intro rows added hlength hadded hsome
  obtain ⟨hbatch, hheld⟩ := claimsOf_spec hsome
  apply Meets.done
  refine ⟨?_, hheld⟩
  rw [List.nil_append, tally_claims hadded, hlength, hbatch]

theorem dispatchOnce_meets :
    Meets code licence post t (.dispatchOnce d) [] [] d.dispatchOnce
      fun r notes _ => r = .ofTally (tally notes) ∧ r.claimed = r.finished := by
  unfold dispatchOnce
  apply Meets.bind clock_meets
  rintro now notes claims ⟨rfl, rfl⟩
  apply Meets.bind (claimBatch_meets _ _ _)
  rintro batch notes claims ⟨htally, hheld⟩
  have hstart : { claimed := batch.length } = DeliveryDispatchResult.ofTally (tally notes) := by
    rw [htally]
    rfl
  apply (loop_meets batch hheld hstart).mono
  rintro final notes' _ ⟨hfinal, hclaimed, hfinished⟩
  refine ⟨hfinal, ?_⟩
  rw [hclaimed, hfinished]
  simp [DeliveryDispatchResult.finished]

end DeliveryDispatcher

theorem code_implemented : (contract licence post).Implemented machine := by
  apply implemented_of_meets
  intro t i
  cases i with
  | dispatchOnce d =>
    apply Meets.bind DeliveryDispatcher.dispatchOnce_meets
    rintro r notes claims hr
    exact Meets.done hr
  | redrive outboxId availableAt =>
    apply Meets.redriveDeadLetter trivial
    intro row added
    exact Meets.done trivial

/-! ## Every run -/

abbrev Mails : Type :=
  Config Op (Command Question) (Reply AuthDelivery Joined Answer) Outcome (World AuthDelivery)

abbrev Step : Type := Interaction.Event Op (Chance Joined Answer)

variable {table₀ : OutboxTable AuthDelivery} {evs : List Step} {cfg : Mails}

theorem safe_reaches {ok : Step → Mails → Prop}
    (h : machine.Reaches ok (Machine.init (World.start table₀)) cfg) :
    cfg.Safe machine (contract licence post) :=
  (Config.safe_init _ (World.start_known table₀) fun _ => rfl).reaches contract_sound
    code_implemented h

/-- In every interleaving rows are finalised once between redrives and not claimed afterwards,
outdated claims change nothing, and every claim of a batch is counted. -/
theorem deliveries_orderly
    (h : machine.run evs (Machine.init (World.start table₀)) = some cfg) :
    cfg.shared.Orderly table₀ ∧
      ∀ t d r, cfg.threads t = some (.dispatchOnce d, .done (.dispatched r)) →
        r.claimed = r.delivered + r.retryScheduled + r.deadLettered + r.staleFinalization ∧
        r = .ofTally (tally (own t cfg.shared.log)) := by
  have hreaches := Machine.run_reaches h
  refine ⟨(sound_reaches hreaches).orderly, ?_⟩
  intro t d r hthread
  have hpost := (safe_reaches hreaches).post contract_sound hthread
  exact ⟨hpost.2, hpost.1⟩

/-- All dispatchers have one maximum, and a batch takes over rows below it only. -/
def Within (config : DeliveryDispatcherConfig) (ev : Step) (cfg : Mails) : Prop :=
  match ev with
  | .start _ (.dispatchOnce d) => d.config.maxAttempts = config.maxAttempts
  | .start _ (.redrive ..) => True
  | .run t e => ∀ i c k, cfg.threads t = some (i, .call c k) →
      TakesOver config.maxAttempts e c cfg.shared

/-- As long as no row with all its attempts is taken over from a dispatcher that has not finalised
it, a row is claimed at most `max_attempts` times between two redrives. -/
theorem attempts_bounded (config : DeliveryDispatcherConfig)
    (h : machine.Reaches (Within config) (Machine.init (World.start table₀)) cfg) :
    ∀ row ∈ cfg.shared.table.rows, ∀ before window after,
      history cfg.shared.log row.id = before ++ window ++ after → .redriven ∉ window →
      (claims window).length ≤ config.maxAttempts := by
  have hbelow : machine.Reaches (KeepsBelow config.maxAttempts)
      (Machine.init (World.start table₀)) cfg := by
    induction h with
    | refl => exact .refl _
    | @tail b c ev hreaches hok hnext ih =>
      refine ih.tail ev ?_ hnext
      rintro t e i command k rfl hthread
      refine ⟨hok i command k hthread, ?_⟩
      obtain ⟨j, command', k', hthread', _, _, _, hallowed⟩ :=
        (safe_reaches hreaches).guar contract_sound hnext
      obtain ⟨rfl, hcall⟩ := Prod.mk.inj (Option.some.inj (hthread.symm.trans hthread'))
      cases hcall
      intro outboxId claimId availableAt errorCode heq row hrow hheld
      have hlimit := hallowed.reschedule outboxId claimId availableAt errorCode heq row
        hrow hheld
      have hstarted := hreaches.started
        (P := fun i => ∀ d, i = .dispatchOnce d → d.config.maxAttempts = config.maxAttempts)
        (fun _ i _ hstart d hd => by
          subst hd
          exact hstart) hthread
      cases i with
      | dispatchOnce d =>
        rw [← hstarted d rfl]
        exact hlimit
      | redrive outboxId availableAt => exact hlimit.elim
  intro row hrow before window after hhistory hkept
  exact (bounded_reaches hbelow).claims_le config.attempts_range.1 hrow hhistory hkept

/-- `Within`, computed. -/
def withinCheck (config : DeliveryDispatcherConfig) (ev : Step) (cfg : Mails) : Bool :=
  match ev with
  | .start _ (.dispatchOnce d) => d.config.maxAttempts = config.maxAttempts
  | .start _ (.redrive ..) => true
  | .run t e =>
    match cfg.threads t with
    | some (_, .call (.claimBatch now leaseTimeout batchSize) _) =>
      (cfg.shared.table.select now leaseTimeout batchSize e.locked e.tie).all fun row =>
        row.claimId.isNone || row.attemptCount < config.maxAttempts
    | _ => true

theorem within_of_check {config : DeliveryDispatcherConfig} (ev : Step) (cfg : Mails)
    (h : withinCheck config ev cfg = true) : Within config ev cfg := by
  cases ev with
  | start t op =>
    cases op with
    | dispatchOnce d => simpa [withinCheck, Within] using h
    | redrive outboxId availableAt => exact trivial
  | run t e =>
    intro i c k hthread now leaseTimeout batchSize heq row hrow hclaim
    subst heq
    simp only [withinCheck, hthread, List.all_eq_true, Bool.or_eq_true, decide_eq_true_eq] at h
    rcases h row hrow with hnone | hbelow
    · simp [Option.isNone_iff_eq_none.mp hnone] at hclaim
    · exact hbelow

namespace Sample

def config : DeliveryDispatcherConfig := { publicBaseUrl := "https://example.org", maxAttempts := 1 }

def dispatcher : DeliveryDispatcher := ⟨config, fun _ _ => 0⟩

/-- A dispatcher with the attempts of the default. -/
def patient : DeliveryDispatcher := ⟨{ publicBaseUrl := "https://example.org" }, fun _ _ => 0⟩

/-- The mail that verifies the address of user 7. -/
def row : OutboxRow AuthDelivery where
  id := 1
  availableAt := 0
  attemptCount := 0
  claimId := none
  claimedAt := none
  deliveredAt := none
  deadLetteredAt := none
  lastErrorCode := none
  createdAt := 0
  data := ⟨7, some 3, none, "verify_email", [], "v1"⟩

def table : OutboxTable AuthDelivery := ⟨[row], List.nodup_singleton _⟩

/-- The mail is sent, and the claim ids are new. -/
def chance (now : ℤ) (claimId : Uuid) : Chance Joined Answer where
  now := now
  answer
    | .decrypt .. => .ok "token"
    | .sendVerificationEmail .. => .ok ()
  joined := fun _ => { userEmail := "user@example.org", userStatus := .pendingVerification
                       actionToken := some ⟨1000 * second, none, none⟩ }
  uuids := [claimId]

def start : Mails := Machine.init (World.start table)

/-- Client 0 claims the mail and stops for as long as its lease runs; client 1 takes it over. -/
def takeover (d : DeliveryDispatcher) : List Step :=
  [.start 0 (.dispatchOnce d), .run 0 (chance 0 10), .run 0 (chance 0 10),
    .start 1 (.dispatchOnce d), .run 1 (chance (300 * second) 11),
    .run 1 (chance (300 * second) 11)]

/-- Client 1 delivers the mail, and then client 0 tries to. -/
def finished : List Step :=
  takeover patient ++ List.replicate 5 (.run 1 (chance (301 * second) 12)) ++
    List.replicate 5 (.run 0 (chance (302 * second) 13))

theorem finished_runs : (machine.run finished start).isSome = true := by decide +kernel

def afterwards : Mails := (machine.run finished start).get finished_runs

theorem afterwards_orderly : afterwards.shared.Orderly table ∧
    ∀ t d r, afterwards.threads t = some (.dispatchOnce d, .done (.dispatched r)) →
      r.claimed = r.delivered + r.retryScheduled + r.deadLettered + r.staleFinalization ∧
      r = .ofTally (tally (own t afterwards.shared.log)) :=
  deliveries_orderly (Option.some_get finished_runs).symm

theorem patient_runs :
    (machine.runIf (withinCheck patient.config) (takeover patient) start).isSome = true := by
  decide +kernel

def afterPatient : Mails :=
  (machine.runIf (withinCheck patient.config) (takeover patient) start).get patient_runs

/-- The second of eight attempts takes the mail over. -/
theorem patient_bounded : afterPatient.shared.table.rows.length = 1 ∧
    ∀ row ∈ afterPatient.shared.table.rows, ∀ before window after,
      history afterPatient.shared.log row.id = before ++ window ++ after →
      .redriven ∉ window → (claims window).length ≤ 8 :=
  ⟨by decide +kernel, attempts_bounded patient.config
    (Machine.runIf_reaches within_of_check (Option.some_get patient_runs).symm)⟩

theorem takeover_runs : (machine.run (takeover dispatcher) start).isSome = true := by
  decide +kernel

def afterTakeover : Mails := (machine.run (takeover dispatcher) start).get takeover_runs

/-- One attempt is allowed, and the mail is claimed twice. -/
theorem takeover_exceeds : ¬ ∀ row ∈ afterTakeover.shared.table.rows, ∀ before window after,
    history afterTakeover.shared.log row.id = before ++ window ++ after →
    .redriven ∉ window → (claims window).length ≤ config.maxAttempts := by
  intro h
  have hrows : ∃ row ∈ afterTakeover.shared.table.rows,
      history afterTakeover.shared.log row.id = [.claimed 10, .claimed 11] := by
    decide +kernel
  obtain ⟨row, hrow, hhistory⟩ := hrows
  have hle := h row hrow [] [.claimed 10, .claimed 11] [] (by simpa using hhistory) (by simp)
  simp [claims, Action.claim?, config] at hle

end Sample

end MaestroKernel.Delivery.Email
