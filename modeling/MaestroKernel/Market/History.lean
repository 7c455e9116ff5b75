import MaestroKernel.Library.Histories
import MaestroKernel.Market.Restriction

/-! # The history of a runtime

A runtime is written by provider events and by the end of its grace period, which a usage finds or
a scheduler. Each of them raises its version and moves its time forward, unless a grace period
ended before the stage that it ends had begun. -/

namespace MaestroKernel.Market

open Table Checked Transaction Histories

/-! ## Changes -/

/-- `advance_expired_runtime_stage` on a row; where it raises nothing is written. -/
def Tables.advanceRuntime (db : Tables) (runtimeId : Uuid) (evaluatedAt : Datetime) : Tables :=
  match get? SubscriptionRuntime.id db.runtimes runtimeId with
  | none => db
  | some runtime =>
    match advanceExpiredRuntimeStage runtime evaluatedAt with
    | .error _ => db
    | .ok (advanced, _) => db.putRuntime advanced

inductive Change where
  | request (request : Request)
  | advance (runtimeId : Uuid) (evaluatedAt : Datetime)

/-- The database after a unit of work, or after a scheduled advance. -/
def change (env : Platform) (db : (market env).Database) : Change → (market env).Database
  | .request request => ((market env).respond request db).2
  | .advance runtimeId evaluatedAt =>
    if h : (db.1.advanceRuntime runtimeId evaluatedAt).Valid then ⟨_, h⟩ else db

/-- What a row may become. -/
structure SubscriptionRuntime.Precedes (runtime later : SubscriptionRuntime) : Prop where
  version : later = runtime ∨ runtime.version < later.version
  effectiveAt : runtime.effectiveAt ≤ later.effectiveAt
  terminated : runtime.accessStage = .terminated → later.accessStage = .terminated

/-- Every row is there after the change, unchanged or in a later version. -/
def Forward (env : Platform) (db : (market env).Database) (c : Change) : Prop :=
  ∀ runtime ∈ db.1.runtimes, ∃ later ∈ (change env db c).1.runtimes,
    later.id = runtime.id ∧ runtime.Precedes later

/-- An accepted failure of a month that has failed before, later than the end of the grace period
that it leaves in place. -/
structure LateFailure (env : Platform) (request : Request) (db : Tables) (entry : WebhookInboxEntry)
    (draw : Draw) (subscription : Subscription) (effectiveAt : Datetime)
    (record : SubscriptionDelinquency) (graceUntil : Datetime) : Prop where
  accepted : Accepted env request db entry draw subscription effectiveAt
  event : entry.eventName = .subscriptionPaymentFailed
  delinquent : db.delinquencyOf subscription.id = some record
  sameMonth : ¬ record.IsNewCycle effectiveAt
  running : record.graceStartedAt ≠ none ∧ record.graceUntil = some graceUntil
  late : graceUntil < effectiveAt

def FailsLate (env : Platform) (db : (market env).Database) (c : Change) : Prop :=
  ∃ request entry draw subscription effectiveAt record graceUntil, c = .request request ∧
    LateFailure env request db.1 entry draw subscription effectiveAt record graceUntil

/-- No grace period ends before the stage of grace takes effect. -/
def Tables.GraceOrdered (db : Tables) : Prop :=
  ∀ runtime ∈ db.runtimes, runtime.accessStage = .grace → ∀ graceUntil ∈ runtime.graceUntil,
    runtime.effectiveAt ≤ graceUntil

section Steps

variable {env : Platform} {request : Request} {db db' : Tables} {runtime later : SubscriptionRuntime}

/-! ## The ways in which a runtime is written -/

/-- The end of the grace period that a failure leaves. -/
theorem SubscriptionDelinquency.graceUntil_of_fail {record : SubscriptionDelinquency}
    {effectiveAt graceUntil : Datetime} (h : (record.fail effectiveAt).graceUntil = some graceUntil) :
    effectiveAt < graceUntil ∨ ¬ record.IsNewCycle effectiveAt ∧ record.graceStartedAt ≠ none ∧
      record.graceUntil = some graceUntil := by
  revert h
  simp only [SubscriptionDelinquency.fail]
  split_ifs with hdeletion hfreeze hstart
  · simp
  · simp
  · intro h
    obtain rfl := Option.some.inj h
    exact .inl (lt_addDays effectiveAt (by decide))
  · intro h
    obtain ⟨hcycle, hstarted⟩ := not_or.mp hstart
    exact .inr ⟨hcycle, hstarted, h⟩

/-- One of the rows is written in place, or none. -/
inductive RuntimeStep (env : Platform) (c : Change) (db db' : Tables) : Prop where
  | same (h : db'.runtimes = db.runtimes)
  | suspended (runtime : SubscriptionRuntime) (graceUntil : Datetime) (hmem : runtime ∈ db.runtimes)
      (hgrace : runtime.accessStage = .grace) (hends : runtime.graceUntil = some graceUntil)
      (h : db'.runtimes = put SubscriptionRuntime.id db.runtimes (runtime.suspend graceUntil))
  | moved (request : Request) (entry : WebhookInboxEntry) (draw : Draw)
      (subscription : Subscription) (effectiveAt : Datetime) (runtime : SubscriptionRuntime)
      (target : AccessStage) (graceUntil : Option Datetime) (hc : c = .request request)
      (haccepted : Accepted env request db entry draw subscription effectiveAt)
      (hmem : runtime ∈ db.runtimes) (hnewer : runtime.effectiveAt ≤ effectiveAt)
      (hterminated : runtime.accessStage = .terminated → target = .terminated)
      (hfailed : target = .grace → entry.eventName = .subscriptionPaymentFailed)
      (hends : target = .grace → graceUntil = some (addDays effectiveAt GRACE_DAYS) ∨
        ∃ record, db.delinquencyOf subscription.id = some record ∧
          graceUntil = (record.fail effectiveAt).graceUntil)
      (h : db'.runtimes =
        put SubscriptionRuntime.id db.runtimes (runtime.moveTo target effectiveAt graceUntil))

/-- Only a failure leaves an end of the grace period. -/
theorem DelinquencyStep.ends {subscription : Subscription} {event : WebhookEvent}
    {effectiveAt : Datetime} {id : Uuid} {graceUntil : Option Datetime}
    (h : DelinquencyStep subscription event effectiveAt id db graceUntil db')
    (hevent : event = .subscriptionPaymentFailed) :
    graceUntil = some (addDays effectiveAt GRACE_DAYS) ∨
      ∃ record, db.delinquencyOf subscription.id = some record ∧
        graceUntil = (record.fail effectiveAt).graceUntil := by
  cases h with
  | first _ hnone => exact .inl rfl
  | again record _ hsome => exact .inr ⟨record, hsome, rfl⟩
  | recovered record hrecovery hsome =>
    rcases hrecovery with h | h
    · cases hevent.symm.trans h
    · cases hevent.symm.trans h
  | untouched hother hnone => exact absurd hevent hother

theorem Processing.runtimeStep {entry closed : WebhookInboxEntry} {decidedAt : Datetime}
    {draw : Draw} {decision : ReconciliationAction × String} {after : Tables}
    (h : Processing env entry decidedAt draw db db' decision closed after) :
    RuntimeStep env (.request (.process entry.id decidedAt draw)) db db' := by
  rw [h.result]
  rcases h.effect with ⟨-, rfl⟩ | ⟨hreconcile, hstep⟩
  · exact .same rfl
  cases hstep with
  | bindingOnly old effectiveAt hadvance hstatus => exact .same rfl
  | lifecycle binding effectiveAt old status hadvance hmove _ haccess =>
    rcases applyRuntimeAccess_ok haccess with
      rfl | ⟨runtime, target, at', graceUntil, mid, haccessMove, rfl⟩
    · exact .same rfl
    obtain rfl : effectiveAt = at' :=
      Option.some.inj (hadvance.effective.symm.trans haccessMove.effective)
    have habout : db.subscriptionFor entry = some old :=
      Tables.subscriptionFor_of_bound hadvance.found hmove.bound hmove.found
    have hmid : mid.runtimes = db.runtimes := haccessMove.delinquency.runtimes
    by_cases hwrites : runtime.accessStage ≠ target ∨ target = .grace
    · refine .moved _ entry draw old effectiveAt runtime target graceUntil rfl
        (h.accepted hreconcile habout hadvance.effective) (mem_of_get? haccessMove.found)
        haccessMove.newer haccessMove.terminated ?_ ?_ ?_
      · rintro rfl
        exact failed_of_target_grace haccessMove.target_eq
      · rintro rfl
        have hevent := failed_of_target_grace haccessMove.target_eq
        rcases haccessMove.delinquency.ends hevent with hfirst | ⟨record, hrecord, hends⟩
        · exact .inl hfirst
        · rw [Subscription.follow_id] at hrecord
          exact .inr ⟨record, hrecord, hends⟩
      · rw [moveRuntime, if_pos hwrites, ← hmid]
        rfl
    · refine .same ?_
      rw [moveRuntime, if_neg hwrites]
      exact hmid

theorem recordUsage_runtimes {command : UsageCommand} {id : Uuid}
    {reply : Except MarketError SubscriptionQuotaCycleUsage}
    (h : recordUsage command id db = .ok (reply, db')) : db'.runtimes = db.runtimes ∨
      ∃ runtime ∈ db.runtimes, ∃ graceUntil, runtime.accessStage = .grace ∧
        runtime.graceUntil = some graceUntil ∧ db' = db.putRuntime (runtime.suspend graceUntil) := by
  cases recordUsage_cases h with
  | replayed existing hmem hkey => exact .inl rfl
  | suspended runtime graceUntil e hfound hgrace hends hover =>
    exact .inr ⟨runtime, mem_of_get? hfound, graceUntil, hgrace, hends, rfl⟩
  | charged cycle runtime hcharged hallowed hopen hperiod => exact .inl rfl

theorem applyVerifiedTopUp_runtimes {command : GrantCommand} {id : Uuid} {result : GrantResult}
    (h : applyVerifiedTopUp env command id db = .ok (result, db')) : db'.runtimes = db.runtimes := by
  rcases applyVerifiedTopUp_ok h with ⟨-, rfl, -⟩ | ⟨-, order, cycle, payment, grant, -, -, rfl⟩
  · rfl
  · rfl

theorem reverseTopUp_runtimes {command : ReversalCommand} {id : Uuid} {result : ReversalResult}
    (h : reverseTopUp command id db = .ok (result, db')) : db'.runtimes = db.runtimes := by
  rcases reverseTopUp_ok h with rfl | ⟨grant, cycle, reversal, -, rfl⟩
  · rfl
  · rw [Tables.afterReversal]
    split
    · rfl
    · rfl

theorem perform_runtimeStep {reply : Except MarketError Reply}
    (h : perform env request db = .ok (reply, db')) : RuntimeStep env (.request request) db db' := by
  cases perform_ok h with
  | unchanged => exact .same rfl
  | stored webhook rawBody receivedAt id entry hentry => exact .same rfl
  | processed entry decidedAt draw decision closed after _ h => exact h.runtimeStep
  | suspended command id runtime graceUntil hfound hgrace =>
    obtain ⟨⟨usage, after⟩, hrecord, h⟩ := bind_ok.mp h
    obtain ⟨-, rfl⟩ := Prod.mk.inj (pure_ok.mp h)
    rcases recordUsage_runtimes hrecord with hsame | ⟨row, hrow, ends, hstage, hends, hput⟩
    · exact .same hsame
    · exact .suspended row ends hrow hstage hends (congrArg Tables.runtimes hput)
  | charged command id cycle h => exact .same rfl
  | carried command id source cycle h => exact .same rfl
  | overdue subscriptionId evaluatedAt => exact .same rfl
  | granted command id result _ h => exact .same (applyVerifiedTopUp_runtimes h)
  | reversed command id result _ h => exact .same (reverseTopUp_runtimes h)
  | paidDelivery inboxId timestamp paymentId grantId entry closed order payment paid after result
      hentry hreceived hclosed hsettled =>
    have hafter : after.runtimes = _ := applyVerifiedTopUp_runtimes hsettled.granting
    refine .same (Eq.trans hafter ?_)
    exact hsettled.sameAccess.runtimes
  | paidLocally command paymentId grantId order payment paid _ result hsettled =>
    have hafter : db'.runtimes = _ := applyVerifiedTopUp_runtimes hsettled.granting
    refine .same (Eq.trans hafter ?_)
    exact hsettled.sameAccess.runtimes
  | partiallyRefunded inboxId timestamp reversalId entry closed hentry hreceived hclosed =>
    exact .same rfl
  | refunded inboxId timestamp reversalId entry closed command result after hentry hreceived hclosed
      horder hreverse =>
    have hafter : after.runtimes = _ := reverseTopUp_runtimes hreverse
    exact .same (Eq.trans hafter rfl)

/-! ## One step -/

theorem SubscriptionRuntime.Precedes.refl (runtime : SubscriptionRuntime) :
    runtime.Precedes runtime := ⟨.inl rfl, le_rfl, fun h => h⟩

/-- A row that is written in place of the one that it follows. -/
theorem forward_put (hunique : (db.runtimes.map SubscriptionRuntime.id).Nodup)
    (hmem : runtime ∈ db.runtimes) (hid : later.id = runtime.id) (h : runtime.Precedes later) :
    ∀ row ∈ db.runtimes, ∃ row' ∈ put SubscriptionRuntime.id db.runtimes later,
      row'.id = row.id ∧ row.Precedes row' := by
  intro row hrow
  by_cases heq : row.id = runtime.id
  · obtain rfl : row = runtime := List.inj_on_of_nodup_map hunique hrow hmem heq
    exact ⟨later, mem_put_self hmem hid, hid, h⟩
  · exact ⟨row, mem_put_of_ne hrow (hid ▸ heq), rfl, .refl row⟩

theorem suspend_follows {graceUntil : Datetime} (hgrace : runtime.accessStage = .grace)
    (h : runtime.effectiveAt ≤ graceUntil) : runtime.Precedes (runtime.suspend graceUntil) where
  version := .inr (Int.lt_succ runtime.version)
  effectiveAt := h
  terminated hterminated := by cases hgrace.symm.trans hterminated

theorem moveTo_follows {target : AccessStage} {effectiveAt : Datetime}
    {graceUntil : Option Datetime} (hnewer : runtime.effectiveAt ≤ effectiveAt)
    (hterminated : runtime.accessStage = .terminated → target = .terminated) :
    runtime.Precedes (runtime.moveTo target effectiveAt graceUntil) where
  version := .inr (Int.lt_succ runtime.version)
  effectiveAt := hnewer
  terminated := hterminated

theorem RuntimeStep.forward (h : RuntimeStep env c db db')
    (hunique : (db.runtimes.map SubscriptionRuntime.id).Nodup) (hordered : db.GraceOrdered) :
    ∀ row ∈ db.runtimes, ∃ row' ∈ db'.runtimes, row'.id = row.id ∧ row.Precedes row' := by
  cases h with
  | same h =>
    rw [h]
    exact fun row hrow => ⟨row, hrow, rfl, .refl row⟩
  | suspended runtime graceUntil hmem hgrace hends h =>
    rw [h]
    exact forward_put hunique hmem rfl
      (suspend_follows hgrace (hordered runtime hmem hgrace graceUntil hends))
  | moved request entry draw subscription effectiveAt runtime target graceUntil hc haccepted hmem
      hnewer hterminated hfailed hends h =>
    rw [h]
    exact forward_put hunique hmem rfl (moveTo_follows hnewer hterminated)

theorem RuntimeStep.graceOrdered (h : RuntimeStep env c db db') (hordered : db.GraceOrdered)
    (hcareful : ¬ ∃ request entry draw subscription effectiveAt record graceUntil,
      c = .request request ∧
        LateFailure env request db entry draw subscription effectiveAt record graceUntil) :
    db'.GraceOrdered := by
  cases h with
  | same h =>
    rw [Tables.GraceOrdered, h]
    exact hordered
  | suspended runtime graceUntil hmem hgrace hends h =>
    rw [Tables.GraceOrdered, h]
    refine forall_put hordered ?_
    intro hstage
    cases hstage
  | moved request entry draw subscription effectiveAt runtime target graceUntil hc haccepted hmem
      hnewer hterminated hfailed hends h =>
    rw [Tables.GraceOrdered, h]
    refine forall_put hordered ?_
    intro hstage ends hrowEnds
    obtain rfl : target = .grace := hstage
    obtain rfl : graceUntil = some ends := hrowEnds
    change effectiveAt ≤ ends
    rcases hends rfl with hfirst | ⟨record, hrecord, hagain⟩
    · rw [Option.some.inj hfirst]
      exact (lt_addDays effectiveAt (by decide)).le
    · rcases SubscriptionDelinquency.graceUntil_of_fail hagain.symm with
        hnew | ⟨hmonth, hstarted, hkept⟩
      · exact hnew.le
      · by_contra hlate
        exact hcareful ⟨request, entry, draw, subscription, effectiveAt, record, ends, hc,
          { accepted := haccepted
            event := hfailed rfl
            delinquent := hrecord
            sameMonth := hmonth
            running := ⟨hstarted, hkept⟩
            late := not_le.mp hlate }⟩

theorem advanceRuntime_step (runtimeId : Uuid) (evaluatedAt : Datetime)
    (hunique : (db.runtimes.map SubscriptionRuntime.id).Nodup) :
    RuntimeStep env (.advance runtimeId evaluatedAt) db (db.advanceRuntime runtimeId evaluatedAt) := by
  rw [Tables.advanceRuntime]
  cases hfound : get? SubscriptionRuntime.id db.runtimes runtimeId with
  | none => exact .same rfl
  | some runtime =>
    dsimp only
    cases hadvance : advanceExpiredRuntimeStage runtime evaluatedAt with
    | error e => exact .same rfl
    | ok advanced =>
      rcases advanceExpired_ok hadvance with
        ⟨-, hsame⟩ | ⟨-, hgrace, graceUntil, hends, -, hrow⟩
      · refine .same ?_
        rw [← hsame] at hfound
        exact put_eq_self hunique (mem_of_get? hfound)
      · refine .suspended runtime graceUntil (mem_of_get? hfound) hgrace hends ?_
        rw [← hrow]
        rfl

theorem change_step (db : (market env).Database) (c : Change) :
    RuntimeStep env c db.1 (change env db c).1 := by
  cases c with
  | request request =>
    rcases Service.respond_cases (S := market env) request db with
      hsame | ⟨tables, reply, hvalid, hwork, hrespond⟩
    · rw [change, hsame]
      exact .same rfl
    · rw [change, hrespond]
      exact perform_runtimeStep (work_eq_commit.mp hwork)
  | advance runtimeId evaluatedAt =>
    rw [change]
    split
    · exact advanceRuntime_step runtimeId evaluatedAt db.2.runtimes.id
    · exact .same rfl

end Steps

/-! ## Runs -/

/-- In every run whose failed payments are not later than the grace period that they leave in
place, every change of a runtime raises its version, never moves its time back, and never leaves
the last stage. -/
theorem history_moves_forward (env : Platform) (start : (market env).Database)
    (hstart : start.1.GraceOrdered) (changes : List Change)
    (hcareful : Along (change env) (fun db c => ¬ FailsLate env db c) start changes) :
    Along (change env) (Forward env) start changes := by
  refine hcareful.imp (I := fun db => db.1.GraceOrdered) hstart ?_ ?_
  · intro db c hordered hc
    exact (change_step db c).graceOrdered hordered hc
  · intro db c hordered _
    exact (change_step db c).forward db.2.runtimes.id hordered

namespace Sample

/-- Failed payments of 1 and of 20 February. -/
def failedInFebruary : (market platform).Database :=
  ⟨tables [entry 1 '1' .subscriptionPaymentFailed .subscriptionInvoices (day 2 1),
    entry 2 '2' .subscriptionPaymentFailed .subscriptionInvoices (day 2 20)], by decide +kernel⟩

theorem failedInFebruary_ordered : failedInFebruary.1.GraceOrdered := by
  intro row hrow hgrace
  obtain rfl : row = runtime := List.mem_singleton.mp hrow
  cases hgrace

/-- The first is processed, and a scheduler comes by in March. -/
def onTime : List Change := [.request (processed 1 (day 2 1)), .advance 1 (day 3 1)]

theorem onTime_careful :
    Along (change platform) (fun db c => ¬ FailsLate platform db c) failedInFebruary onTime := by
  refine ⟨?_, ?_, trivial⟩
  · rintro ⟨request, entry, draw, subscription, effectiveAt, record, graceUntil, -, hlate⟩
    cases hlate.delinquent
  · rintro ⟨request, entry, draw, subscription, effectiveAt, record, graceUntil, hc, -⟩
    cases hc

theorem onTime_forward : Along (change platform) (Forward platform) failedInFebruary onTime :=
  history_moves_forward platform failedInFebruary failedInFebruary_ordered onTime onTime_careful

/-- Both are processed first. -/
def late : List Change := [.request (processed 1 (day 2 1)), .request (processed 2 (day 2 20))]

theorem late_effective : ∃ row ∈ (after (change platform) failedInFebruary late).1.runtimes,
    row.effectiveAt = day 2 20 := by decide +kernel

theorem advanced_effective : ∀ row ∈
    (change platform (after (change platform) failedInFebruary late) (.advance 1 (day 3 1))).1.runtimes,
      row.effectiveAt = day 2 16 := by decide +kernel

end Sample

/-- The second failure of a month leaves the end of the first one's grace period; its own stage then
ends before it took effect. -/
theorem history_goes_back :
    ¬ ∀ (env : Platform) (start : (market env).Database), start.1.GraceOrdered →
      ∀ changes : List Change, Along (change env) (Forward env) start changes := by
  intro hclaim
  have hforward : Forward Sample.platform
      (after (change Sample.platform) Sample.failedInFebruary Sample.late) (.advance 1 (Sample.day 3 1)) :=
    (hclaim Sample.platform Sample.failedInFebruary Sample.failedInFebruary_ordered
      (Sample.late ++ [.advance 1 (Sample.day 3 1)])).at
  obtain ⟨row, hrow, heffective⟩ := Sample.late_effective
  obtain ⟨later, hlater, -, hprecedes⟩ := hforward row hrow
  have hback := hprecedes.effectiveAt
  rw [heffective, Sample.advanced_effective later hlater] at hback
  exact absurd hback (by decide)

end MaestroKernel.Market
