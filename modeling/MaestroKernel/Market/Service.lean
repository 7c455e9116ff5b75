import MaestroKernel.Market.Quota
import MaestroKernel.Market.TopUps

/-! # The marketplace service

Every unit of work of the modules above, over one database. -/

namespace MaestroKernel.Market

open Table Checked Transaction

/-- A call, with the ids that it draws. -/
inductive Request where
  | ingest (webhook : VerifiedWebhook) (rawBody : String) (receivedAt : Datetime) (id : Uuid)
  | process (inboxId : Uuid) (decidedAt : Datetime) (draw : Draw)
  | recordUsage (command : UsageCommand) (id : Uuid)
  | rollover (command : RolloverCommand) (id : Uuid)
  | expireRollover (subscriptionId : Uuid) (evaluatedAt : Datetime)
  | grant (command : GrantCommand) (id : Uuid)
  | reverse (command : ReversalCommand) (id : Uuid)
  | processTopUp (inboxId : Uuid) (processedAt : Datetime) (paymentId grantId : Uuid)
  | processRefund (inboxId : Uuid) (processedAt : Datetime) (reversalId : Uuid)
  | verifyLocalPayment (command : LocalPaymentCommand) (paymentId grantId : Uuid)

inductive Reply where
  | ingested (entry : WebhookInboxEntry) (replayed : Bool)
  | decided (decision : ReconciliationDecision)
  | used (usage : SubscriptionQuotaCycleUsage)
  | rolledOver (cycle : SubscriptionQuotaCycle)
  | expired
  | granted (result : GrantResult)
  | reversed (result : ReversalResult)
  | refunded (result : RefundResult)
deriving DecidableEq

/-- The tables that a unit of work commits, and what it then returns or raises. -/
def perform (env : Platform) (request : Request) (db : Tables) :
    Except MarketError (Except MarketError Reply × Tables) :=
  match request with
  | .ingest webhook rawBody receivedAt id => do
      let ((entry, replayed), db) ← ingestVerifiedWebhook env webhook rawBody receivedAt id db
      pure (.ok (.ingested entry replayed), db)
  | .process inboxId decidedAt draw => do
      let (decision, db) ← processReconciliation env inboxId decidedAt draw db
      pure (.ok (.decided decision), db)
  | .recordUsage command id => do
      let (usage, db) ← recordUsage command id db
      pure (usage.map .used, db)
  | .rollover command id => do
      let (cycle, db) ← rolloverQuota env command id db
      pure (.ok (.rolledOver cycle), db)
  | .expireRollover subscriptionId evaluatedAt => do
      let db ← expireOverdueRollover subscriptionId evaluatedAt db
      pure (.ok .expired, db)
  | .grant command id => do
      let (result, db) ← applyVerifiedTopUp env command id db
      pure (.ok (.granted result), db)
  | .reverse command id => do
      let (result, db) ← reverseTopUp command id db
      pure (.ok (.reversed result), db)
  | .processTopUp inboxId processedAt paymentId grantId => do
      let (result, db) ← processTopUp env inboxId processedAt paymentId grantId db
      pure (.ok (.granted result), db)
  | .processRefund inboxId processedAt reversalId => do
      let (result, db) ← processTopUpRefund env inboxId processedAt reversalId db
      pure (.ok (.refunded result), db)
  | .verifyLocalPayment command paymentId grantId => do
      let (result, after) ← verifyLocalPayment env command paymentId grantId db
      -- a replayed grant is returned without a commit
      pure (.ok (.granted result), if result.idempotentReplay then db else after)

def work (env : Platform) (request : Request) (db : Tables) : Ending MarketError Reply Tables :=
  match perform env request db with
  | .error e => .rollback e
  | .ok (reply, db) => .commit db reply

/-- The service over its database. -/
def market (env : Platform) : Service Request MarketError Reply Tables where
  Valid := Tables.Valid
  decValid := inferInstance
  violation := .integrityError
  work := work env

variable {env : Platform} {request : Request} {db db' : Tables} {reply : Except MarketError Reply}

theorem work_eq_commit : work env request db = .commit db' reply ↔
    perform env request db = .ok (reply, db') := by
  rw [work]
  cases h : perform env request db with
  | error e => simp
  | ok r => simp [Prod.ext_iff, and_comm]

theorem work_eq_rollback {e : MarketError} : work env request db = .rollback e ↔
    perform env request db = .error e := by
  rw [work]
  cases h : perform env request db with
  | error e => simp
  | ok r => simp

theorem commit_of_respond {start mid : (market env).Database} {reply : Reply}
    (h : (market env).respond request start = (.ok reply, mid)) :
    perform env request start.1 = .ok (.ok reply, mid.1) := by
  obtain ⟨tables, hvalid, hwork, hmid⟩ := Service.commit_of_ok (congrArg Prod.fst h)
  obtain rfl : mid = ⟨tables, hvalid⟩ := (congrArg Prod.snd h).symm.trans hmid
  exact work_eq_commit.mp hwork

theorem respond_of_read {final : (market env).Database} {reply : Except MarketError Reply}
    (h : perform env request final.1 = .ok (reply, final.1)) :
    (market env).respond request final = (reply, final) :=
  Service.respond_of_commit (work_eq_commit.mpr h) final.2

theorem respond_of_error {final : (market env).Database} {e : MarketError}
    (h : perform env request final.1 = .error e) :
    (market env).respond request final = (.error e, final) :=
  Service.respond_of_rollback (work_eq_rollback.mpr h)

theorem work_commits (h : (perform env request db).isOk = true) :
    ∃ db' reply, work env request db = .commit db' reply := by
  cases hperform : perform env request db with
  | error e =>
    rw [hperform] at h
    cases h
  | ok result => exact ⟨result.2, result.1, work_eq_commit.mpr hperform⟩

end MaestroKernel.Market
