import MaestroKernel.Market.Steps
import MaestroKernel.Market.Sample

/-! # The quota ledger

Every unit of work makes at most one move of the ledger: it charges a cycle, carries into
a new one, grants, reverses, or relabels the rollover. The counters of a cycle stay the
sums of its rows. -/

namespace MaestroKernel.Market

open Table Checked Transaction

variable {env : Platform} {request : Request} {db db' : Tables}

/-! ## The moves -/

/-- Only the rollover label of a cycle changes. -/
structure SubscriptionQuotaCycle.Relabels (cycle cycle' : SubscriptionQuotaCycle) : Prop where
  id : cycle'.id = cycle.id
  subscriptionId : cycle'.subscriptionId = cycle.subscriptionId
  sourceCycleId : cycle'.sourceCycleId = cycle.sourceCycleId
  metricCode : cycle'.metricCode = cycle.metricCode
  periodStart : cycle'.periodStart = cycle.periodStart
  periodEnd : cycle'.periodEnd = cycle.periodEnd
  baseLimitUnits : cycle'.baseLimitUnits = cycle.baseLimitUnits
  rolloverUnits : cycle'.rolloverUnits = cycle.rolloverUnits
  topUpUnits : cycle'.topUpUnits = cycle.topUpUnits
  usedUnits : cycle'.usedUnits = cycle.usedUnits
  version : cycle.version ≤ cycle'.version

namespace SubscriptionQuotaCycle.Relabels

theorem refl (cycle : SubscriptionQuotaCycle) : cycle.Relabels cycle :=
  ⟨rfl, rfl, rfl, rfl, rfl, rfl, rfl, rfl, rfl, rfl, le_refl _⟩

theorem lock (cycle : SubscriptionQuotaCycle) (effectiveAt expiresAt : Datetime) :
    cycle.Relabels (cycle.lock effectiveAt expiresAt) :=
  ⟨rfl, rfl, rfl, rfl, rfl, rfl, rfl, rfl, rfl, rfl, Int.le_add_one (le_refl _)⟩

theorem restore (cycle : SubscriptionQuotaCycle) (effectiveAt : Datetime) :
    cycle.Relabels (cycle.restore effectiveAt) :=
  ⟨rfl, rfl, rfl, rfl, rfl, rfl, rfl, rfl, rfl, rfl, Int.le_add_one (le_refl _)⟩

theorem expire (cycle : SubscriptionQuotaCycle) (effectiveAt : Datetime) :
    cycle.Relabels (cycle.expire effectiveAt) :=
  ⟨rfl, rfl, rfl, rfl, rfl, rfl, rfl, rfl, rfl, rfl, Int.le_add_one (le_refl _)⟩

theorem lockFor (subscriptionId : Uuid) (effectiveAt expiresAt : Datetime)
    (cycle : SubscriptionQuotaCycle) :
    cycle.Relabels (lockFor subscriptionId effectiveAt expiresAt cycle) := by
  rw [Market.lockFor]
  split
  · exact lock cycle effectiveAt expiresAt
  · exact refl cycle

theorem settleFor (subscriptionId : Uuid)
    {settle : Datetime → SubscriptionQuotaCycle → SubscriptionQuotaCycle}
    (hsettle : ∀ expiresAt cycle, SubscriptionQuotaCycle.Relabels cycle (settle expiresAt cycle))
    (cycle : SubscriptionQuotaCycle) :
    cycle.Relabels (settleFor subscriptionId settle cycle) := by
  rw [Market.settleFor]
  split
  · split
    · exact hsettle _ cycle
    · exact refl cycle
  · exact refl cycle

theorem restoreOrExpire (effectiveAt expiresAt : Datetime) (cycle : SubscriptionQuotaCycle) :
    cycle.Relabels (restoreOrExpire effectiveAt expiresAt cycle) := by
  rw [Market.restoreOrExpire]
  split
  · exact restore cycle effectiveAt
  · exact expire cycle effectiveAt

theorem expireIfOverdue (evaluatedAt expiresAt : Datetime) (cycle : SubscriptionQuotaCycle) :
    cycle.Relabels (expireIfOverdue evaluatedAt expiresAt cycle) := by
  rw [Market.expireIfOverdue]
  split
  · exact refl cycle
  · exact expire cycle evaluatedAt

end SubscriptionQuotaCycle.Relabels

def Request.reversedOrder (env : Platform) (db : Tables) : Request → Option Uuid
  | .reverse command _ => some command.orderId
  | .processRefund inboxId _ _ =>
    (get? WebhookInboxEntry.id db.inbox inboxId).bind fun entry => env.parseUuid entry.orderRef
  | _ => none

/-- A usage, a grant, a reversal or a rollover, or a delivery that is only stored. -/
def Request.MovesUnits : Request → Prop
  | .process .. | .expireRollover .. => False
  | _ => True

/-- The rows of the ledger are the same. -/
structure Tables.SameLedger (db db' : Tables) : Prop where
  cycles : db'.cycles = db.cycles
  usages : db'.usages = db.usages
  grants : db'.grants = db.grants
  reversals : db'.reversals = db.reversals

theorem Tables.SameLedger.refl (db : Tables) : db.SameLedger db := ⟨rfl, rfl, rfl, rfl⟩

/-- The moves of the ledger, from tables `mid` that have the ledger of `db`. -/
inductive LedgerStep (env : Platform) (request : Request) (db db' : Tables) : Prop where
  | same (h : db.SameLedger db')
  | relabelled (f : SubscriptionQuotaCycle → SubscriptionQuotaCycle)
      (hrequest : ¬ request.MovesUnits)
      (hf : ∀ cycle : SubscriptionQuotaCycle, cycle.Relabels (f cycle))
      (h : (db.mapCycles f).SameLedger db')
  | charged (command : UsageCommand) (id : Uuid) (cycle : SubscriptionQuotaCycle)
      (hrequest : request = .recordUsage command id) (hcharged : Charged command db cycle)
      (h : (db.afterCharge command cycle id).SameLedger db')
  | carried (command : RolloverCommand) (id : Uuid) (source cycle : SubscriptionQuotaCycle)
      (hrequest : request = .rollover command id) (hcarried : Carried command db source cycle)
      (h : (db.addCycle cycle).SameLedger db')
  | granted (command : GrantCommand) (id : Uuid) (mid : Tables) (order : CommercialTopUpOrder)
      (cycle : SubscriptionQuotaCycle) (payment : CommercialTopUpPaymentEvidence)
      (grant : SubscriptionTopUpGrant) (hmid : db.SameLedger mid)
      (hgranted : Granted env command id mid order cycle payment grant)
      (h : (mid.afterGrant order cycle grant).SameLedger db')
  | reversed (command : ReversalCommand) (mid : Tables) (grant : SubscriptionTopUpGrant)
      (cycle : SubscriptionQuotaCycle) (reversal : SubscriptionTopUpReversal)
      (hrequest : request.reversedOrder env db = some command.orderId) (hmid : db.SameLedger mid)
      (hreversed : Reversed command mid grant cycle reversal)
      (h : (mid.afterReversal grant cycle reversal).SameLedger db')

theorem ledger_of_delinquency {subscription : Subscription} {event : WebhookEvent}
    {effectiveAt : Datetime} {id : Uuid} {graceUntil : Option Datetime}
    (h : DelinquencyStep subscription event effectiveAt id db graceUntil db') :
    ∃ f : SubscriptionQuotaCycle → SubscriptionQuotaCycle,
      (∀ cycle : SubscriptionQuotaCycle, cycle.Relabels (f cycle)) ∧
        (db.mapCycles f).SameLedger db' := by
  cases h with
  | first hevent hnone =>
    exact ⟨_, .lockFor subscription.id effectiveAt _, rfl, rfl, rfl, rfl⟩
  | again record hevent hsome =>
    exact ⟨fun cycle => cycle, .refl, (List.map_id' _).symm, rfl, rfl, rfl⟩
  | recovered record hevent hsome =>
    exact ⟨_, .settleFor subscription.id (.restoreOrExpire effectiveAt), rfl, rfl, rfl, rfl⟩
  | untouched hevent hnone =>
    exact ⟨fun cycle => cycle, .refl, (List.map_id' _).symm, rfl, rfl, rfl⟩

theorem Processing.ledger {entry closed : WebhookInboxEntry} {decidedAt : Datetime} {draw : Draw}
    {decision : ReconciliationAction × String} {after : Tables} (hrequest : ¬ request.MovesUnits)
    (h : Processing env entry decidedAt draw db db' decision closed after) :
    LedgerStep env request db db' := by
  rw [h.result]
  rcases h.effect with ⟨-, rfl⟩ | ⟨-, hstep⟩
  · exact .same ⟨rfl, rfl, rfl, rfl⟩
  cases hstep with
  | bindingOnly old effectiveAt hadvance hstatus => exact .same ⟨rfl, rfl, rfl, rfl⟩
  | lifecycle binding effectiveAt old target hadvance hmove _ haccess =>
    rcases applyRuntimeAccess_ok haccess with rfl | ⟨runtime, target, at', graceUntil, mid, hmove, rfl⟩
    · exact .same ⟨rfl, rfl, rfl, rfl⟩
    · obtain ⟨f, hf, hsame⟩ := ledger_of_delinquency hmove.delinquency
      refine .relabelled f hrequest hf ?_
      rw [moveRuntime]
      split
      · exact ⟨hsame.cycles, hsame.usages, hsame.grants, hsame.reversals⟩
      · exact ⟨hsame.cycles, hsame.usages, hsame.grants, hsame.reversals⟩

theorem applyVerifiedTopUp_ledger {command : GrantCommand} {id : Uuid} {result : GrantResult}
    {mid after : Tables} (hmid : db.SameLedger mid) (hafter : after.SameLedger db')
    (h : applyVerifiedTopUp env command id mid = .ok (result, after)) :
    LedgerStep env request db db' := by
  rcases applyVerifiedTopUp_ok h with ⟨-, rfl, -⟩ | ⟨-, order, cycle, payment, grant, hgranted, -, rfl⟩
  · exact .same ⟨hafter.cycles.trans hmid.cycles, hafter.usages.trans hmid.usages,
      hafter.grants.trans hmid.grants, hafter.reversals.trans hmid.reversals⟩
  · exact .granted command id mid order cycle payment grant hmid hgranted hafter

theorem Settled.sameLedger {order : CommercialTopUpOrder} {payment : CommercialTopUpPaymentEvidence}
    {paid before after : Tables} {command : GrantCommand} {grantId : Uuid} {result : GrantResult}
    (h : Settled env order payment db paid command grantId result before after) :
    db.SameLedger paid := by
  rcases h.paid_eq with rfl | ⟨-, rfl⟩
  · exact .refl _
  · exact ⟨rfl, rfl, rfl, rfl⟩

theorem reverseTopUp_ledger {command : ReversalCommand} {id : Uuid} {result : ReversalResult}
    {mid after : Tables} (hrequest : request.reversedOrder env db = some command.orderId)
    (hmid : db.SameLedger mid) (hafter : after.SameLedger db')
    (h : reverseTopUp command id mid = .ok (result, after)) : LedgerStep env request db db' := by
  rcases reverseTopUp_ok h with rfl | ⟨grant, cycle, reversal, hreversed, rfl⟩
  · exact .same ⟨hafter.cycles.trans hmid.cycles, hafter.usages.trans hmid.usages,
      hafter.grants.trans hmid.grants, hafter.reversals.trans hmid.reversals⟩
  · exact .reversed command mid grant cycle reversal hrequest hmid hreversed hafter

theorem Performed.ledger (h : Performed env db request db') : LedgerStep env request db db' := by
  cases h with
  | unchanged => exact .same (.refl _)
  | stored webhook rawBody receivedAt id entry hentry => exact .same ⟨rfl, rfl, rfl, rfl⟩
  | processed entry decidedAt draw decision closed after _ h =>
    exact h.ledger fun hmoves => hmoves
  | suspended command id runtime graceUntil hfound hgrace => exact .same ⟨rfl, rfl, rfl, rfl⟩
  | charged command id cycle h => exact .charged command id cycle rfl h (.refl _)
  | carried command id source cycle h => exact .carried command id source cycle rfl h (.refl _)
  | overdue subscriptionId evaluatedAt =>
    exact .relabelled _ (fun h => h) (.settleFor subscriptionId (.expireIfOverdue evaluatedAt)) (.refl _)
  | granted command id result _ h => exact applyVerifiedTopUp_ledger (.refl _) (.refl _) h
  | reversed command id result _ h => exact reverseTopUp_ledger rfl (.refl _) (.refl _) h
  | paidDelivery inboxId timestamp paymentId grantId entry closed order payment paid after result
      hentry hreceived hclosed hsettled =>
    have hpaid := hsettled.sameLedger
    have hmid : db.SameLedger
        ((paid.putTopUpOrder order.verify).putInbox (entry.claim timestamp)) :=
      ⟨hpaid.cycles, hpaid.usages, hpaid.grants, hpaid.reversals⟩
    have hafter : after.SameLedger (after.putInbox closed) := ⟨rfl, rfl, rfl, rfl⟩
    exact applyVerifiedTopUp_ledger hmid hafter hsettled.granting
  | paidLocally command paymentId grantId order payment paid after result hsettled =>
    have hpaid := hsettled.sameLedger
    have hmid : db.SameLedger (paid.putTopUpOrder order.verify) :=
      ⟨hpaid.cycles, hpaid.usages, hpaid.grants, hpaid.reversals⟩
    exact applyVerifiedTopUp_ledger hmid (.refl _) hsettled.granting
  | partiallyRefunded inboxId timestamp reversalId entry closed hentry hreceived hclosed =>
    exact .same ⟨rfl, rfl, rfl, rfl⟩
  | refunded inboxId timestamp reversalId entry closed command result after hentry hreceived hclosed
      horder h =>
    have hrequest : (Request.processRefund inboxId timestamp reversalId).reversedOrder env db =
        some command.orderId := by
      rw [Request.reversedOrder, hentry, Option.bind_some, horder]
    have hmid : db.SameLedger (db.putInbox (entry.claim timestamp)) := ⟨rfl, rfl, rfl, rfl⟩
    have hafter : after.SameLedger (after.putInbox closed) := ⟨rfl, rfl, rfl, rfl⟩
    exact reverseTopUp_ledger hrequest hmid hafter h

theorem perform_ledger {reply : Except MarketError Reply}
    (h : perform env request db = .ok (reply, db')) : LedgerStep env request db db' :=
  (perform_ok h).ledger

/-! ## The sums -/

namespace Tables

/-- The units of the usage rows of a cycle. -/
def usedBy (db : Tables) (cycleId : Uuid) : ℤ :=
  (db.usages.map fun row => if row.quotaCycleId = cycleId then row.units else 0).sum

def grantedTo (db : Tables) (cycleId : Uuid) : ℤ :=
  (db.grants.map fun row => if row.quotaCycleId = cycleId then row.units else 0).sum

/-- The units of the reversals of a cycle whose outcome is `reversed`. -/
def reversedFrom (db : Tables) (cycleId : Uuid) : ℤ :=
  (db.reversals.map fun row =>
    if row.quotaCycleId = cycleId ∧ row.outcome = .reversed then row.units else 0).sum

/-- The counters of every cycle are the sums of its rows. -/
structure Balanced (db : Tables) : Prop where
  used : ∀ cycle ∈ db.cycles, cycle.usedUnits = db.usedBy cycle.id
  topUp : ∀ cycle ∈ db.cycles, cycle.topUpUnits = db.grantedTo cycle.id - db.reversedFrom cycle.id

theorem usedBy_addUsage (db : Tables) (row : SubscriptionQuotaCycleUsage) (cycleId : Uuid) :
    (db.addUsage row).usedBy cycleId =
      db.usedBy cycleId + if row.quotaCycleId = cycleId then row.units else 0 := by
  simp [usedBy, addUsage]

theorem grantedTo_addGrant (db : Tables) (row : SubscriptionTopUpGrant) (cycleId : Uuid) :
    (db.addGrant row).grantedTo cycleId =
      db.grantedTo cycleId + if row.quotaCycleId = cycleId then row.units else 0 := by
  simp [grantedTo, addGrant]

theorem reversedFrom_addReversal (db : Tables) (row : SubscriptionTopUpReversal) (cycleId : Uuid) :
    (db.addReversal row).reversedFrom cycleId = db.reversedFrom cycleId +
      if row.quotaCycleId = cycleId ∧ row.outcome = .reversed then row.units else 0 := by
  simp [reversedFrom, addReversal]

theorem Valid.sums_of_new (hv : db.Valid) {cycleId : Uuid} (hnew : cycleId ∉ db.cycleIds) :
    db.usedBy cycleId = 0 ∧ db.grantedTo cycleId = 0 ∧ db.reversedFrom cycleId = 0 := by
  have hne : ∀ other ∈ db.cycleIds, other ≠ cycleId := fun other hmem he => hnew (he ▸ hmem)
  refine ⟨List.sum_eq_zero ?_, List.sum_eq_zero ?_, List.sum_eq_zero ?_⟩
  · simp only [List.forall_mem_map]
    intro row hrow
    exact if_neg (hne _ (hv.usages.cycle row hrow))
  · simp only [List.forall_mem_map]
    intro row hrow
    exact if_neg (hne _ (hv.grants.cycle row hrow))
  · simp only [List.forall_mem_map]
    intro row hrow
    exact if_neg fun h => hne _ (hv.reversals.cycle row hrow) h.1

theorem Balanced.of_same (hb : db.Balanced) (h : db.SameLedger db') : db'.Balanced where
  used := by
    intro cycle hcycle
    rw [usedBy, h.usages]
    exact hb.used cycle (h.cycles ▸ hcycle)
  topUp := by
    intro cycle hcycle
    rw [grantedTo, reversedFrom, h.grants, h.reversals]
    exact hb.topUp cycle (h.cycles ▸ hcycle)

theorem Balanced.relabelled (hb : db.Balanced) {f : SubscriptionQuotaCycle → SubscriptionQuotaCycle}
    (hf : ∀ cycle : SubscriptionQuotaCycle, cycle.Relabels (f cycle)) :
    (db.mapCycles f).Balanced where
  used := by
    intro cycle' hcycle
    obtain ⟨cycle, hmem, rfl⟩ := List.mem_map.mp hcycle
    rw [(hf cycle).usedUnits, (hf cycle).id]
    exact hb.used cycle hmem
  topUp := by
    intro cycle' hcycle
    obtain ⟨cycle, hmem, rfl⟩ := List.mem_map.mp hcycle
    rw [(hf cycle).topUpUnits, (hf cycle).id]
    exact hb.topUp cycle hmem

theorem Balanced.charged (hb : db.Balanced) {command : UsageCommand} {id : Uuid}
    {cycle : SubscriptionQuotaCycle} (hmem : cycle ∈ db.cycles) :
    (db.afterCharge command cycle id).Balanced where
  used := by
    intro cycle' hcycle
    rw [afterCharge, usedBy_addUsage]
    rcases mem_put_cases hcycle with rfl | ⟨hold, hne⟩
    · change cycle.usedUnits + command.units = db.usedBy cycle.id + _
      rw [hb.used cycle hmem]
      simp [usageRow, SubscriptionQuotaCycle.charge]
    · change cycle'.usedUnits = db.usedBy cycle'.id + _
      rw [if_neg fun he => hne he.symm, add_zero]
      exact hb.used cycle' hold
  topUp := by
    intro cycle' hcycle
    rcases mem_put_cases hcycle with rfl | ⟨hold, -⟩
    · exact hb.topUp cycle hmem
    · exact hb.topUp cycle' hold

theorem Balanced.carried (hb : db.Balanced) (hv : db.Valid) {cycle : SubscriptionQuotaCycle}
    (hnew : cycle.id ∉ db.cycleIds) (hused : cycle.usedUnits = 0) (htopUp : cycle.topUpUnits = 0) :
    (db.addCycle cycle).Balanced := by
  obtain ⟨husages, hgrants, hreversals⟩ := hv.sums_of_new hnew
  constructor
  · intro cycle' hcycle
    rcases List.mem_append.mp hcycle with hold | hlast
    · exact hb.used cycle' hold
    · obtain rfl := List.mem_singleton.mp hlast
      exact hused.trans husages.symm
  · intro cycle' hcycle
    rcases List.mem_append.mp hcycle with hold | hlast
    · exact hb.topUp cycle' hold
    · obtain rfl := List.mem_singleton.mp hlast
      change cycle'.topUpUnits = db.grantedTo cycle'.id - db.reversedFrom cycle'.id
      rw [htopUp, hgrants, hreversals, sub_zero]

theorem Balanced.granted (hb : db.Balanced) {order : CommercialTopUpOrder}
    {cycle : SubscriptionQuotaCycle} {grant : SubscriptionTopUpGrant} (hmem : cycle ∈ db.cycles)
    (hgrant : grant.quotaCycleId = cycle.id) : (db.afterGrant order cycle grant).Balanced where
  used := by
    intro cycle' hcycle
    rcases mem_put_cases hcycle with rfl | ⟨hold, -⟩
    · exact hb.used cycle hmem
    · exact hb.used cycle' hold
  topUp := by
    intro cycle' hcycle
    change cycle'.topUpUnits = (db.addGrant grant).grantedTo cycle'.id - db.reversedFrom cycle'.id
    rw [grantedTo_addGrant]
    rcases mem_put_cases hcycle with rfl | ⟨hold, hne⟩
    · change cycle.topUpUnits + grant.units = db.grantedTo cycle.id +
        (if grant.quotaCycleId = cycle.id then grant.units else 0) - db.reversedFrom cycle.id
      rw [if_pos hgrant, hb.topUp cycle hmem]
      omega
    · rw [if_neg fun he => hne (he.symm.trans hgrant), add_zero]
      exact hb.topUp cycle' hold

theorem Balanced.reversed (hb : db.Balanced) {command : ReversalCommand}
    {cycle : SubscriptionQuotaCycle} {grant : SubscriptionTopUpGrant}
    {reversal : SubscriptionTopUpReversal} (h : Reversed command db grant cycle reversal) :
    (db.afterReversal grant cycle reversal).Balanced := by
  have hmem : cycle ∈ db.cycles := mem_of_get? h.cycle_found
  have houtcome := h.outcome
  rw [afterReversal]
  split
  · rename_i hreversible
    rw [if_pos hreversible] at houtcome
    constructor
    · intro cycle' hcycle
      rcases mem_put_cases hcycle with rfl | ⟨hold, -⟩
      · exact hb.used cycle hmem
      · exact hb.used cycle' hold
    · intro cycle' hcycle
      change cycle'.topUpUnits =
        db.grantedTo cycle'.id - (db.addReversal reversal).reversedFrom cycle'.id
      rw [reversedFrom_addReversal]
      rcases mem_put_cases hcycle with rfl | ⟨hold, hne⟩
      · change cycle.topUpUnits + -grant.units = db.grantedTo cycle.id - (db.reversedFrom cycle.id +
          if reversal.quotaCycleId = cycle.id ∧ reversal.outcome = .reversed then reversal.units
          else 0)
        rw [if_pos ⟨h.reversal_cycle, houtcome⟩, h.units, hb.topUp cycle hmem]
        omega
      · rw [if_neg fun he => hne (he.1.symm.trans h.reversal_cycle), add_zero]
        exact hb.topUp cycle' hold
  · rename_i hreview
    rw [if_neg hreview] at houtcome
    constructor
    · exact hb.used
    · intro cycle' hcycle
      change cycle'.topUpUnits =
        db.grantedTo cycle'.id - (db.addReversal reversal).reversedFrom cycle'.id
      rw [reversedFrom_addReversal, if_neg fun he => by simp [houtcome] at he, add_zero]
      exact hb.topUp cycle' hcycle

end Tables

theorem LedgerStep.balanced (h : LedgerStep env request db db') (hv : db.Valid) (hv' : db'.Valid)
    (hb : db.Balanced) : db'.Balanced := by
  cases h with
  | same h => exact hb.of_same h
  | relabelled f hrequest hf h => exact (hb.relabelled hf).of_same h
  | charged command id cycle hrequest hcharged h =>
    exact (hb.charged (mem_of_get? hcharged.found)).of_same h
  | carried command id source cycle hrequest hcarried h =>
    have hids := hv'.cycles.id
    rw [h.cycles] at hids
    have hnew : cycle.id ∉ db.cycleIds := not_mem_of_nodup_append hids
    exact (hb.carried hv hnew hcarried.usedUnits hcarried.topUpUnits).of_same h
  | granted command id mid order cycle payment grant hmid hgranted h =>
    exact ((hb.of_same hmid).granted (mem_of_get? hgranted.cycle_found)
      hgranted.grant_cycle).of_same h
  | reversed command mid grant cycle reversal hrequest hmid hreversed h =>
    exact ((hb.of_same hmid).reversed hreversed).of_same h

/-! ## Runs -/

variable {start final : (market env).Database}

theorem Tables.Balanced.run (hstart : start.1.Balanced)
    (hreach : (market env).Reaches (market env).Any start final) : final.1.Balanced := by
  refine hreach.invariant hstart ?_
  intro request db tables reply _ hbalanced hwork hvalid
  exact (perform_ledger (work_eq_commit.mp hwork)).balanced db.2 hvalid hbalanced

theorem perform_error {e : MarketError} (h : perform env request db = .ok (.error e, db')) :
    db.SameLedger db' := by
  cases request with
  | ingest =>
    obtain ⟨⟨⟨entry, replayed⟩, after⟩, -, h⟩ := bind_ok.mp h
    cases (Prod.mk.inj (pure_ok.mp h)).1
  | recordUsage command id =>
    obtain ⟨⟨usage, after⟩, hrecord, h⟩ := bind_ok.mp h
    obtain ⟨hreply, rfl⟩ := Prod.mk.inj (pure_ok.mp h)
    cases recordUsage_ok hrecord with
    | replayed existing hmem hkey => exact .refl _
    | suspended runtime graceUntil e hfound hgrace => exact ⟨rfl, rfl, rfl, rfl⟩
    | charged cycle runtime hcharged hallowed => cases hreply
  | expireRollover =>
    obtain ⟨after, -, h⟩ := bind_ok.mp h
    cases (Prod.mk.inj (pure_ok.mp h)).1
  | process | rollover | grant | reverse | processTopUp | processRefund | verifyLocalPayment =>
    obtain ⟨⟨result, after⟩, -, h⟩ := bind_ok.mp h
    cases (Prod.mk.inj (pure_ok.mp h)).1

theorem respond_error (e : MarketError)
    (h : ((market env).respond request final).1 = .error e) :
    final.1.SameLedger ((market env).respond request final).2.1 := by
  rcases Service.respond_cases (S := market env) request final with
    hsame | ⟨tables, reply, hvalid, hwork, hrespond⟩
  · rw [hsame]
    exact .refl _
  · rw [hrespond] at h ⊢
    obtain rfl : reply = .error e := h
    exact perform_error (work_eq_commit.mp hwork)

/-- What a usage leaves behind: the ledger as it was, or a charge within the units of its
cycle, under a key that no row had. -/
theorem respond_usage (command : UsageCommand) (id : Uuid) :
    final.1.SameLedger ((market env).respond (.recordUsage command id) final).2.1 ∨
      command.idempotencyKeyHash ∉
          final.1.usages.map SubscriptionQuotaCycleUsage.idempotencyKeyHash ∧
        ∃ cycle ∈ ((market env).respond (.recordUsage command id) final).2.1.cycles,
          cycle.id = command.quotaCycleId ∧ 0 ≤ cycle.usedUnits ∧
            cycle.usedUnits ≤
              cycle.baseLimitUnits + cycle.spendableRolloverUnits + cycle.topUpUnits := by
  rcases Service.respond_cases (S := market env) (.recordUsage command id) final with
    hsame | ⟨tables, reply, hvalid, hwork, hrespond⟩
  · rw [hsame]
    exact .inl (.refl _)
  rw [hrespond]
  obtain ⟨⟨usage, after⟩, hrecord, h⟩ := bind_ok.mp (work_eq_commit.mp hwork)
  obtain ⟨-, rfl⟩ := Prod.mk.inj (pure_ok.mp h)
  cases recordUsage_ok hrecord with
  | replayed existing hmem hkey => exact .inl (.refl _)
  | suspended runtime graceUntil e hfound hgrace => exact .inl ⟨rfl, rfl, rfl, rfl⟩
  | charged cycle runtime hcharged hallowed =>
    have hmem : cycle ∈ final.1.cycles := mem_of_get? hcharged.found
    have hput : cycle.charge command.units ∈ (final.1.afterCharge command cycle id).cycles :=
      mem_put_self hmem rfl
    have hunits := hcharged.available
    have hpositive := hcharged.positive
    have hid : cycle.id = command.quotaCycleId := key_of_get? hcharged.found
    refine .inr ⟨?_, cycle.charge command.units, hput, hid,
      (hvalid.cycles.check _ hput).usageNonnegative, ?_⟩
    · intro hkey
      obtain ⟨row, hrow, hrowKey⟩ := List.mem_map.mp hkey
      exact get?_eq_none.mp hcharged.new row hrow hrowKey
    · change cycle.usedUnits + command.units ≤
        cycle.baseLimitUnits + cycle.spendableRolloverUnits + cycle.topUpUnits
      rw [SubscriptionQuotaCycle.availableUnits] at hunits
      omega

/-- The ledger of every database that the services reach from balanced tables. -/
theorem ledger_invariant (hstart : start.1.Balanced)
    (hreach : (market env).Reaches (market env).Any start final) :
    (∀ cycle ∈ final.1.cycles, cycle.usedUnits = final.1.usedBy cycle.id ∧
        cycle.topUpUnits = final.1.grantedTo cycle.id - final.1.reversedFrom cycle.id) ∧
      (final.1.usages.map SubscriptionQuotaCycleUsage.idempotencyKeyHash).Nodup ∧
      (∀ command id, final.1.SameLedger ((market env).respond (.recordUsage command id) final).2.1 ∨
        command.idempotencyKeyHash ∉
            final.1.usages.map SubscriptionQuotaCycleUsage.idempotencyKeyHash ∧
          ∃ cycle ∈ ((market env).respond (.recordUsage command id) final).2.1.cycles,
            cycle.id = command.quotaCycleId ∧ 0 ≤ cycle.usedUnits ∧
              cycle.usedUnits ≤
                cycle.baseLimitUnits + cycle.spendableRolloverUnits + cycle.topUpUnits) ∧
      ∀ request e, ((market env).respond request final).1 = .error e →
        final.1.SameLedger ((market env).respond request final).2.1 := by
  have hbalanced := hstart.run hreach
  refine ⟨?_, final.2.usages.idempotencyKeyHash, respond_usage, fun _ => respond_error⟩
  intro cycle hcycle
  exact ⟨hbalanced.used cycle hcycle, hbalanced.topUp cycle hcycle⟩

theorem Sample.opening_balanced : Sample.opening.1.Balanced :=
  ⟨by decide +kernel, by decide +kernel⟩

theorem ledger_invariant_charged :
    let final := (market Sample.platform).run
      [.recordUsage (Sample.usage 1 8000 '1' (Sample.day 1 15)) 1] Sample.opening
    (∀ cycle ∈ final.1.cycles, cycle.usedUnits = final.1.usedBy cycle.id ∧
        cycle.topUpUnits = final.1.grantedTo cycle.id - final.1.reversedFrom cycle.id) ∧
      final.1.cycles.map SubscriptionQuotaCycle.usedUnits = [8000] :=
  ⟨(ledger_invariant Sample.opening_balanced (Service.reaches_run _ _)).1, by decide +kernel⟩

end MaestroKernel.Market
