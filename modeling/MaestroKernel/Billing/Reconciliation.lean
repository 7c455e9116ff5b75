import MaestroKernel.Billing.Statements

/-! # Statements that reconcile

What a statement says about units adds up, and no rejected request is in it. -/

namespace MaestroKernel.Billing

open Checked JsonText
open JsonText.Dict (getOr truthyOr)
open Market (Datetime)

section Statements

variable {env : Platform} {input : StatementInput} {now : Datetime} {bounds : String × String}
  {items : List LineItem} {ledger : Ledger} {s : Statement}

theorem buildBillingStatement_eq_ok :
    buildBillingStatement env input now = .ok s ↔
      ∃ bounds items ledger, periodBounds env input.period = .ok bounds ∧
        lineItems env (matching env input) = .ok (items, ledger) ∧
        settle env input now bounds items ledger = .ok s := by
  simp only [buildBillingStatement, bind_ok, Prod.exists, exists_and_left]

/-- What the checks of a statement leave. -/
structure Settled (env : Platform) (input : StatementInput) (items : List LineItem)
    (s : Statement) : Prop where
  used : authoritativeUsed env (input.quotaCycle.getD []) (totalUnits items) = .ok s.consumedUnits
  balanced : totalUnits s.usageLineItems = s.consumedUnits
  packages : validateTopUps env input.grantedTopUps s.topUpUnits = .ok s.additionalPackages
  detailed : sumOf env "net_units_added" s.additionalPackages = .ok s.detailedTopUpUnits
  remaining : s.remainingUnits =
    max (s.baseAllowanceUnits + s.rolloverUnits + s.topUpUnits - s.consumedUnits) 0
  lines : s.usageLineItems = withUnattributed items s.consumedUnits

theorem settled_of_settle (h : settle env input now bounds items ledger = .ok s) :
    Settled env input items s := by
  unfold settle at h
  simp only [bind_ok, raiseIf_eq_ok, pure_ok] at h
  obtain ⟨-, -, base, -, rollover, -, topUp, -, packages, hpackages, used, hused, -, -, -, hbalanced,
    detailed, hdetailed, purchased, -, reversed, -, rfl⟩ := h
  exact ⟨hused, not_not.mp hbalanced, hpackages, hdetailed, rfl, rfl⟩

end Statements

/-! ## Packages -/

section Packages

variable {env : Platform} {packages next : Packages} {raw : Value} {item : Record}

variable (env) in
/-- The net units of a package; those that it added, unless it says otherwise. -/
def netUnits (item : Record) : ℤ :=
  match readPackage env item with
  | .ok package => package.netUnitsAdded
  | .error _ => 0

theorem addPackage_eq_ok (h : addPackage env packages raw = .ok next) :
    ∃ item package, raw = .obj item ∧ readPackage env item = .ok package ∧
      next.items = packages.items ++ [item] ∧
      next.netTotal = packages.netTotal + package.netUnitsAdded := by
  simp only [addPackage, demand_bind_ok] at h
  obtain ⟨item, hitem, h⟩ := h
  simp only [bind_ok, pure_ok] at h
  obtain ⟨package, hpackage, -, -, rfl⟩ := h
  refine ⟨item, package, ?_, hpackage, rfl, rfl⟩
  cases raw with
  | obj items => rw [← Option.some.inj hitem]
  | _ => cases hitem

/-- What the loop over the packages keeps. -/
structure Summed (env : Platform) (raws : List Value) (packages : Packages) : Prop where
  items : raws = packages.items.map .obj
  total : packages.netTotal = (packages.items.map (netUnits env)).sum
  read : ∀ item ∈ packages.items, ∃ package, readPackage env item = .ok package

theorem addPackage_summed {raws : List Value} (hp : Summed env raws packages)
    (h : addPackage env packages raw = .ok next) : Summed env (raws ++ [raw]) next := by
  obtain ⟨item, package, rfl, hpackage, hitems, htotal⟩ := addPackage_eq_ok h
  have hnet : netUnits env item = package.netUnitsAdded := by rw [netUnits, hpackage]
  refine ⟨?_, ?_, ?_⟩
  · rw [hitems, List.map_append, hp.items]
    rfl
  · rw [htotal, hitems, List.map_append, List.sum_append, hp.total, ← hnet]
    simp
  · intro other hother
    rw [hitems] at hother
    rcases List.mem_append.mp hother with hother | hother
    · exact hp.read other hother
    · rw [List.mem_singleton.mp hother]
      exact ⟨package, hpackage⟩

theorem foldlM_summed {topUps raws : List Value} (hp : Summed env raws packages)
    (h : topUps.foldlM (addPackage env) packages = .ok next) :
    Summed env (raws ++ topUps) next := by
  induction topUps generalizing packages raws with
  | nil =>
    rw [List.append_nil]
    rw [List.foldlM_nil, pure_ok] at h
    exact h ▸ hp
  | cons raw topUps ih =>
    rw [List.foldlM_cons, bind_ok] at h
    obtain ⟨middle, hmiddle, h⟩ := h
    have hrest := ih (addPackage_summed hp hmiddle) h
    rwa [List.append_assoc, List.singleton_append] at hrest

theorem validateTopUps_summed {topUps : List Value} {expectedUnits : ℤ} {items : List Record}
    (h : validateTopUps env topUps expectedUnits = .ok items) :
    topUps = items.map .obj ∧ (items.map (netUnits env)).sum = expectedUnits ∧
      ∀ item ∈ items, ∃ package, readPackage env item = .ok package := by
  simp only [validateTopUps, bind_ok, raiseIf_eq_ok, pure_ok] at h
  obtain ⟨packages, hpackages, -, htotal, rfl⟩ := h
  have hempty : Summed env [] {} := ⟨rfl, rfl, fun _ hitem => by cases hitem⟩
  have hsummed := foldlM_summed hempty hpackages
  exact ⟨hsummed.items, by rw [← hsummed.total, not_not.mp htotal], hsummed.read⟩

theorem asInt_int (n default : ℤ) : asInt env (.int n) default = .ok n := by
  rw [asInt, if_neg (by simp)]
  rfl

theorem netUnits_int {package : Package} {n : ℤ} (hread : readPackage env item = .ok package)
    (hnet : Dict.get? "net_units_added" item = some (.int n)) : netUnits env item = n := by
  rw [netUnits, hread]
  have hvalue : getOr item "net_units_added" .null = .int n := by rw [getOr, hnet]; rfl
  simp only [readPackage, bind_ok, pure_ok, hvalue, asInt_int, Except.ok.injEq] at hread
  obtain ⟨-, -, m, rfl, -, -, -, -, -, -, rfl⟩ := hread
  rfl

theorem sumOf_netUnits {items : List Record} {detailed : ℤ}
    (hread : ∀ item ∈ items, ∃ package, readPackage env item = .ok package)
    (hnet : ∀ item ∈ items, ∃ n, Dict.get? "net_units_added" item = some (.int n))
    (h : sumOf env "net_units_added" items = .ok detailed) :
    detailed = (items.map (netUnits env)).sum := by
  have hamounts : (items.mapM fun item => asInt env (getOr item "net_units_added" .null) 0) =
      .ok (items.map (netUnits env)) := by
    apply mapM_ok
    intro item hitem
    obtain ⟨package, hpackage⟩ := hread item hitem
    obtain ⟨n, hn⟩ := hnet item hitem
    have hvalue : getOr item "net_units_added" .null = .int n := by rw [getOr, hn]; rfl
    rw [hvalue, asInt_int, netUnits_int hpackage hn]
  rw [sumOf, hamounts, ok_bind] at h
  exact (Except.ok.inj h).symm

end Packages

/-! ## Rejected requests -/

section Rejections

variable {env : Platform} {record : Record} {ledger ledger' next : Ledger}

variable (env) in
/-- The request was not rejected. -/
def notRejected (record : Record) : Bool :=
  match isRejected env record with
  | .ok rejected => !rejected
  | .error _ => true

theorem isBillable_of_rejected {billable : Bool} (h : notRejected env record = false)
    (hbillable : isBillable env record = .ok billable) : billable = false := by
  simp only [isBillable, bind_ok, pure_ok] at hbillable
  obtain ⟨statusCode, hstatus, rfl⟩ := hbillable
  rw [notRejected, isRejected, hstatus] at h
  cases hflag : flagOf record "quota_rejected" false with
  | true => simp
  | false =>
    have hrejected : (!decide (statusCode = 429)) = false := by
      simpa [hflag, bind, Except.bind, pure, Except.pure] using h
    have h429 : statusCode = 429 := by simpa using hrejected
    rw [h429]
    simp

theorem countRecord_rejected (h : notRejected env record = false)
    (hcount : countRecord env ledger record = .ok next) : next.grouped = ledger.grouped := by
  simp only [countRecord, bind_ok] at hcount
  obtain ⟨charged, -, billable, hbillable, hcount⟩ := hcount
  rw [isBillable_of_rejected h hbillable, if_neg Bool.false_ne_true, bind_ok] at hcount
  obtain ⟨rejected, -, hcount⟩ := hcount
  split at hcount
  · rw [← pure_ok.mp hcount]
  · rw [← pure_ok.mp hcount]

theorem countRecord_grouped (hgrouped : ledger'.grouped = ledger.grouped)
    (hcount : countRecord env ledger record = .ok next) :
    ∃ next', countRecord env ledger' record = .ok next' ∧ next'.grouped = next.grouped := by
  simp only [countRecord, bind_ok] at hcount
  obtain ⟨charged, hcharged, billable, hbillable, hcount⟩ := hcount
  rw [countRecord, hcharged, ok_bind, hbillable, ok_bind]
  split at hcount
  · rename_i htrue
    rw [if_pos htrue, ← pure_ok.mp hcount, hgrouped]
    exact ⟨_, rfl, rfl⟩
  · rename_i hfalse
    rw [bind_ok] at hcount
    obtain ⟨rejected, hrejected, hcount⟩ := hcount
    rw [if_neg hfalse, hrejected, ok_bind]
    split at hcount
    · rename_i htrue
      rw [if_pos htrue, ← pure_ok.mp hcount]
      exact ⟨_, rfl, hgrouped⟩
    · rename_i hfalse
      rw [if_neg hfalse, ← pure_ok.mp hcount]
      exact ⟨_, rfl, hgrouped⟩

theorem foldlM_notRejected {records : List Record} (hgrouped : ledger'.grouped = ledger.grouped)
    (h : records.foldlM (countRecord env) ledger = .ok next) :
    ∃ next', (records.filter (notRejected env)).foldlM (countRecord env) ledger' = .ok next' ∧
      next'.grouped = next.grouped := by
  induction records generalizing ledger ledger' with
  | nil =>
    rw [List.foldlM_nil, pure_ok] at h
    exact ⟨ledger', rfl, h ▸ hgrouped⟩
  | cons record records ih =>
    rw [List.foldlM_cons, bind_ok] at h
    obtain ⟨middle, hmiddle, h⟩ := h
    cases hnot : notRejected env record with
    | false =>
      rw [List.filter_cons_of_neg (by rw [hnot]; exact Bool.false_ne_true)]
      exact ih (hgrouped.trans (countRecord_rejected hnot hmiddle).symm) h
    | true =>
      obtain ⟨middle', hmiddle', hsame⟩ := countRecord_grouped hgrouped hmiddle
      rw [List.filter_cons_of_pos hnot, List.foldlM_cons, hmiddle', ok_bind]
      exact ih hsame h

theorem lineItems_notRejected {records : List Record} {items : List LineItem}
    (h : lineItems env records = .ok (items, ledger)) :
    ∃ ledger', lineItems env (records.filter (notRejected env)) = .ok (items, ledger') := by
  simp only [lineItems, bind_ok, pure_ok, Prod.mk.injEq] at h
  obtain ⟨counted, hcounted, rfl, -⟩ := h
  obtain ⟨counted', hcounted', hgrouped⟩ := foldlM_notRejected rfl hcounted
  rw [lineItems, hcounted', ok_bind, hgrouped]
  exact ⟨counted', rfl⟩

end Rejections

/-! ## Statements -/

section Reconciled

variable {env : Platform} {input : StatementInput} {now : Datetime} {bounds : String × String}
  {items : List LineItem} {ledger ledger' : Ledger} {s : Statement}

theorem settle_ledger (h : settle env input now bounds items ledger = .ok s)
    (ledger' : Ledger) : ∃ s', settle env input now bounds items ledger' = .ok s' ∧
      s'.usageLineItems = s.usageLineItems ∧ s'.consumedUnits = s.consumedUnits := by
  unfold settle at h ⊢
  simp only [bind_ok, raiseIf_eq_ok, pure_ok] at h ⊢
  obtain ⟨-, hmetric, base, hbase, rollover, hrollover, topUp, htopUp, packages, hpackages, used,
    hused, -, hledger, -, hbalanced, detailed, hdetailed, purchased, hpurchased, reversed,
    hreversed, rfl⟩ := h
  exact ⟨_, ⟨(), hmetric, base, hbase, rollover, hrollover, topUp, htopUp, packages, hpackages,
    used, hused, (), hledger, (), hbalanced, detailed, hdetailed, purchased, hpurchased, reversed,
    hreversed, rfl⟩, rfl, rfl⟩

def withoutRejected (env : Platform) (input : StatementInput) : StatementInput :=
  { input with usageRecords := input.usageRecords.filter (notRejected env) }

theorem matching_withoutRejected :
    matching env (withoutRejected env input) = (matching env input).filter (notRejected env) := by
  exact List.filter_comm ..

/-- What a statement says about units adds up. -/
structure Reconciled (env : Platform) (input : StatementInput) (now : Datetime)
    (s : Statement) : Prop where
  lines : totalUnits s.usageLineItems = s.consumedUnits
  used : ∀ n : ℕ, Dict.get? "used_units" (input.quotaCycle.getD []) = some (.int n) →
    s.consumedUnits = n
  packages : input.grantedTopUps = s.additionalPackages.map .obj ∧
    (s.additionalPackages.map (netUnits env)).sum = s.topUpUnits
  detailed : (∀ item ∈ s.additionalPackages, ∃ n,
    Dict.get? "net_units_added" item = some (.int n)) → s.detailedTopUpUnits = s.topUpUnits
  remaining : s.remainingUnits =
    max (s.baseAllowanceUnits + s.rolloverUnits + s.topUpUnits - s.consumedUnits) 0
  rejected : ∃ s', buildBillingStatement env (withoutRejected env input) now = .ok s' ∧
    s'.usageLineItems = s.usageLineItems ∧ s'.consumedUnits = s.consumedUnits

theorem authoritativeUsed_int {cycle : Record} {attributed used : ℤ} {n : ℕ}
    (hcycle : Dict.get? "used_units" cycle = some (.int n))
    (h : authoritativeUsed env cycle attributed = .ok used) : used = n := by
  have hnonempty : cycle.isEmpty = false := by
    cases cycle with
    | nil => cases hcycle
    | cons item cycle => rfl
  have hvalue : getOr cycle "used_units" .null = .int n := by rw [getOr, hcycle]; rfl
  rw [authoritativeUsed, hnonempty, if_neg Bool.false_ne_true, units, hvalue, asInt_int, ok_bind,
    pure_ok] at h
  omega

theorem reconciled (h : buildBillingStatement env input now = .ok s) :
    Reconciled env input now s := by
  obtain ⟨bounds, items, ledger, hbounds, hitems, hsettle⟩ := buildBillingStatement_eq_ok.mp h
  have hsettled := settled_of_settle hsettle
  obtain ⟨hraws, hnet, hread⟩ := validateTopUps_summed hsettled.packages
  refine ⟨hsettled.balanced, ?_, ⟨hraws, hnet⟩, ?_, hsettled.remaining, ?_⟩
  · intro n hn
    exact authoritativeUsed_int hn hsettled.used
  · intro hgiven
    rw [sumOf_netUnits hread hgiven hsettled.detailed, hnet]
  · obtain ⟨ledger', hledger'⟩ := lineItems_notRejected hitems
    obtain ⟨s', hs', hsame⟩ := settle_ledger hsettle ledger'
    refine ⟨s', buildBillingStatement_eq_ok.mpr ⟨bounds, items, ledger', hbounds, ?_, hs'⟩, hsame⟩
    rw [matching_withoutRejected]
    exact hledger'

end Reconciled

end MaestroKernel.Billing
