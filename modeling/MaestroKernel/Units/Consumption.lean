import Mathlib
import MaestroKernel.Library.Table
import MaestroKernel.Units.Store

/-! # What the keys have been charged

A key is seen here as an account: its limit, and its usage in the month that it stands in. A write
replaces a whole file, so the accounts are right as long as it finds the usage that its call has
loaded. -/

namespace MaestroKernel.Units

open Interaction Raising Checked
open Market (strip strip_eq_self)

structure Account where
  id : Json
  limit : Option ℤ
  period : String
  used : Option ℤ

namespace Account

def hasId (apiKeyId : String) (account : Account) : Bool := isText apiKeyId account.id

/-- What no charge changes. -/
def terms (account : Account) : Json × Option ℤ := (account.id, account.limit)

def usage (account : Account) : String × Option ℤ := (account.period, account.used)

theorem eq_of_map {xs ys : List Account} (hterms : xs.map terms = ys.map terms)
    (husage : xs.map usage = ys.map usage) : xs = ys := by
  induction xs generalizing ys with
  | nil => simpa using hterms.symm
  | cons x xs ih =>
    cases ys with
    | nil => cases hterms
    | cons y ys =>
      simp only [List.map_cons, List.cons.injEq] at hterms husage
      obtain ⟨hid, hlimit⟩ := Prod.ext_iff.mp hterms.1
      obtain ⟨hperiod, hused⟩ := Prod.ext_iff.mp husage.1
      rw [ih hterms.2 husage.2]
      cases x
      cases y
      simp_all [terms, usage]

end Account

theorem isText_eq_false {s s' : String} {value : Json} (h : isText s value = true) (hne : s ≠ s') :
    isText s' value = false := by
  cases value with
  | str text =>
    simp only [isText, decide_eq_true_eq] at h
    simp [isText, h, hne]
  | null => rfl
  | num q => rfl
  | inf b => rfl
  | arr xs => rfl
  | obj fields => rfl

section Views

variable (env : Platform)

def limitOf (raw : Settings) (key : ApiKey) : Option ℤ :=
  match planOf env raw key with
  | .ok plan => (quotaLimit env plan key).toOption
  | .error _ => none

def account (raw : Settings) (key : ApiKey) : Account where
  id := key.id
  limit := limitOf env raw key
  period := key.storedPeriod env
  used := (asInt env key.quotaUsed 0).toOption

def Settings.accounts (raw : Settings) : List Account := raw.keys.map (account env raw)

def Content.accounts : Content → List Account
  | .settings raw => raw.accounts env
  | _ => []

def World.accounts (w : World) : List Account :=
  w.paths.flatMap fun path => (w.content path).accounts env

/-- The account that a call with the id charges. -/
def World.account? (w : World) (apiKeyId : String) : Option Account :=
  (w.accounts env).find? (Account.hasId apiKeyId)

end Views

/-! ## The limit of a key -/

/-- A plan id has small letters and underscores only. -/
def isSmall (s : String) : Bool := s.toList.all fun c => c.isLower || c = '_'

theorem not_space_of_small {c : Char} (h : (c.isLower || c = '_') = true) :
    Durable.pyIsSpace c = false := by
  simp only [Char.isLower, Bool.or_eq_true, Bool.and_eq_true, decide_eq_true_eq] at h
  have hc : 95 ≤ c.toNat ∧ c.toNat ≤ 122 := by
    rcases h with ⟨h₁, h₂⟩ | rfl
    · have h₁' := UInt32.le_iff_toNat_le.mp h₁
      have h₂' := UInt32.le_iff_toNat_le.mp h₂
      simp at h₁' h₂'
      omega
    · decide
  simp only [Durable.pyIsSpace]
  simp
  omega

theorem strip_of_small {s : String} (h : isSmall s = true) : strip s = s :=
  strip_eq_self fun c hc => not_space_of_small (List.all_eq_true.mp h c hc)

theorem normalizePlanKey_of_small {env : Platform} {s : String} (h : isSmall s = true) :
    normalizePlanKey env s = s := by
  have hkept : s.toList.map (fun c => if c = '-' ∨ c = ' ' then '_' else c) = s.toList := by
    conv_rhs => rw [← List.map_id s.toList]
    apply List.map_congr_left
    intro c hc
    have hsmall := List.all_eq_true.mp h c hc
    rw [if_neg, id]
    rintro (rfl | rfl)
    · revert hsmall
      decide
    · revert hsmall
      decide
  rw [normalizePlanKey, strip_of_small h, env.lower_small s h, hkept, String.ofList_toList]

theorem plan_ids (env : Platform) : (PLAN_POLICIES env).map PlanPolicy.id =
    ["pilot_starter", "pilot_pro", "institution_trial", "enterprise_private", "academic", "starter",
      "enterprise_integration_starter", "business", "enterprise_pilot", "enterprise_core",
      "enterprise_scale", "enterprise_strategic"] := rfl

theorem plan_resolved {env : Platform} {plan : PlanPolicy} (h : plan ∈ PLAN_POLICIES env) :
    resolvePlanId env plan.id = some plan ∧ isSmall plan.id = true ∧ plan.id ≠ "" := by
  have hid : plan.id ∈ (PLAN_POLICIES env).map PlanPolicy.id := List.mem_map_of_mem h
  have hall : ∀ id ∈ (PLAN_POLICIES env).map PlanPolicy.id, isSmall id = true ∧ id ≠ "" := by
    rw [plan_ids]
    decide
  have hnodup : ((PLAN_POLICIES env).map PlanPolicy.id).Nodup := by
    rw [plan_ids]
    decide
  have hfound : planPolicy? env plan.id = some plan := Table.get?_of_mem hnodup h
  obtain ⟨hsmall, hne⟩ := hall plan.id hid
  refine ⟨?_, hsmall, hne⟩
  simp only [resolvePlanId, normalizePlanKey_of_small hsmall, hfound, if_neg hne]
theorem plan_source {env : Platform} {plan : PlanPolicy} (h : plan ∈ PLAN_POLICIES env) :
    isText "manual" (policySource plan.toJson) = false := by
  have hsource : plan.source ∈ (PLAN_POLICIES env).map PlanPolicy.source := List.mem_map_of_mem h
  have hall : ∀ source ∈ (PLAN_POLICIES env).map PlanPolicy.source, source ≠ "manual" := by
    change ∀ source ∈ ["legacy_plan", "legacy_plan", "legacy_plan", "legacy_plan",
      "authoritative_fulfillment_catalog", "authoritative_fulfillment_catalog",
      "authoritative_fulfillment_catalog", "authoritative_fulfillment_catalog",
      "authoritative_fulfillment_catalog", "authoritative_fulfillment_catalog",
      "authoritative_fulfillment_catalog", "authoritative_fulfillment_catalog"], source ≠ "manual"
    decide
  simp [policySource, PlanPolicy.toJson, List.lookup, isText, hall plan.source hsource]

section Limits

variable {env : Platform} {raw raw' : Settings} {key key' : ApiKey} {plan : PlanPolicy} {limit : ℤ}

theorem planPolicy?_mem {planId : String} (h : planPolicy? env planId = some plan) :
    plan ∈ PLAN_POLICIES env := List.mem_of_find?_eq_some h

theorem resolvePlanId_mem {value : String} (h : resolvePlanId env value = some plan) :
    plan ∈ PLAN_POLICIES env := by
  unfold resolvePlanId at h
  dsimp only at h
  split at h
  · cases h
  · split at h
    · rename_i policy hpolicy
      rw [← Option.some.inj h]
      exact planPolicy?_mem hpolicy
    · split at h
      · exact planPolicy?_mem h
      · exact planPolicy?_mem h

theorem planOf_mem (h : planOf env raw key = .ok plan) : plan ∈ PLAN_POLICIES env := by
  unfold planOf at h
  split at h
  · simp only [raiseIf_bind_ok, demand_eq_ok] at h
    exact resolvePlanId_mem h.2
  · cases h

theorem planOf_of_planId (h : plan ∈ PLAN_POLICIES env) (hkey : key.planId = .str plan.id) :
    planOf env raw key = .ok plan := by
  obtain ⟨hresolved, hsmall, hne⟩ := plan_resolved h
  have hfirst : orElse key.planId (orElse key.plan (orElse raw.subscription.planId
      raw.subscription.plan)) = .str plan.id := by
    simp [orElse, hkey, truthy, hne]
  unfold planOf
  rw [hfirst]
  simp only [raiseIf_bind_ok, demand_eq_ok]
  rw [strip_of_small hsmall]
  exact ⟨hne, hresolved⟩

theorem asInt_num (n default : ℤ) : asInt env (.num n) default = .ok n := by
  simp [asInt]

/-- The limit that a call has used is what the next call uses. -/
theorem limitOf_charged (hsubscription : raw'.subscription = raw.subscription)
    (hplan : planOf env raw key = .ok plan) (hlimit : quotaLimit env plan key = .ok limit)
    (hplanId : key'.planId = (key.withPlan plan).planId) (hkeyPlan : key'.plan = key.plan)
    (hpolicy : key'.quotaPolicy = (key.withPlan plan).quotaPolicy)
    (hoverride : key'.quotaLimitOverride = key.quotaLimitOverride)
    (hquotaLimit : key'.quotaLimit = .num limit) : limitOf env raw' key' = some limit := by
  by_cases hmanual : key.isManual = true
  · rw [ApiKey.withPlan, if_pos hmanual] at hplanId hpolicy
    have hsame : planOf env raw' key' = .ok plan := by
      rw [← hplan]
      unfold planOf
      rw [hplanId, hkeyPlan, hsubscription]
    have hstill : key'.isManual = true := by
      rw [ApiKey.isManual, hpolicy, hoverride]
      exact hmanual
    rw [quotaLimit, if_pos hmanual] at hlimit
    rw [limitOf, hsame]
    dsimp only
    rw [quotaLimit, if_pos hstill, hoverride, hquotaLimit]
    by_cases hnull : isNull key.quotaLimitOverride = true
    · rw [if_pos hnull, asInt_num]
      rfl
    · rw [if_neg hnull] at hlimit ⊢
      rw [hlimit]
      rfl
  · rw [ApiKey.withPlan, if_neg hmanual] at hplanId hpolicy
    have hmem := planOf_mem hplan
    have hstill : ¬ key'.isManual = true := by
      rw [ApiKey.isManual, hpolicy, hoverride, plan_source hmem]
      rw [ApiKey.isManual, Bool.or_eq_true, not_or] at hmanual
      simpa using hmanual.2
    rw [quotaLimit, if_neg hmanual] at hlimit
    rw [limitOf, planOf_of_planId hmem hplanId]
    dsimp only
    rw [quotaLimit, if_neg hstill, hlimit]
    rfl

end Limits

/-! ## What a charge does -/

/-- The usage that a reset leaves. -/
def Account.carried (account : Account) (period : String) : Option ℤ :=
  if account.period ≠ "" ∧ account.period ≠ period then some 0 else account.used

/-- A charge moves an account into its period and adds what it admits. -/
structure Moves (charge : Charge) (old new : Account) : Prop where
  id : new.id = old.id
  limit : new.limit = old.limit
  period : new.period = charge.period
  period_ne : charge.period ≠ ""
  used : ∃ limit used, old.limit = some limit ∧ old.carried charge.period = some used ∧
    if charge.admitted then
      new.used = some (used + charge.amount) ∧ (0 ≤ limit → used + charge.amount ≤ limit)
    else new.used = some used

section Moves

variable {env : Platform} {command : ConsumeCommand} {now : Moment} {raw raw' : Settings}
  {key key' : ApiKey} {verdict : Except UnitsError QuotaReport}

theorem storedPeriod_of_text (h : key.quotaPeriod = .str now.period) :
    key.storedPeriod env = now.period := by
  simp [ApiKey.storedPeriod, h, truthy, now.period_ne]

theorem reset_storedPeriod :
    (resetMonthlyPeriodIfNeeded env now key).storedPeriod env = now.period := by
  unfold resetMonthlyPeriodIfNeeded
  split
  · exact storedPeriod_of_text rfl
  · split
    · assumption
    · exact storedPeriod_of_text rfl

theorem reset_used : (asInt env (resetMonthlyPeriodIfNeeded env now key).quotaUsed 0).toOption =
    (account env raw key).carried now.period := by
  unfold resetMonthlyPeriodIfNeeded Account.carried account
  dsimp only
  by_cases hempty : key.storedPeriod env = ""
  · simp [hempty]
  · by_cases hsame : key.storedPeriod env = now.period
    · simp [hsame, now.period_ne]
    · rw [if_neg hempty, if_neg hsame, if_pos ⟨hempty, hsame⟩]
      exact congrArg Except.toOption (asInt_num 0 0)

theorem reset_terms :
    (resetMonthlyPeriodIfNeeded env now key).id = key.id ∧
      (resetMonthlyPeriodIfNeeded env now key).planId = key.planId ∧
      (resetMonthlyPeriodIfNeeded env now key).plan = key.plan ∧
      (resetMonthlyPeriodIfNeeded env now key).quotaPolicy = key.quotaPolicy ∧
      (resetMonthlyPeriodIfNeeded env now key).quotaLimitOverride = key.quotaLimitOverride := by
  unfold resetMonthlyPeriodIfNeeded
  split
  · exact ⟨rfl, rfl, rfl, rfl, rfl⟩
  · split
    · exact ⟨rfl, rfl, rfl, rfl, rfl⟩
    · exact ⟨rfl, rfl, rfl, rfl, rfl⟩

theorem withPlan_usage (plan : PlanPolicy) : (key.withPlan plan).id = key.id ∧
    (key.withPlan plan).plan = key.plan ∧
    (key.withPlan plan).quotaLimitOverride = key.quotaLimitOverride ∧
    (key.withPlan plan).quotaPeriod = key.quotaPeriod ∧
    (key.withPlan plan).quotaUsed = key.quotaUsed := by
  unfold ApiKey.withPlan
  split
  · exact ⟨rfl, rfl, rfl, rfl, rfl⟩
  · exact ⟨rfl, rfl, rfl, rfl, rfl⟩

theorem charge_moves (h : charge env command now raw key = .ok (key', verdict))
    (hsubscription : raw'.subscription = raw.subscription) :
    Moves ⟨command.apiKeyId, now.period, command.amount, verdict.isOk⟩ (account env raw key)
      (account env raw' key') := by
  simp only [charge, bind_ok] at h
  obtain ⟨plan, hplan, limit, hlimit, _, -, used, hused, h⟩ := h
  obtain ⟨hid, hkeyPlan, hoverride, hperiod, hquotaUsed⟩ := @withPlan_usage key plan
  obtain ⟨hid', hplanId', hplan', hpolicy', hoverride'⟩ :=
    @reset_terms env now (key.withPlan plan)
  have hold : (account env raw key).limit = some limit := by
    simp [account, limitOf, hplan, hlimit, Except.toOption]
  have hcarried : (account env raw key).carried now.period = some used := by
    have hreset := @reset_used env now raw (key.withPlan plan)
    rw [hused] at hreset
    simp only [Account.carried, account, ApiKey.storedPeriod, hperiod, hquotaUsed] at hreset ⊢
    exact hreset.symm
  have hnew : ∀ key'' : ApiKey,
      key''.planId = (resetMonthlyPeriodIfNeeded env now (key.withPlan plan)).planId →
      key''.plan = (resetMonthlyPeriodIfNeeded env now (key.withPlan plan)).plan →
      key''.quotaPolicy = (resetMonthlyPeriodIfNeeded env now (key.withPlan plan)).quotaPolicy →
      key''.quotaLimitOverride =
        (resetMonthlyPeriodIfNeeded env now (key.withPlan plan)).quotaLimitOverride →
      key''.quotaLimit = .num limit → limitOf env raw' key'' = some limit := by
    intro key'' h₁ h₂ h₃ h₄ h₅
    exact limitOf_charged hsubscription hplan hlimit (h₁.trans hplanId')
      (h₂.trans (hplan'.trans hkeyPlan)) (h₃.trans hpolicy') (h₄.trans (hoverride'.trans hoverride))
      h₅
  have hstored := @reset_storedPeriod env now (key.withPlan plan)
  split at h
  · rename_i hexceeded
    simp only [bind_ok, pure_ok, Prod.mk.injEq] at h
    obtain ⟨_, -, rfl, rfl⟩ := h
    refine ⟨hid'.trans hid, ?_, hstored, now.period_ne, limit, used, hold, hcarried, ?_⟩
    · rw [hold]
      exact hnew _ rfl rfl rfl rfl rfl
    · simp only [account]
      rw [hused]
      rfl
  · rename_i hadmitted
    simp only [pure_ok, Prod.mk.injEq] at h
    obtain ⟨rfl, rfl⟩ := h
    refine ⟨hid'.trans hid, ?_, hstored, now.period_ne, limit, used, hold, hcarried, ?_⟩
    · rw [hold]
      exact hnew _ rfl rfl rfl rfl rfl
    · refine ⟨?_, fun hlimited => not_lt.mp fun hover => hadmitted ⟨hlimited, hover⟩⟩
      simp only [account]
      rw [← Int.cast_add, asInt_num]
      rfl

end Moves

/-! ## What a write does -/

/-- The key that is written, under its id, in the first file that has one. -/
structure Written (env : Platform) (path : String) (loaded new : Settings) (charge : Charge)
    (w : World) : Prop where
  first : ∃ before after, w.paths = before ++ path :: after ∧
    ∀ p ∈ before, ∀ account ∈ (w.content p).accounts env, account.hasId charge.apiKeyId = false
  terms : (loaded.accounts env).map Account.terms =
    ((w.content path).accounts env).map Account.terms
  moves : ∃ account account', (loaded.accounts env).find? (Account.hasId charge.apiKeyId) =
      some account ∧ Moves charge account account' ∧
    new.accounts env =
      First.replace (Account.hasId charge.apiKeyId) account' (loaded.accounts env)

section Writes

variable {env : Platform} {raw : Settings} {key key' : ApiKey} {apiKeyId : String}

theorem find?_accounts (h : raw.key? apiKeyId = some key) :
    (raw.accounts env).find? (Account.hasId apiKeyId) = some (account env raw key) := by
  have hcomp : (Account.hasId apiKeyId ∘ account env raw) = ApiKey.hasId apiKeyId := rfl
  rw [Settings.accounts, List.find?_map, hcomp]
  exact congrArg (Option.map (account env raw)) h

theorem keys_putKey (key : ApiKey) : (raw.putKey apiKeyId key).keys =
    First.replace (ApiKey.hasId apiKeyId) key raw.keys := by
  unfold Settings.putKey Settings.keys
  cases raw.apiKeys with
  | none => rfl
  | some keys => exact First.filterMap_replace

theorem account_putKey (key₀ key : ApiKey) :
    account env (raw.putKey apiKeyId key₀) key = account env raw key := by
  have hplan : planOf env (raw.putKey apiKeyId key₀) key = planOf env raw key := rfl
  simp only [account, limitOf, hplan]

theorem accounts_putKey (key : ApiKey) : (raw.putKey apiKeyId key).accounts env =
    First.replace (Account.hasId apiKeyId) (account env raw key) (raw.accounts env) := by
  have hsame : account env (raw.putKey apiKeyId key) = account env raw := by
    funext other
    exact account_putKey key other
  rw [Settings.accounts, keys_putKey, hsame]
  exact First.map_replace fun _ => rfl

theorem terms_putKey {command : ConsumeCommand} {now : Moment}
    {verdict : Except UnitsError QuotaReport} (hfound : raw.key? apiKeyId = some key)
    (h : charge env command now raw key = .ok (key', verdict)) :
    ((raw.putKey apiKeyId key').accounts env).map Account.terms =
      (raw.accounts env).map Account.terms := by
  have hmoves := charge_moves h (rfl : raw.subscription = raw.subscription)
  rw [accounts_putKey]
  apply First.map_replace_of_eq (find?_accounts hfound)
  rw [Account.terms, hmoves.id, hmoves.limit, Account.terms]

end Writes

/-! ## The contract -/

/-- No file changes the terms of its accounts. -/
structure SameTerms (env : Platform) (w w' : World) : Prop where
  paths : w'.paths = w.paths
  terms : ∀ path, ((w'.content path).accounts env).map Account.terms =
    ((w.content path).accounts env).map Account.terms

theorem SameTerms.refl (env : Platform) (w : World) : SameTerms env w w := ⟨rfl, fun _ => rfl⟩

theorem SameTerms.trans {env : Platform} {w w' w'' : World} (h : SameTerms env w w')
    (h' : SameTerms env w' w'') : SameTerms env w w'' :=
  ⟨h'.paths.trans h.paths, fun path => (h'.terms path).trans (h.terms path)⟩

def contract (env : Platform) :
    Contract ConsumeCommand Command (Except UnitsError (Option QuotaReport)) World where
  inv := fun _ => True
  unborn := fun _ _ => True
  rely := fun _ => SameTerms env
  guar := fun _ _ c w w' => SameTerms env w w' ∧
    ∀ path loaded new charge, c = .write path loaded new charge →
      Written env path loaded new charge w
  post := fun _ _ _ _ => True

theorem contract_sound (env : Platform) : (contract env).Sound where
  rely_refl := fun _ => SameTerms.refl env
  rely_trans := fun _ _ _ _ => SameTerms.trans
  guar_rely := fun _ _ _ _ _ _ _ _ h => h.1
  guar_inv := fun _ _ _ _ _ _ _ => trivial
  rely_unborn := fun _ _ _ _ _ => trivial

section Facts

variable (env : Platform) (t : ℕ)

def anything : Fact (contract env) t := .always (contract env) t True

/-- The files still to be read, after those that have no such key. -/
def remaining (apiKeyId : String) (paths : List String) : Fact (contract env) t where
  holds := fun w => ∃ before, w.paths = before ++ paths ∧
    ∀ p ∈ before, ∀ terms ∈ ((w.content p).accounts env).map Account.terms,
      isText apiKeyId terms.1 = false
  stable := by
    rintro w w' hr ⟨before, hpaths, habsent⟩
    refine ⟨before, hr.paths.trans hpaths, ?_⟩
    intro p hp
    rw [hr.terms p]
    exact habsent p hp

/-- The settings have been read from the file. -/
def read (path : String) (raw : Settings) : Fact (contract env) t where
  holds := fun w => (raw.accounts env).map Account.terms =
    ((w.content path).accounts env).map Account.terms
  stable := fun _ _ hr h => h.trans (hr.terms path).symm

end Facts

section Rules

variable {env : Platform} {t : ℕ} {command : ConsumeCommand} {P : Fact (contract env) t}

theorem loadJson_eq_ok {path : String} {content : Content} {raw : Settings}
    (h : loadJson path content = .ok raw) : content = .settings raw := by
  cases content with
  | invalid => cases h
  | notObject => cases h
  | settings raw' =>
    cases h
    rfl

theorem exec_load {e : Chance} {path : String} {raw : Settings} {w w' : World}
    (h : exec e t (.load path) w = some (.ok raw, w')) :
    w.content path = .settings raw ∧ w' = w := by
  unfold exec at h
  obtain ⟨hreply, rfl⟩ := Prod.mk.inj (Option.some.inj h)
  refine ⟨?_, rfl⟩
  cases hfails : e.fails with
  | true =>
    rw [hfails] at hreply
    cases hreply
  | false =>
    rw [hfails] at hreply
    exact loadJson_eq_ok hreply

theorem exec_write {e : Chance} {path : String} {loaded new : Settings} {charge : Charge}
    {r : Except UnitsError Unit} {w w' : World}
    (h : exec e t (.write path loaded new charge) w = some (r, w')) :
    (e.fails = true ∧ w' = w) ∨ e.fails = false ∧ w' = { w with
      content := Function.update w.content path (.settings new)
      admitted := w.admitted ++ charge.admissions } := by
  unfold exec at h
  cases hfails : e.fails with
  | true =>
    rw [hfails] at h
    cases h
    exact .inl ⟨rfl, rfl⟩
  | false =>
    rw [hfails] at h
    cases h
    exact .inr ⟨rfl, rfl⟩

theorem load_meets (path : String) :
    Meets (unitsMachine env) (contract env) t command P (load path) fun raw =>
      P.and (read env t path raw) := by
  apply Meets.perform
  intro w e r w' hw _ hexec
  refine ⟨⟨?_, fun _ _ _ _ hc => (by cases hc)⟩, ?_⟩
  · cases hexec
    exact SameTerms.refl env w
  · intro raw hraw
    change r = .ok raw at hraw
    subst hraw
    obtain ⟨hcontent, rfl⟩ := exec_load (t := t) hexec
    refine ⟨hw, ?_⟩
    simp only [read, hcontent, Content.accounts]

theorem write_meets {path : String} {loaded new : Settings} {charge : Charge}
    (hterms : (new.accounts env).map Account.terms = (loaded.accounts env).map Account.terms)
    (hread : ∀ w, P.holds w → (read env t path loaded).holds w)
    (hwritten : ∀ w, P.holds w → Written env path loaded new charge w) :
    Meets (unitsMachine env) (contract env) t command P (write path loaded new charge) fun _ =>
      anything env t := by
  apply Meets.perform
  intro w e r w' hw _ hexec
  refine ⟨⟨?_, ?_⟩, fun _ _ => trivial⟩
  · rcases exec_write (t := t) hexec with ⟨-, rfl⟩ | ⟨-, rfl⟩
    · exact SameTerms.refl env w'
    · refine ⟨rfl, fun p => ?_⟩
      by_cases hp : p = path
      · subst hp
        simp only [Function.update_self]
        exact hterms.trans (hread w hw)
      · simp only [Function.update_of_ne hp]
  · intro path' loaded' new' charge' hc
    cases hc
    exact hwritten w hw

theorem absent_of_terms {apiKeyId : String} {as bs : List Account}
    (h : as.map Account.terms = bs.map Account.terms)
    (habsent : ∀ account ∈ as, account.hasId apiKeyId = false) :
    ∀ terms ∈ bs.map Account.terms, isText apiKeyId terms.1 = false := by
  intro terms hterms
  rw [← h] at hterms
  obtain ⟨account, haccount, rfl⟩ := List.mem_map.mp hterms
  exact habsent account haccount

theorem absent_of_key? {raw : Settings} {apiKeyId : String} (h : raw.key? apiKeyId = none) :
    ∀ account ∈ raw.accounts env, account.hasId apiKeyId = false := by
  intro _ haccount
  obtain ⟨key, hkey, rfl⟩ := List.mem_map.mp haccount
  exact Bool.eq_false_iff.mpr (List.find?_eq_none.mp h key hkey)

theorem search_meets (now : Moment) (paths : List String) :
    Meets (unitsMachine env) (contract env) t command (remaining env t command.apiKeyId paths)
      (search env command now paths) fun _ => anything env t := by
  induction paths with
  | nil => exact Meets.throw _
  | cons path paths ih =>
    apply Meets.bind (SameTerms.refl env) (load_meets path)
    intro raw
    cases hfound : raw.key? command.apiKeyId with
    | none =>
      apply ih.pre
      rintro w ⟨⟨before, hpaths, habsent⟩, hread⟩
      refine ⟨before ++ [path], by simpa using hpaths, ?_⟩
      intro p hp
      rcases List.mem_append.mp hp with hbefore | hlast
      · exact habsent p hbefore
      · rw [List.mem_singleton.mp hlast]
        exact absent_of_terms hread (absent_of_key? hfound)
    | some key =>
      apply Meets.ofExcept_bind
      rintro ⟨key', verdict⟩ hcharge
      refine Meets.bind (SameTerms.refl env)
        (write_meets (terms_putKey hfound hcharge) (fun _ hw => hw.2) ?_) fun _ => ?_
      · rintro w ⟨⟨before, hpaths, habsent⟩, hread⟩
        refine ⟨⟨before, paths, hpaths, ?_⟩, hread, account env raw key, account env raw key',
          find?_accounts hfound, charge_moves hcharge rfl, accounts_putKey key'⟩
        intro p hp account haccount
        exact habsent p hp account.terms (List.mem_map_of_mem haccount)
      · cases verdict with
        | error e => exact Meets.throw e
        | ok report => exact Meets.pure fun _ _ => trivial

theorem currentTime_meets :
    Meets (unitsMachine env) (contract env) t command P currentTime fun _ => P := by
  apply Meets.perform
  intro w e r w' hw _ hexec
  cases hexec
  exact ⟨⟨SameTerms.refl env w, fun _ _ _ _ hc => (by cases hc)⟩, fun _ _ => hw⟩

theorem settingsFiles_meets :
    Meets (unitsMachine env) (contract env) t command P settingsFiles fun paths =>
      remaining env t command.apiKeyId paths := by
  apply Meets.perform
  intro w e r w' hw _ hexec
  cases hexec
  refine ⟨⟨SameTerms.refl env w, fun _ _ _ _ hc => (by cases hc)⟩, ?_⟩
  intro paths hpaths
  cases hpaths
  exact ⟨[], rfl, fun _ hp => absurd hp List.not_mem_nil⟩

theorem consumeQuota_meets :
    Meets (unitsMachine env) (contract env) t command (anything env t) (consumeQuota env command)
      fun _ => anything env t := by
  unfold consumeQuota
  split
  · exact Meets.pure fun _ _ => trivial
  · split
    · exact Meets.pure fun _ _ => trivial
    · apply Meets.ofExcept_bind
      intro _ _
      apply Meets.ofExcept_bind
      intro _ _
      apply Meets.bind (SameTerms.refl env) currentTime_meets
      intro now
      apply Meets.bind (SameTerms.refl env) settingsFiles_meets
      intro paths
      apply Meets.bind (SameTerms.refl env) (search_meets now paths)
      intro report
      exact Meets.pure fun _ _ => trivial

end Rules

theorem contract_implemented (env : Platform) :
    (contract env).Implemented (unitsMachine env) := by
  intro t command w _ _
  have hbody := @consumeQuota_meets env t command w trivial
  exact hbody.weaken fun _ _ _ _ => trivial

/-! ## Every run -/

/-- What the log says that a key has been charged in a period. -/
def admittedIn (log : List Admission) (apiKeyId period : String) : ℤ :=
  ((log.filter fun a => a.apiKeyId = apiKeyId ∧ a.period = period).map Admission.amount).sum

/-- The usage of an account is what has been admitted in its period, within its limit; an account
without a period has not been charged. -/
structure Balanced (log : List Admission) (apiKeyId : String) (account : Account) : Prop where
  used : account.used = some (admittedIn log apiKeyId account.period)
  unused : account.period = "" → ∀ a ∈ log, a.apiKeyId ≠ apiKeyId
  within : ∀ limit, account.limit = some limit → 0 ≤ limit →
    admittedIn log apiKeyId account.period ≤ limit

section Steps

variable {env : Platform} {log : List Admission} {apiKeyId : String} {charge : Charge}
  {old new : Account} {w w' : World} {path : String} {loaded raw : Settings}

theorem admittedIn_append (log log' : List Admission) (apiKeyId period : String) :
    admittedIn (log ++ log') apiKeyId period =
      admittedIn log apiKeyId period + admittedIn log' apiKeyId period := by
  simp [admittedIn]

theorem admittedIn_eq_zero {period : String}
    (h : ∀ a ∈ log, a.apiKeyId = apiKeyId → a.period ≠ period) :
    admittedIn log apiKeyId period = 0 := by
  have hnone : (log.filter fun a => a.apiKeyId = apiKeyId ∧ a.period = period) = [] := by
    rw [List.filter_eq_nil_iff]
    intro a ha
    simpa using h a ha
  rw [admittedIn, hnone]
  rfl

theorem admittedIn_admissions_of_ne {period : String} (hne : charge.apiKeyId ≠ apiKeyId) :
    admittedIn charge.admissions apiKeyId period = 0 := by
  apply admittedIn_eq_zero
  intro a ha hid
  unfold Charge.admissions at ha
  split at ha
  · rw [List.mem_singleton.mp ha] at hid
    exact absurd hid hne
  · exact absurd ha List.not_mem_nil

theorem admittedIn_admissions (charge : Charge) :
    admittedIn charge.admissions charge.apiKeyId charge.period =
      if charge.admitted then charge.amount else 0 := by
  unfold Charge.admissions
  split
  · simp [admittedIn]
  · simp [admittedIn]

/-- What a reset leaves has been admitted in the period that it goes to. -/
theorem Balanced.carried {period : String} {used : ℤ} (h : Balanced log apiKeyId old)
    (hcarried : old.carried period = some used)
    (hperiod : (∃ a ∈ log, a.apiKeyId = apiKeyId ∧ a.period = period) → old.period = period) :
    used = admittedIn log apiKeyId period ∧
      ∀ limit, old.limit = some limit → 0 ≤ limit → used ≤ limit := by
  by_cases hempty : old.period = ""
  · have hnone : ∀ p, admittedIn log apiKeyId p = 0 := fun p =>
      admittedIn_eq_zero fun a ha hid => absurd hid (h.unused hempty a ha)
    have hzero : used = 0 := by
      rw [Account.carried, if_neg (fun hboth => hboth.1 hempty), h.used, hnone] at hcarried
      exact (Option.some.inj hcarried).symm
    exact ⟨hzero.trans (hnone period).symm, fun limit _ hlimited => hzero ▸ hlimited⟩
  · by_cases hsame : old.period = period
    · have hused : used = admittedIn log apiKeyId period := by
        rw [Account.carried, if_neg (fun hboth => hboth.2 hsame), h.used, hsame] at hcarried
        exact (Option.some.inj hcarried).symm
      refine ⟨hused, fun limit hlimit hlimited => ?_⟩
      have hwithin := h.within limit hlimit hlimited
      rwa [hsame, ← hused] at hwithin
    · -- nothing has been admitted in a period that the account goes to
      have hnone : admittedIn log apiKeyId period = 0 :=
        admittedIn_eq_zero fun a ha hid hp => hsame (hperiod ⟨a, ha, hid, hp⟩)
      have hzero : used = 0 := by
        rw [Account.carried, if_pos ⟨hempty, hsame⟩] at hcarried
        exact (Option.some.inj hcarried).symm
      exact ⟨hzero.trans hnone.symm, fun limit _ hlimited => hzero ▸ hlimited⟩

theorem Moves.balanced (h : Moves charge old new) (hold : Balanced log charge.apiKeyId old)
    (hperiod : (∃ a ∈ log, a.apiKeyId = charge.apiKeyId ∧ a.period = charge.period) →
      old.period = charge.period) :
    Balanced (log ++ charge.admissions) charge.apiKeyId new := by
  obtain ⟨limit, used, hlimit, hcarried, hused⟩ := h.used
  obtain ⟨hbefore, hwithin⟩ := hold.carried hcarried hperiod
  have hlog : admittedIn (log ++ charge.admissions) charge.apiKeyId charge.period =
      used + if charge.admitted then charge.amount else 0 := by
    rw [admittedIn_append, admittedIn_admissions, hbefore]
  refine ⟨?_, fun hempty => absurd (h.period.symm.trans hempty) h.period_ne, ?_⟩
  · rw [h.period, hlog]
    split at hused
    · rename_i hadmitted
      rw [if_pos hadmitted]
      exact hused.1
    · rename_i hrejected
      rw [if_neg hrejected, Int.add_zero]
      exact hused
  · intro limit' hlimit' hlimited
    obtain rfl : limit = limit' := by
      rw [h.limit, hlimit] at hlimit'
      exact Option.some.inj hlimit'
    rw [h.period, hlog]
    split at hused
    · rename_i hadmitted
      rw [if_pos hadmitted]
      exact hused.2 hlimited
    · rename_i hrejected
      rw [if_neg hrejected, Int.add_zero]
      exact hwithin limit hlimit hlimited

theorem Written.charged {changed : Settings} (h : Written env path loaded changed charge w)
    (hloaded : loaded.accounts env = (w.content path).accounts env) (log : List Admission) :
    ∃ old new, w.account? env charge.apiKeyId = some old ∧ Moves charge old new ∧
      World.accounts env { w with
        content := Function.update w.content path (.settings changed)
        admitted := log } =
        First.replace (Account.hasId charge.apiKeyId) new (w.accounts env) := by
  obtain ⟨before, after, hpaths, habsent⟩ := h.first
  obtain ⟨old, new, hfind, hmoves, hchanged⟩ := h.moves
  have hnodup := w.nodup
  rw [hpaths, List.nodup_append, List.nodup_cons] at hnodup
  obtain ⟨-, ⟨hafter, -⟩, hbefore⟩ := hnodup
  have hothers : ∀ paths : List String, path ∉ paths →
      (paths.flatMap fun p => (Function.update w.content path (.settings changed) p).accounts env) =
        paths.flatMap fun p => (w.content p).accounts env := by
    intro paths hmem
    unfold List.flatMap
    congr 1
    apply List.map_congr_left
    intro p hp
    have hne : p ≠ path := fun heq => hmem (heq ▸ hp)
    rw [Function.update_of_ne hne]
  have hnone : (before.flatMap fun p => (w.content p).accounts env).find?
      (Account.hasId charge.apiKeyId) = none := by
    rw [List.find?_eq_none]
    intro account haccount
    obtain ⟨p, hp, hmem⟩ := List.mem_flatMap.mp haccount
    exact Bool.eq_false_iff.mp (habsent p hp account hmem)
  refine ⟨old, new, ?_, hmoves, ?_⟩
  · rw [World.account?, World.accounts, hpaths, List.flatMap_append, List.flatMap_cons,
      List.find?_append, hnone, Option.none_or, List.find?_append, ← hloaded, hfind]
    rfl
  · have hbefore' : path ∉ before := fun hmem => hbefore path hmem path List.mem_cons_self rfl
    simp only [World.accounts, hpaths, List.flatMap_append, List.flatMap_cons,
      hothers before hbefore', hothers after hafter, Function.update_self]
    rw [First.replace_append_of_none hnone, ← hloaded, First.replace_append_of_some hfind]
    exact congrArg (fun as => _ ++ (as ++ _)) hchanged

end Steps

/-- A write finds the usage that its call has loaded, and charges its key in a month in which the
key stands or has not been charged. -/
def Undisturbed (env : Platform) (ev : Step) (cfg : Calls) : Prop :=
  ∀ t e command path loaded new charge k, ev = .run t e → e.fails = false →
    cfg.threads t = some (command, .call (.write path loaded new charge) k) →
    (loaded.accounts env).map Account.usage =
        ((cfg.shared.content path).accounts env).map Account.usage ∧
      ∀ account, cfg.shared.account? env charge.apiKeyId = some account →
        (∃ a ∈ cfg.shared.admitted, a.apiKeyId = charge.apiKeyId ∧ a.period = charge.period) →
        account.period = charge.period

/-- Every key has been charged what its usage says. -/
def AllBalanced (env : Platform) (w : World) : Prop :=
  ∀ apiKeyId account, w.account? env apiKeyId = some account →
    Balanced w.admitted apiKeyId account

section Runs

variable {env : Platform} {w₀ : World} {cfg : Calls}

theorem safe_of_reaches {ok : Step → Calls → Prop}
    (h : (unitsMachine env).Reaches ok (Machine.init w₀) cfg) :
    cfg.Safe (unitsMachine env) (contract env) :=
  (Config.safe_init w₀ trivial fun _ => trivial).reaches (contract_sound env)
    (contract_implemented env) h

theorem AllBalanced.write {w : World} {path : String} {loaded changed : Settings} {charge : Charge}
    (h : AllBalanced env w) (hwritten : Written env path loaded changed charge w)
    (hloaded : loaded.accounts env = (w.content path).accounts env)
    (hperiod : ∀ account, w.account? env charge.apiKeyId = some account →
      (∃ a ∈ w.admitted, a.apiKeyId = charge.apiKeyId ∧ a.period = charge.period) →
      account.period = charge.period) :
    AllBalanced env { w with
      content := Function.update w.content path (.settings changed)
      admitted := w.admitted ++ charge.admissions } := by
  obtain ⟨old, new, hold, hmoves, haccounts⟩ :=
    hwritten.charged hloaded (w.admitted ++ charge.admissions)
  have hidOld : old.hasId charge.apiKeyId = true := List.find?_some hold
  have hidNew : new.hasId charge.apiKeyId = true := by
    rw [Account.hasId, hmoves.id]
    exact hidOld
  intro apiKeyId account haccount
  rw [World.account?, haccounts] at haccount
  by_cases hid : charge.apiKeyId = apiKeyId
  · subst hid
    rw [First.find?_replace_self hold hidNew] at haccount
    obtain rfl := Option.some.inj haccount
    exact hmoves.balanced (h _ old hold) (hperiod old hold)
  · have hother : (First.replace (Account.hasId charge.apiKeyId) new (w.accounts env)).find?
        (Account.hasId apiKeyId) = (w.accounts env).find? (Account.hasId apiKeyId) :=
      First.find?_replace_of_disjoint (fun _ hy => isText_eq_false hy hid)
        (isText_eq_false hidNew hid)
    rw [hother] at haccount
    have hbefore := h apiKeyId account haccount
    have hsame : ∀ period, admittedIn (w.admitted ++ charge.admissions) apiKeyId period =
        admittedIn w.admitted apiKeyId period := by
      intro period
      rw [admittedIn_append, admittedIn_admissions_of_ne hid, Int.add_zero]
    refine ⟨?_, ?_, ?_⟩
    · rw [hsame]
      exact hbefore.used
    · intro hempty a ha
      rcases List.mem_append.mp ha with hold | hnew
      · exact hbefore.unused hempty a hold
      · unfold Charge.admissions at hnew
        split at hnew
        · rw [List.mem_singleton.mp hnew]
          exact hid
        · exact absurd hnew List.not_mem_nil
    · rw [hsame]
      exact hbefore.within

/-- Where no write loses the usage that another call has written, and no key goes back to a month
that it has left, the usage of a key is what has been admitted in its month, within its limit. -/
theorem usage_of_undisturbed (env : Platform) (hstart : AllBalanced env w₀)
    (h : (unitsMachine env).Reaches (Undisturbed env) (Machine.init w₀) cfg) :
    ∀ apiKeyId account, cfg.shared.account? env apiKeyId = some account →
      account.used = some (admittedIn cfg.shared.admitted apiKeyId account.period) ∧
        ∀ limit, account.limit = some limit → 0 ≤ limit →
          admittedIn cfg.shared.admitted apiKeyId account.period ≤ limit := by
  suffices hall : AllBalanced env cfg.shared from
    fun apiKeyId account haccount =>
      ⟨(hall apiKeyId account haccount).used, (hall apiKeyId account haccount).within⟩
  induction h with
  | refl => exact hstart
  | @tail a b ev hreach hok hnext ih =>
    cases ev with
    | start t command =>
      obtain ⟨-, hshared, -⟩ := Machine.next_start hnext
      rw [hshared]
      exact ih
    | run t e =>
      obtain ⟨command, c, k, hthread, hsame, hwritten⟩ :=
        (safe_of_reaches hreach).guar (contract_sound env) hnext
      obtain ⟨command', c', k', r, hthread', hexec, -⟩ := Machine.next_run hnext
      obtain ⟨rfl, hcall⟩ := Prod.mk.inj (Option.some.inj (hthread.symm.trans hthread'))
      cases hcall
      cases c with
      | now =>
        obtain ⟨-, hshared⟩ := Prod.mk.inj (Option.some.inj hexec)
        rw [← hshared]
        exact ih
      | iterSettingsFiles =>
        obtain ⟨-, hshared⟩ := Prod.mk.inj (Option.some.inj hexec)
        rw [← hshared]
        exact ih
      | load path =>
        obtain ⟨-, hshared⟩ := Prod.mk.inj (Option.some.inj hexec)
        rw [← hshared]
        exact ih
      | write path loaded new charge =>
        rcases exec_write (t := t) hexec with ⟨-, hshared⟩ | ⟨hsucceeds, hshared⟩
        · rw [hshared]
          exact ih
        · have hw := hwritten path loaded new charge rfl
          obtain ⟨husage, hperiod⟩ :=
            hok t e command path loaded new charge k rfl hsucceeds hthread
          rw [hshared]
          exact ih.write hw (Account.eq_of_map (hw.terms) husage) hperiod

end Runs

namespace Sample

/-- The functions on text are right for the texts below. -/
def platform : Platform where
  productionMode := false
  lower := id
  upper := id
  decimal := fun _ => none
  parseUuid := fun _ => none
  uuidText := fun _ => ""
  isoformat := fun _ => ""
  sha256 := fun _ => ""
  int := fun _ => none
  str := fun _ => ""
  enterprisePrivateQuota := -1
  defaultQuotaLimit := 50
  lower_small := fun _ _ => rfl

/-- A key that has been issued with a limit of its own. -/
def key : ApiKey where
  id := .str "key-1"
  planId := .str "starter"
  quotaLimitOverride := .num 2
  quotaUsed := .num 0

def world : World where
  paths := ["settings_a.json"]
  nodup := by decide
  content := fun _ => .settings { apiKeys := some [some key] }
  admitted := []

def start : Calls := Machine.init world

def command : ConsumeCommand := ⟨"api_key", "key-1", "/cgt/govern", "evaluation", 1⟩

def august : Chance :=
  { now := ⟨"2026-08", "2026-08-15T00:00:00+00:00", "2026-08-01T00:00:00+00:00", by decide⟩ }

theorem world_balanced : AllBalanced platform world := by
  intro apiKeyId account haccount
  have hone : world.accounts platform = [⟨.str "key-1", some 2, "", some 0⟩] := by
    rfl
  rw [World.account?, hone] at haccount
  have hmem := List.mem_of_find?_eq_some haccount
  obtain rfl := List.mem_singleton.mp hmem
  refine ⟨rfl, fun _ a ha => absurd ha List.not_mem_nil, ?_⟩
  intro limit hlimit _
  obtain rfl := Option.some.inj hlimit
  change (0 : ℤ) ≤ 2
  decide

def undisturbedCheck (ev : Step) (cfg : Calls) : Bool :=
  match ev with
  | .start .. => true
  | .run t _ =>
    match cfg.threads t with
    | some (_, .call (.write path loaded _ charge) _) =>
      ((loaded.accounts platform).map Account.usage =
        ((cfg.shared.content path).accounts platform).map Account.usage) &&
      ((cfg.shared.account? platform charge.apiKeyId).all fun account =>
        account.period = charge.period || cfg.shared.admitted.all fun a =>
          a.apiKeyId ≠ charge.apiKeyId || a.period ≠ charge.period)
    | _ => true

theorem undisturbed_of_check (ev : Step) (cfg : Calls) (h : undisturbedCheck ev cfg = true) :
    Undisturbed platform ev cfg := by
  rintro t e command path loaded new charge k rfl - hthread
  simp only [undisturbedCheck, hthread, Bool.and_eq_true, decide_eq_true_eq] at h
  refine ⟨h.1, ?_⟩
  rintro account haccount ⟨a, ha, hid, hperiod⟩
  have hall := h.2
  rw [haccount, Option.all_some, Bool.or_eq_true, decide_eq_true_eq] at hall
  rcases hall with hsame | hnone
  · exact hsame
  · have hother := List.all_eq_true.mp hnone a ha
    simp [hid, hperiod] at hother

/-- Two calls, one after the other. -/
def oneByOne : List Step :=
  .start 0 command :: List.replicate 4 (.run 0 august) ++
    .start 1 command :: List.replicate 4 (.run 1 august)

theorem oneByOne_runs :
    ((unitsMachine platform).runIf undisturbedCheck oneByOne start).isSome = true := by
  decide +kernel

def afterOneByOne : Calls :=
  ((unitsMachine platform).runIf undisturbedCheck oneByOne start).get oneByOne_runs

theorem oneByOne_usage :
    afterOneByOne.shared.admitted.length = 2 ∧
      ∀ apiKeyId account, afterOneByOne.shared.account? platform apiKeyId = some account →
        account.used =
          some (admittedIn afterOneByOne.shared.admitted apiKeyId account.period) ∧
        ∀ limit, account.limit = some limit → 0 ≤ limit →
          admittedIn afterOneByOne.shared.admitted apiKeyId account.period ≤ limit :=
  ⟨by decide +kernel, usage_of_undisturbed platform world_balanced
    (Machine.runIf_reaches undisturbed_of_check (Option.some_get oneByOne_runs).symm)⟩

/-- Three calls that load the file before any of them writes it. -/
def overlapping : List Step :=
  [.start 0 command, .start 1 command, .start 2 command] ++ List.replicate 3 (.run 0 august) ++
    List.replicate 3 (.run 1 august) ++ List.replicate 3 (.run 2 august) ++
    [.run 0 august, .run 1 august, .run 2 august]

theorem overlapping_runs : ((unitsMachine platform).run overlapping start).isSome = true := by
  decide +kernel

def afterOverlapping : Calls :=
  ((unitsMachine platform).run overlapping start).get overlapping_runs

/-- Three units are admitted of the two that the limit allows, and one is left in the usage. -/
theorem overlapping_lost :
    (unitsMachine platform).Reaches (fun _ _ => True) start afterOverlapping ∧
      (afterOverlapping.shared.account? platform "key-1").map Account.usage =
        some ("2026-08", some 1) ∧
      (afterOverlapping.shared.account? platform "key-1").bind Account.limit = some 2 ∧
      admittedIn afterOverlapping.shared.admitted "key-1" "2026-08" = 3 :=
  ⟨Machine.run_reaches (Option.some_get overlapping_runs).symm, by decide +kernel,
    by decide +kernel, by decide +kernel⟩

end Sample

end MaestroKernel.Units
