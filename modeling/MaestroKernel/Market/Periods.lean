import MaestroKernel.Market.Moves
import MaestroKernel.Market.Sample

/-! # Billing periods

`subscription_billing_period.py`: the months that follow the start of a subscription, and the quota
cycles that end at their boundaries. -/

namespace MaestroKernel.Market

open Table Checked

def MAXYEAR : ℤ := 9999

/-- A value that `datetime` can have. -/
structure Datetime.OnCalendar (t : Datetime) : Prop where
  year : 1 ≤ t.year ∧ t.year ≤ MAXYEAR
  day : 1 ≤ t.day ∧ t.day ≤ monthLength t.month
  micros : t.micros < 86400000000

abbrev CalendarInstant : Type := { t : Datetime // t.OnCalendar }

theorem monthLength_le (month : ℤ) : monthLength month ≤ 31 := by
  simp only [monthLength]
  split
  · split
    · omega
    · omega
  all_goals omega

/-- `value.replace(year=year, month=month, day=day)`, which raises past the last year. -/
def replaceMonth (value : Datetime) (month : ℤ) (day : ℕ) : Option Datetime :=
  if month / 12 ≤ MAXYEAR then some { value with month, day := min day (monthLength month) }
  else none

/-- `add_calendar_months`, `none` where it raises. -/
def addCalendarMonths (value : Datetime) (months : ℤ) : Option Datetime :=
  if months < 1 then none else replaceMonth value (value.month + months) value.day

/-- `next_anchored_month_boundary` with its checks, `none` where it raises. -/
def nextMonthBoundary (anchorDay : ℕ) (startsAt : Datetime) : Option Datetime :=
  if 1 ≤ anchorDay ∧ anchorDay ≤ 31 then replaceMonth startsAt (startsAt.month + 1) anchorDay
  else none

/-- `subscription_period_end`, `none` where it raises. -/
def subscriptionPeriodEnd (env : Platform) (startsAt : Datetime) (billingPeriod : String) :
    Option Datetime :=
  let normalized := env.lower (strip billingPeriod)
  if normalized = "monthly" then addCalendarMonths startsAt 1
  else if normalized = "annual" then addCalendarMonths startsAt 12
  else none

theorem replaceMonth_eq_some {value t : Datetime} {month : ℤ} {day : ℕ} :
    replaceMonth value month day = some t ↔
      month / 12 ≤ MAXYEAR ∧ t = { value with month, day := min day (monthLength month) } := by
  unfold replaceMonth
  split
  · rename_i h
    simp [h, eq_comm]
  · rename_i h
    simp [h]

theorem nextMonthBoundary_eq {anchorDay : ℕ} {startsAt t : Datetime}
    (h : nextMonthBoundary anchorDay startsAt = some t) :
    nextAnchoredMonthBoundary startsAt anchorDay = t := by
  rw [nextMonthBoundary] at h
  split at h
  · exact (replaceMonth_eq_some.mp h).2.symm
  · cases h

/-! ## The boundaries of the months -/

/-- `next_anchored_month_boundary`, `n` times from `a` with the anchor day of `a`. -/
def monthBoundary (a : Datetime) (n : ℕ) : Option Datetime :=
  (fun t => t.bind (nextMonthBoundary a.day))^[n] (some a)

@[simp] theorem monthBoundary_zero (a : Datetime) : monthBoundary a 0 = some a := rfl

theorem monthBoundary_succ (a : Datetime) (n : ℕ) :
    monthBoundary a (n + 1) = (monthBoundary a n).bind (nextMonthBoundary a.day) :=
  Function.iterate_succ_apply' _ n _

section Boundaries

variable {a s t : Datetime} {m n : ℕ}

theorem nextMonthBoundary_of_day (ha : 1 ≤ a.day ∧ a.day ≤ 31) (t : Datetime) :
    nextMonthBoundary a.day t = replaceMonth t (t.month + 1) a.day := if_pos ha

theorem monthBoundary_eq_replaceMonth (ha : 1 ≤ a.day ∧ a.day ≤ 31) (n : ℕ) :
    monthBoundary a (n + 1) = replaceMonth a (a.month + (n + 1 : ℕ)) a.day := by
  induction n with
  | zero =>
    rw [monthBoundary_succ, monthBoundary_zero, Option.bind_some, nextMonthBoundary_of_day ha]
    rfl
  | succ n ih =>
    rw [monthBoundary_succ, ih]
    have hnext : a.month + (n + 1 : ℕ) + 1 = a.month + (n + 1 + 1 : ℕ) := by omega
    by_cases hyear : (a.month + (n + 1 : ℕ)) / 12 ≤ MAXYEAR
    · rw [replaceMonth, if_pos hyear, Option.bind_some, nextMonthBoundary_of_day ha, hnext]
      rfl
    · have hlater : ¬ (a.month + (n + 1 + 1 : ℕ)) / 12 ≤ MAXYEAR := by
        rw [MAXYEAR] at hyear ⊢
        omega
      rw [replaceMonth, if_neg hyear, Option.bind_none, replaceMonth, if_neg hlater]

theorem monthBoundary_eq_addCalendarMonths (ha : 1 ≤ a.day ∧ a.day ≤ 31) (hn : 0 < n) :
    monthBoundary a n = addCalendarMonths a n := by
  cases n with
  | zero => exact absurd hn (lt_irrefl 0)
  | succ n =>
    have hmonths : ¬ ((n + 1 : ℕ) : ℤ) < 1 := by omega
    rw [monthBoundary_eq_replaceMonth ha, addCalendarMonths, if_neg hmonths]

theorem month_of_monthBoundary (ha : 1 ≤ a.day ∧ a.day ≤ 31) (h : monthBoundary a n = some t) :
    t.month = a.month + n := by
  cases n with
  | zero =>
    obtain rfl := Option.some.inj h
    simp
  | succ n =>
    rw [monthBoundary_eq_replaceMonth ha, replaceMonth_eq_some] at h
    rw [h.2]

theorem monthBoundary_lt (ha : 1 ≤ a.day ∧ a.day ≤ 31) (hm : monthBoundary a m = some s)
    (hn : monthBoundary a n = some t) (hmn : m < n) : s < t := by
  apply Datetime.lt_of_month_lt
  rw [month_of_monthBoundary ha hm, month_of_monthBoundary ha hn]
  omega

theorem monthBoundary_isSome (h : (monthBoundary a n).isSome) (hmn : m ≤ n) :
    (monthBoundary a m).isSome := by
  induction n with
  | zero =>
    obtain rfl : m = 0 := by omega
    exact h
  | succ n ih =>
    by_cases heq : m = n + 1
    · exact heq ▸ h
    · refine ih ?_ (by omega)
      rw [monthBoundary_succ] at h
      cases hprevious : monthBoundary a n with
      | none => simp [hprevious] at h
      | some s => rfl

end Boundaries

/-- The months from the start to a boundary cover the instants between. -/
theorem exists_month {a t e : Datetime} {n : ℕ} (he : monthBoundary a n = some e)
    (hat : a ≤ t) (hte : t < e) :
    ∃ k < n, ∃ s s', monthBoundary a k = some s ∧ monthBoundary a (k + 1) = some s' ∧
      s ≤ t ∧ t < s' := by
  induction n generalizing e with
  | zero =>
    obtain rfl := Option.some.inj he
    exact absurd hte (not_lt.mpr hat)
  | succ n ih =>
    obtain ⟨s, hs⟩ := Option.isSome_iff_exists.mp
      (monthBoundary_isSome (Option.isSome_iff_exists.mpr ⟨e, he⟩) (Nat.le_succ n))
    by_cases hst : s ≤ t
    · exact ⟨n, Nat.lt_succ_self n, s, e, hs, he, hst, hte⟩
    · obtain ⟨k, hk, hmonth⟩ := ih hs (not_le.mp hst)
      exact ⟨k, Nat.lt_succ_of_lt hk, hmonth⟩

/-- Two months that hold one instant are the same. -/
theorem month_unique {a t s s' r r' : Datetime} {k l : ℕ} (ha : 1 ≤ a.day ∧ a.day ≤ 31)
    (hs : monthBoundary a k = some s) (hs' : monthBoundary a (k + 1) = some s')
    (hr : monthBoundary a l = some r) (hr' : monthBoundary a (l + 1) = some r')
    (hst : s ≤ t) (hts : t < s') (hrt : r ≤ t) (htr : t < r') : k = l := by
  have horder : ∀ {i j : ℕ} {u v : Datetime}, monthBoundary a i = some u →
      monthBoundary a j = some v → i < j → u < v := fun hi hj => monthBoundary_lt ha hi hj
  by_contra hne
  rcases lt_or_gt_of_ne hne with hlt | hgt
  · have hle : s' ≤ r := by
      rcases Nat.lt_or_ge (k + 1) l with h | h
      · exact (horder hs' hr h).le
      · obtain rfl : l = k + 1 := by omega
        exact (Option.some.inj (hs'.symm.trans hr)).le
    exact absurd (hts.trans_le hle) (not_lt.mpr hrt)
  · have hle : r' ≤ s := by
      rcases Nat.lt_or_ge (l + 1) k with h | h
      · exact (horder hr' hs h).le
      · obtain rfl : k = l + 1 := by omega
        exact (Option.some.inj (hr'.symm.trans hs)).le
    exact absurd (htr.trans_le hle) (not_lt.mpr hst)

/-! ## Quota cycles -/

/-- The boundaries do not drift from the calendar months of the start, they increase, the months
between them tile every span from the start to a boundary, twelve of them are a year, and a
rollover from one boundary ends at the next. -/
theorem months_anchored (env : Platform) (a : CalendarInstant) :
    (∀ n, 0 < n → monthBoundary a n = addCalendarMonths a n) ∧
    (∀ m n s t, monthBoundary a m = some s → monthBoundary a n = some t → m < n → s < t) ∧
    (∀ n e t, monthBoundary a n = some e → a ≤ t → t < e →
      ∃! k, k < n ∧ ∃ s s', monthBoundary a k = some s ∧ monthBoundary a (k + 1) = some s' ∧
        s ≤ t ∧ t < s') ∧
    (∀ period, env.lower (strip period) = "annual" →
      subscriptionPeriodEnd env a period = monthBoundary a 12) ∧
    (∀ period, env.lower (strip period) = "monthly" →
      subscriptionPeriodEnd env a period = monthBoundary a 1) ∧
    ∀ command id db db' cycle subscription n s s',
      get? Subscription.id db.subscriptions command.subscriptionId = some subscription →
      subscription.startsAt = some a → monthBoundary a n = some s →
      monthBoundary a (n + 1) = some s' → command.periodStart = s →
      rolloverQuota env command id db = .ok (cycle, db') →
      cycle.periodStart = s ∧ cycle.periodEnd = s' := by
  have ha : 1 ≤ a.1.day ∧ a.1.day ≤ 31 :=
    ⟨a.2.day.1, a.2.day.2.trans (monthLength_le a.1.month)⟩
  refine ⟨?_, ?_, ?_, ?_, ?_, ?_⟩
  · intro n hn
    exact monthBoundary_eq_addCalendarMonths ha hn
  · intro m n s t hm hn hmn
    exact monthBoundary_lt ha hm hn hmn
  · intro n e t he hat hte
    obtain ⟨k, hk, s, s', hs, hs', hst, hts⟩ := exists_month he hat hte
    refine ⟨k, ⟨hk, s, s', hs, hs', hst, hts⟩, ?_⟩
    rintro l ⟨-, r, r', hr, hr', hrt, htr⟩
    exact month_unique ha hr hr' hs hs' hrt htr hst hts
  · intro period hperiod
    have hmonthly : ¬ env.lower (strip period) = "monthly" := by
      rw [hperiod]
      decide
    rw [subscriptionPeriodEnd, if_neg hmonthly, if_pos hperiod]
    exact (monthBoundary_eq_addCalendarMonths (n := 12) ha (by decide)).symm
  · intro period hperiod
    rw [subscriptionPeriodEnd, if_pos hperiod]
    exact (monthBoundary_eq_addCalendarMonths (n := 1) ha (by decide)).symm
  · intro command id db db' cycle subscription n s s' hfound hstarts hs hs' hstart hrollover
    obtain ⟨hperiod, row, startsAt, hrow, hrowStarts, hend⟩ := (rolloverQuota_ok hrollover).1
    obtain rfl := Option.some.inj (hfound.symm.trans hrow)
    obtain rfl := Option.some.inj (hstarts.symm.trans hrowStarts)
    refine ⟨hperiod.trans hstart, ?_⟩
    rw [monthBoundary_succ, hs, Option.bind_some] at hs'
    rw [hend, hstart]
    exact nextMonthBoundary_eq hs'

namespace Sample

/-- 31 January 2027 -/
def lastOfJanuary : CalendarInstant :=
  ⟨{ month := 2027 * 12, day := 31, micros := 0 }, ⟨by decide, by decide, by decide⟩⟩

/-- The boundary of March is the 31st again. -/
theorem lastOfJanuary_anchored :
    monthBoundary lastOfJanuary 2 = some { month := 2027 * 12 + 2, day := 31, micros := 0 } ∧
      monthBoundary lastOfJanuary 2 = addCalendarMonths lastOfJanuary 2 ∧
      subscriptionPeriodEnd platform lastOfJanuary "annual" = monthBoundary lastOfJanuary 12 :=
  ⟨by decide, (months_anchored platform lastOfJanuary).1 2 (by decide),
    (months_anchored platform lastOfJanuary).2.2.2.1 "annual" (by decide +kernel)⟩

end Sample

end MaestroKernel.Market
