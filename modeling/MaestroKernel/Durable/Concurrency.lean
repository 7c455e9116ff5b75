import MaestroKernel.Durable.Job
import Mathlib.Data.List.Induction

/-! # Adaptive concurrency

The sampler of completed attempts, the controller of the limit and the gate in front of the workers.
Latencies and ratios are rationals. -/

namespace MaestroKernel.Durable.Concurrency

/-! ## The controller -/

structure AdaptiveConcurrencyPolicy where
  minimum : ℤ
  maximum : ℤ
  additiveStep : ℤ
  decreaseRatio : ℚ
  latencyTargetMs : ℚ
  errorRateThreshold : ℚ
  recoveryWindows : ℤ
  pressureWindows : ℤ
  healthyLatencyRatio : ℚ
  ewmaAlpha : ℚ
  one_le_minimum : 1 ≤ minimum
  minimum_le_maximum : minimum ≤ maximum
  one_le_additiveStep : 1 ≤ additiveStep
  decreaseRatio_between : 0 < decreaseRatio ∧ decreaseRatio < 1
  latencyTargetMs_pos : 0 < latencyTargetMs
  errorRateThreshold_between : 0 ≤ errorRateThreshold ∧ errorRateThreshold ≤ 1
  one_le_windows : 1 ≤ recoveryWindows ∧ 1 ≤ pressureWindows
  healthyLatencyRatio_between : 0 < healthyLatencyRatio ∧ healthyLatencyRatio ≤ 1
  ewmaAlpha_between : 0 < ewmaAlpha ∧ ewmaAlpha ≤ 1

structure AdaptiveConcurrencySample where
  requests : ℤ
  latencyP95Ms : ℚ
  errors : ℤ
  timeouts : ℤ
  rateLimited : ℤ

namespace AdaptiveConcurrencySample

/-- `_valid_sample`; a rational is finite. -/
def Valid (sample : AdaptiveConcurrencySample) : Prop :=
  ¬ (sample.requests ≤ 0 ∨ sample.requests < 0 ∨ sample.errors < 0 ∨ sample.timeouts < 0 ∨
    sample.rateLimited < 0) ∧ ¬ sample.errors > sample.requests ∧
    ¬ (sample.timeouts > sample.requests ∨ sample.rateLimited > sample.requests) ∧
    0 ≤ sample.latencyP95Ms

instance (sample : AdaptiveConcurrencySample) : Decidable sample.Valid :=
  inferInstanceAs (Decidable (_ ∧ _ ∧ _ ∧ _))

/-- `hard_pressure` -/
def Hard (sample : AdaptiveConcurrencySample) : Prop := 0 < sample.timeouts ∨ 0 < sample.rateLimited

instance (sample : AdaptiveConcurrencySample) : Decidable sample.Hard :=
  inferInstanceAs (Decidable (_ ∨ _))

end AdaptiveConcurrencySample

structure Controller where
  currentLimit : ℤ
  latencyEwmaMs : Option ℚ := none
  healthyStreak : ℤ := 0
  pressureStreak : ℤ := 0

namespace Controller

variable (policy : AdaptiveConcurrencyPolicy)

def increase (c : Controller) : Controller :=
  { c with currentLimit := min (c.currentLimit + policy.additiveStep) policy.maximum }

def decrease (c : Controller) : Controller :=
  { c with currentLimit := max ⌊c.currentLimit * policy.decreaseRatio⌋ policy.minimum }

/-- The average after `_update_latency`. -/
def ewmaAfter (c : Controller) (latencyP95Ms : ℚ) : ℚ :=
  match c.latencyEwmaMs with
  | none => latencyP95Ms
  | some ewma => policy.ewmaAlpha * latencyP95Ms + (1 - policy.ewmaAlpha) * ewma

/-- `soft_pressure` -/
def Soft (sample : AdaptiveConcurrencySample) (ewma : ℚ) : Prop :=
  policy.errorRateThreshold ≤ (sample.errors : ℚ) / sample.requests ∨ policy.latencyTargetMs < ewma

instance (sample : AdaptiveConcurrencySample) (ewma : ℚ) : Decidable (Soft policy sample ewma) :=
  inferInstanceAs (Decidable (_ ∨ _))

def observe (c : Controller) (sample : AdaptiveConcurrencySample) : Controller :=
  if ¬ sample.Valid then { c with healthyStreak := 0, pressureStreak := 0 }
  else
    let ewma := ewmaAfter policy c sample.latencyP95Ms
    let c := { c with latencyEwmaMs := some ewma }
    if sample.Hard then decrease policy { c with healthyStreak := 0, pressureStreak := 0 }
    else if Soft policy sample ewma then
      if policy.pressureWindows ≤ c.pressureStreak + 1 then
        decrease policy { c with healthyStreak := 0, pressureStreak := 0 }
      else { c with healthyStreak := 0, pressureStreak := c.pressureStreak + 1 }
    else if ewma ≤ policy.latencyTargetMs * policy.healthyLatencyRatio then
      if policy.recoveryWindows ≤ c.healthyStreak + 1 then
        increase policy { c with healthyStreak := 0, pressureStreak := 0 }
      else { c with healthyStreak := c.healthyStreak + 1, pressureStreak := 0 }
    else { c with healthyStreak := 0, pressureStreak := 0 }

/-- The sample is without pressure and its average is well below the target. -/
def Healthy (c : Controller) (sample : AdaptiveConcurrencySample) : Prop :=
  sample.Valid ∧ ¬ sample.Hard ∧ ¬ Soft policy sample (ewmaAfter policy c sample.latencyP95Ms) ∧
    ewmaAfter policy c sample.latencyP95Ms ≤ policy.latencyTargetMs * policy.healthyLatencyRatio

/-- What a sample does to the limit and to the streak of healthy ones. -/
inductive Observed (c : Controller) (sample : AdaptiveConcurrencySample) (c' : Controller) :
    Prop where
  | kept (limit : c'.currentLimit = c.currentLimit) (streak : c'.healthyStreak = 0)
      (calm : sample.Valid → ¬ sample.Hard)
  | lowered (limit : c'.currentLimit = (decrease policy c).currentLimit)
      (streak : c'.healthyStreak = 0)
  | counted (healthy : Healthy policy c sample) (limit : c'.currentLimit = c.currentLimit)
      (streak : c'.healthyStreak = c.healthyStreak + 1)
      (short : c.healthyStreak + 1 < policy.recoveryWindows)
  | raised (healthy : Healthy policy c sample)
      (limit : c'.currentLimit = (increase policy c).currentLimit) (streak : c'.healthyStreak = 0)
      (full : policy.recoveryWindows ≤ c.healthyStreak + 1)

theorem observe_spec (c : Controller) (sample : AdaptiveConcurrencySample) :
    Observed policy c sample (observe policy c sample) := by
  unfold observe
  split
  · rename_i hinvalid
    exact .kept rfl rfl fun hvalid => absurd hvalid hinvalid
  · rename_i hvalid
    dsimp only
    split
    · exact .lowered rfl rfl
    · rename_i hcalm
      split
      · split
        · exact .lowered rfl rfl
        · exact .kept rfl rfl fun _ => hcalm
      · rename_i hsoft
        split
        · rename_i hlatency
          have hhealthy : Healthy policy c sample := ⟨not_not.mp hvalid, hcalm, hsoft, hlatency⟩
          split
          · rename_i hfull
            exact .raised hhealthy rfl rfl hfull
          · rename_i hshort
            exact .counted hhealthy rfl rfl (not_le.mp hshort)
        · exact .kept rfl rfl fun _ => hcalm

/-- The limit is within the bounds, and the streak has not reached the windows. -/
structure Bounded (c : Controller) : Prop where
  limit : policy.minimum ≤ c.currentLimit ∧ c.currentLimit ≤ policy.maximum
  streak : 0 ≤ c.healthyStreak ∧ c.healthyStreak < policy.recoveryWindows

variable {policy} {c : Controller}

theorem Bounded.decrease (h : c.Bounded policy) :
    policy.minimum ≤ (c.decrease policy).currentLimit ∧
      (c.currentLimit = policy.minimum ∧ (c.decrease policy).currentLimit = policy.minimum ∨
        (c.decrease policy).currentLimit < c.currentLimit) := by
  have hpos : (0 : ℚ) < c.currentLimit := by
    have hone : (1 : ℤ) ≤ c.currentLimit := policy.one_le_minimum.trans h.limit.1
    exact_mod_cast hone
  have hfloor : ⌊c.currentLimit * policy.decreaseRatio⌋ < c.currentLimit := by
    rw [Int.floor_lt]
    exact mul_lt_of_lt_one_right hpos policy.decreaseRatio_between.2
  refine ⟨le_max_right _ _, ?_⟩
  rcases h.limit.1.eq_or_lt with hminimum | hminimum
  · refine .inl ⟨hminimum.symm, max_eq_right ?_⟩
    rw [hminimum]
    exact hfloor.le
  · exact .inr (max_lt hfloor hminimum)

theorem Bounded.observe (h : c.Bounded policy) (sample : AdaptiveConcurrencySample) :
    (c.observe policy sample).Bounded policy := by
  have hstreak : ∀ {c' : Controller}, c'.healthyStreak = 0 →
      0 ≤ c'.healthyStreak ∧ c'.healthyStreak < policy.recoveryWindows := by
    intro c' hc'
    have hwindows := policy.one_le_windows.1
    omega
  cases observe_spec policy c sample with
  | kept hlimit hzero _ => exact ⟨hlimit ▸ h.limit, hstreak hzero⟩
  | lowered hlimit hzero =>
    obtain ⟨hminimum, hlower⟩ := h.decrease
    have hlimits := h.limit
    refine ⟨?_, hstreak hzero⟩
    rw [hlimit]
    omega
  | counted _ hlimit hnext hshort =>
    have hcount := h.streak
    exact ⟨hlimit ▸ h.limit, by omega⟩
  | raised _ hlimit hzero _ =>
    have hstep := policy.one_le_additiveStep
    have hlimits := h.limit
    refine ⟨?_, hstreak hzero⟩
    rw [hlimit]
    exact ⟨le_min (by omega) (by omega), min_le_right _ _⟩

end Controller

/-! ## The sampler -/

inductive AdaptiveFailureKind where
  | error
  | timeout
  | rateLimited
deriving DecidableEq

variable {T : Type} [LT T] [Zero T]

def classifyAdaptiveFailure (job : ExecutionJob T) : AdaptiveFailureKind :=
  if job.lastError = some "TimeoutError" then .timeout else .error

structure Sampler where
  latenciesMs : List ℚ := []
  errors : ℤ := 0
  timeouts : ℤ := 0
  rateLimited : ℤ := 0

/-- A completed attempt and its latency. -/
abbrev Attempt (T : Type) [LT T] [Zero T] : Type := ExecutionJob T × ℚ

/-- The attempt counts, with its latency; `none` is a latency that is not finite. -/
def attempt? (job : ExecutionJob T) (latencyMs : Option ℚ) : Option (Attempt T) :=
  match latencyMs with
  | none => none
  | some latencyMs =>
    if latencyMs < 0 then none
    else if ¬ (job.status = .succeeded ∨ job.status = .retryWait ∨ job.status = .failed) then none
    else some (job, latencyMs)

def p95Index (n : ℕ) : ℕ := (max (⌈(95 / 100 : ℚ) * n⌉ - 1) 0).toNat

/-- `ordered[p95_index]` -/
def p95 (latenciesMs : List ℚ) : ℚ :=
  (latenciesMs.mergeSort (· ≤ ·))[p95Index latenciesMs.length]?.getD 0

section Sampling

variable (classify : ExecutionJob T → AdaptiveFailureKind)

/-- The failure of an attempt; a success has none. -/
def failure? (attempt : Attempt T) : Option AdaptiveFailureKind :=
  if attempt.1.status = .succeeded then none else some (classify attempt.1)

def Sampler.add (sampler : Sampler) (attempt : Attempt T) : Sampler :=
  let sampler := { sampler with latenciesMs := sampler.latenciesMs ++ [attempt.2] }
  match failure? classify attempt with
  | none => sampler
  | some .timeout => { sampler with timeouts := sampler.timeouts + 1 }
  | some .rateLimited => { sampler with rateLimited := sampler.rateLimited + 1 }
  | some .error => { sampler with errors := sampler.errors + 1 }

def Sampler.sample (sampler : Sampler) : AdaptiveConcurrencySample where
  requests := sampler.latenciesMs.length
  latencyP95Ms := p95 sampler.latenciesMs
  errors := sampler.errors
  timeouts := sampler.timeouts
  rateLimited := sampler.rateLimited

def Sampler.record (windowSize : ℤ) (sampler : Sampler) (job : ExecutionJob T)
    (latencyMs : Option ℚ) : Option AdaptiveConcurrencySample × Sampler :=
  match attempt? job latencyMs with
  | none => (none, sampler)
  | some attempt =>
    let sampler := sampler.add classify attempt
    if (sampler.latenciesMs.length : ℤ) < windowSize then (none, sampler)
    else (some sampler.sample, {})

/-- How many of the attempts failed like this. -/
def failures (kind : AdaptiveFailureKind) (attempts : List (Attempt T)) : ℕ :=
  attempts.countP fun attempt => failure? classify attempt = some kind

/-- The sample that covers the attempts. -/
structure Covers (sample : AdaptiveConcurrencySample) (attempts : List (Attempt T)) : Prop where
  requests : sample.requests = attempts.length
  latency : sample.latencyP95Ms = p95 (attempts.map Prod.snd)
  errors : sample.errors = failures classify .error attempts
  timeouts : sample.timeouts = failures classify .timeout attempts
  rateLimited : sample.rateLimited = failures classify .rateLimited attempts

/-- The sampler holds the attempts since the last sample. -/
structure Sampler.Holds (sampler : Sampler) (pending : List (Attempt T)) : Prop where
  latencies : sampler.latenciesMs = pending.map Prod.snd
  covers : Covers classify sampler.sample pending

variable {classify} {sampler : Sampler} {pending : List (Attempt T)} {attempt : Attempt T}

theorem Sampler.Holds.add (h : sampler.Holds classify pending) :
    (sampler.add classify attempt).Holds classify (pending ++ [attempt]) := by
  have hlatencies : (sampler.add classify attempt).latenciesMs =
      (pending ++ [attempt]).map Prod.snd := by
    rw [List.map_append, ← h.latencies, Sampler.add]
    dsimp only
    split <;> rfl
  refine ⟨hlatencies, ?_⟩
  have herrors : sampler.errors = _ := h.covers.errors
  have htimeouts : sampler.timeouts = _ := h.covers.timeouts
  have hrateLimited : sampler.rateLimited = _ := h.covers.rateLimited
  refine ⟨?_, congrArg p95 hlatencies, ?_, ?_, ?_⟩
  · simp only [Sampler.sample, hlatencies, List.length_map]
  all_goals
    rw [failures, List.countP_append, List.countP_singleton]
    simp only [Sampler.sample, Sampler.add]
    split <;> simp_all [failures]

theorem attempt?_latency {job : ExecutionJob T} {latencyMs : Option ℚ}
    (h : attempt? job latencyMs = some attempt) : 0 ≤ attempt.2 := by
  unfold attempt? at h
  split at h
  · cases h
  · split at h
    · cases h
    · rename_i hlatency
      split at h
      · cases h
      · rw [← Option.some.inj h]
        exact not_lt.mp hlatency

theorem p95_mem {latenciesMs : List ℚ} (h : latenciesMs ≠ []) : p95 latenciesMs ∈ latenciesMs := by
  have hpos : 0 < latenciesMs.length := List.length_pos_iff.mpr h
  have hindex : p95Index latenciesMs.length < (latenciesMs.mergeSort (· ≤ ·)).length := by
    have hceil : ⌈(95 / 100 : ℚ) * latenciesMs.length⌉ ≤ latenciesMs.length := by
      rw [Int.ceil_le]
      have hcast : (0 : ℚ) ≤ latenciesMs.length := Nat.cast_nonneg _
      push_cast
      linarith
    rw [List.length_mergeSort, p95Index]
    omega
  rw [p95, List.getElem?_eq_getElem hindex, Option.getD_some]
  exact List.mem_mergeSort.mp (List.getElem_mem hindex)

theorem Covers.valid {sample : AdaptiveConcurrencySample} (h : Covers classify sample pending)
    (hpending : pending ≠ []) (hlatency : ∀ attempt ∈ pending, 0 ≤ attempt.2) : sample.Valid := by
  have hpos : 0 < pending.length := List.length_pos_iff.mpr hpending
  have hle : ∀ kind, failures classify kind pending ≤ pending.length := fun _ =>
    List.countP_le_length
  have herror := hle .error
  have htimeout := hle .timeout
  have hrate := hle .rateLimited
  obtain ⟨hrequests, hp95, herrors, htimeouts, hrateLimited⟩ := h
  refine ⟨by omega, by omega, by omega, ?_⟩
  obtain ⟨attempt, hmem, heq⟩ := List.mem_map.mp (p95_mem (by simpa using hpending) :
    p95 (pending.map Prod.snd) ∈ pending.map Prod.snd)
  rw [hp95, ← heq]
  exact hlatency attempt hmem

end Sampling

/-! ## The gate -/

structure Setup (T : Type) [LT T] [Zero T] where
  policy : AdaptiveConcurrencyPolicy
  initialLimit : ℤ
  windowSize : ℤ
  classify : ExecutionJob T → AdaptiveFailureKind
  initialLimit_within : policy.minimum ≤ initialLimit ∧ initialLimit ≤ policy.maximum
  one_le_windowSize : 1 ≤ windowSize

/-- The gate with its controller, the sampler and the samples so far. -/
structure Pool where
  controller : Controller
  active : ℤ := 0
  sampler : Sampler := {}
  observed : List AdaptiveConcurrencySample := []

inductive Event (T : Type) [LT T] [Zero T] where
  | acquire
  | release
  | record (job : ExecutionJob T) (latencyMs : Option ℚ)

inductive Answer where
  | admitted
  | waiting
  | done
  | runtimeError (message : String)

/-- A worker that finds no room waits; the pool hands each sample to the gate. -/
def step (setup : Setup T) (pool : Pool) : Event T → Answer × Pool
  | .acquire =>
    if pool.active < pool.controller.currentLimit then
      (.admitted, { pool with active := pool.active + 1 })
    else (.waiting, pool)
  | .release =>
    if pool.active ≤ 0 then
      (.runtimeError "adaptive concurrency gate released without acquire", pool)
    else (.done, { pool with active := pool.active - 1 })
  | .record job latencyMs =>
    match pool.sampler.record setup.classify setup.windowSize job latencyMs with
    | (none, sampler) => (.done, { pool with sampler := sampler })
    | (some sample, sampler) =>
      (.done, { pool with
        sampler := sampler
        controller := pool.controller.observe setup.policy sample
        observed := pool.observed ++ [sample] })

section Runs

variable (setup : Setup T)

def first : Controller := { currentLimit := setup.initialLimit }

def run (events : List (Event T)) : Pool :=
  events.foldl (fun pool event => (step setup pool event).2) { controller := first setup }

def Event.attempt? : Event T → Option (Attempt T)
  | .record job latencyMs => Concurrency.attempt? job latencyMs
  | _ => none

/-- The attempts that count, in the order of their records. -/
def attempts (events : List (Event T)) : List (Attempt T) := events.filterMap Event.attempt?

def controllerAfter (samples : List AdaptiveConcurrencySample) : Controller :=
  samples.foldl (Controller.observe setup.policy) (first setup)

def AllHealthy (policy : AdaptiveConcurrencyPolicy) :
    Controller → List AdaptiveConcurrencySample → Prop
  | _, [] => True
  | c, sample :: samples =>
    c.Healthy policy sample ∧ AllHealthy policy (c.observe policy sample) samples

/-- The samples since the last reset of the streak are healthy, and this is the last one that the
recovery takes. -/
def Recovers (samples : List AdaptiveConcurrencySample) (sample : AdaptiveConcurrencySample) :
    Prop :=
  ∃ before streak, samples = before ++ streak ∧
    (controllerAfter setup before).healthyStreak = 0 ∧
    AllHealthy setup.policy (controllerAfter setup before) (streak ++ [sample]) ∧
    (streak.length : ℤ) + 1 = setup.policy.recoveryWindows

variable {setup}

theorem allHealthy_append {c : Controller} {xs ys : List AdaptiveConcurrencySample} :
    AllHealthy setup.policy c (xs ++ ys) ↔ AllHealthy setup.policy c xs ∧
      AllHealthy setup.policy (xs.foldl (Controller.observe setup.policy) c) ys := by
  induction xs generalizing c with
  | nil => simp [AllHealthy]
  | cons x xs ih => simp [AllHealthy, ih, and_assoc]

theorem controllerAfter_append (samples : List AdaptiveConcurrencySample)
    (sample : AdaptiveConcurrencySample) : controllerAfter setup (samples ++ [sample]) =
      (controllerAfter setup samples).observe setup.policy sample := by
  simp [controllerAfter]

theorem streak_counts (samples : List AdaptiveConcurrencySample) :
    ∃ before streak, samples = before ++ streak ∧
      (controllerAfter setup before).healthyStreak = 0 ∧
      AllHealthy setup.policy (controllerAfter setup before) streak ∧
      (streak.length : ℤ) = (controllerAfter setup samples).healthyStreak := by
  induction samples using List.reverseRecOn with
  | nil => exact ⟨[], [], rfl, rfl, trivial, rfl⟩
  | append_singleton samples sample ih =>
    have hspec := Controller.observe_spec setup.policy (controllerAfter setup samples) sample
    rw [← controllerAfter_append] at hspec
    have hcases : (controllerAfter setup (samples ++ [sample])).healthyStreak = 0 ∨
        (controllerAfter setup samples).Healthy setup.policy sample ∧
          (controllerAfter setup (samples ++ [sample])).healthyStreak =
            (controllerAfter setup samples).healthyStreak + 1 := by
      cases hspec with
      | kept _ hzero _ => exact .inl hzero
      | lowered _ hzero => exact .inl hzero
      | raised _ _ hzero _ => exact .inl hzero
      | counted hhealthy _ hnext _ => exact .inr ⟨hhealthy, hnext⟩
    rcases hcases with hzero | ⟨hhealthy, hnext⟩
    · exact ⟨samples ++ [sample], [], (List.append_nil _).symm, hzero, trivial, hzero.symm⟩
    · obtain ⟨before, streak, rfl, hzero, hall, hlength⟩ := ih
      refine ⟨before, streak ++ [sample], List.append_assoc _ _ _, hzero, ?_, ?_⟩
      · rw [controllerAfter, List.foldl_append] at hhealthy
        exact allHealthy_append.mpr ⟨hall, hhealthy, trivial⟩
      · rw [hnext, List.length_append, List.length_singleton, Nat.cast_add, hlength]
        rfl

variable (setup)

/-- What holds after every run. -/
structure Inv (events : List (Event T)) (pool : Pool) : Prop where
  controller : pool.controller = controllerAfter setup pool.observed
  bounded : pool.controller.Bounded setup.policy
  active : 0 ≤ pool.active
  valid : ∀ sample ∈ pool.observed, sample.Valid
  covered : ∃ batches pending, attempts events = batches.flatten ++ pending ∧
    (pending.length : ℤ) < setup.windowSize ∧ pool.sampler.Holds setup.classify pending ∧
    List.Forall₂ (fun sample batch => Covers setup.classify sample batch ∧
      (batch.length : ℤ) = setup.windowSize) pool.observed batches

/-- What a step can do. -/
inductive Stepped (pool : Pool) (event : Event T) : Pool → Prop where
  | idle (active : ℤ) (nonneg : 0 ≤ pool.active → 0 ≤ active) (attempt : event.attempt? = none) :
      Stepped pool event { pool with active := active }
  | added (attempt : Attempt T) (found : event.attempt? = some attempt)
      (few : ((pool.sampler.add setup.classify attempt).latenciesMs.length : ℤ) < setup.windowSize) :
      Stepped pool event { pool with sampler := pool.sampler.add setup.classify attempt }
  | sampled (attempt : Attempt T) (found : event.attempt? = some attempt)
      (full : ¬ ((pool.sampler.add setup.classify attempt).latenciesMs.length : ℤ) <
        setup.windowSize) :
      Stepped pool event { pool with
        sampler := {}
        controller := pool.controller.observe setup.policy
          (pool.sampler.add setup.classify attempt).sample
        observed := pool.observed ++ [(pool.sampler.add setup.classify attempt).sample] }

theorem step_spec (pool : Pool) (event : Event T) :
    Stepped setup pool event (step setup pool event).2 := by
  cases event with
  | acquire =>
    rw [step]
    split
    · exact .idle _ (fun h => by omega) rfl
    · exact .idle _ id rfl
  | release =>
    rw [step]
    split
    · exact .idle _ id rfl
    · exact .idle _ (fun h => by omega) rfl
  | record job latencyMs =>
    rw [step, Sampler.record]
    cases hattempt : attempt? job latencyMs with
    | none => exact .idle pool.active id hattempt
    | some attempt =>
      by_cases hfew : ((pool.sampler.add setup.classify attempt).latenciesMs.length : ℤ) <
          setup.windowSize
      · simp only [hfew, if_true]
        exact .added attempt hattempt hfew
      · simp only [hfew, if_false]
        exact .sampled attempt hattempt hfew

variable {setup} {events : List (Event T)} {pool : Pool}

theorem attempts_append (event : Event T) :
    attempts (events ++ [event]) = attempts events ++ event.attempt?.toList := by
  rw [attempts, List.filterMap_append]
  cases h : event.attempt? <;> simp [attempts, h]

theorem latency_nonneg (events : List (Event T)) :
    ∀ attempt ∈ attempts events, 0 ≤ attempt.2 := by
  intro attempt hattempt
  obtain ⟨event, -, h⟩ := List.mem_filterMap.mp hattempt
  cases event with
  | record job latencyMs => exact attempt?_latency h
  | _ => cases h

theorem Inv.step (h : Inv setup events pool) (event : Event T) :
    Inv setup (events ++ [event]) (step setup pool event).2 := by
  have hlatency := latency_nonneg (events ++ [event])
  obtain ⟨hcontroller, hbounded, hactive, hsamples, batches, pending, hsplit, hpending, hholds,
    hall⟩ := h
  rw [attempts_append, hsplit] at hlatency
  have hspec := step_spec setup pool event
  generalize (Concurrency.step setup pool event).2 = pool' at hspec ⊢
  cases hspec with
  | idle active hnonneg hnone =>
    refine ⟨hcontroller, hbounded, hnonneg hactive, hsamples, batches, pending, ?_, hpending,
      hholds, hall⟩
    rw [attempts_append, hsplit, hnone, Option.toList_none, List.append_nil]
  | added attempt hfound hfew =>
    have hadded : (pool.sampler.add setup.classify attempt).Holds setup.classify
        (pending ++ [attempt]) := hholds.add
    rw [hadded.latencies, List.length_map] at hfew
    refine ⟨hcontroller, hbounded, hactive, hsamples, batches, pending ++ [attempt], ?_, hfew,
      hadded, hall⟩
    rw [attempts_append, hsplit, hfound, List.append_assoc]
    rfl
  | sampled attempt hfound hfull =>
    have hadded : (pool.sampler.add setup.classify attempt).Holds setup.classify
        (pending ++ [attempt]) := hholds.add
    rw [hadded.latencies, List.length_map] at hfull
    rw [hfound] at hlatency
    have hvalid := hadded.covers.valid (by simp) fun a ha =>
      hlatency a (by rw [List.append_assoc]; exact List.mem_append_right _ ha)
    have hlength : ((pending ++ [attempt]).length : ℤ) = setup.windowSize := by
      simp only [List.length_append, List.length_singleton] at hfull ⊢
      omega
    refine ⟨?_, hbounded.observe _, hactive, ?_, batches ++ [pending ++ [attempt]], [], ?_, ?_, ?_,
      ?_⟩
    · rw [controllerAfter_append, hcontroller]
    · exact List.forall_mem_append.mpr ⟨hsamples, List.forall_mem_singleton.mpr hvalid⟩
    · rw [attempts_append, hsplit, hfound]
      simp
    · exact setup.one_le_windowSize
    · exact ⟨rfl, rfl, rfl, rfl, rfl, rfl⟩
    · exact List.rel_append hall (.cons ⟨hadded.covers, hlength⟩ .nil)

theorem inv_run (events : List (Event T)) : Inv setup events (run setup events) := by
  induction events using List.reverseRecOn with
  | nil =>
    have hwindows := setup.policy.one_le_windows.1
    exact ⟨rfl, ⟨setup.initialLimit_within, le_rfl, by show (0 : ℤ) < _; omega⟩, le_rfl,
      by simp [run], [], [], rfl, setup.one_le_windowSize, ⟨rfl, rfl, rfl, rfl, rfl, rfl⟩, .nil⟩
  | append_singleton events event ih =>
    rw [run, List.foldl_append]
    exact ih.step event

variable (setup events)

/-- The law of the pool after a run, and of the next step. -/
structure Lawful : Prop where
  valid : ∀ sample ∈ (run setup events).observed, sample.Valid
  covered : ∃ batches pending, attempts events = batches.flatten ++ pending ∧
    (pending.length : ℤ) < setup.windowSize ∧
    List.Forall₂ (fun sample batch => Covers setup.classify sample batch ∧
      (batch.length : ℤ) = setup.windowSize) (run setup events).observed batches
  limit : setup.policy.minimum ≤ (run setup events).controller.currentLimit ∧
    (run setup events).controller.currentLimit ≤ setup.policy.maximum
  active : 0 ≤ (run setup events).active
  lowered : ∀ event sample,
    (step setup (run setup events) event).2.observed = (run setup events).observed ++ [sample] →
    sample.Hard →
      (run setup events).controller.currentLimit = setup.policy.minimum ∧
        (step setup (run setup events) event).2.controller.currentLimit = setup.policy.minimum ∨
      (step setup (run setup events) event).2.controller.currentLimit <
        (run setup events).controller.currentLimit
  raised : ∀ event, (run setup events).controller.currentLimit <
    (step setup (run setup events) event).2.controller.currentLimit →
      ∃ sample, (step setup (run setup events) event).2.observed =
        (run setup events).observed ++ [sample] ∧ Recovers setup (run setup events).observed sample
  admitted : ∀ event, (step setup (run setup events) event).1 = .admitted →
    (run setup events).active < (run setup events).controller.currentLimit

variable {setup events}

theorem Inv.lowered (h : Inv setup events pool) {event : Event T}
    {sample : AdaptiveConcurrencySample}
    (hobserved : (Concurrency.step setup pool event).2.observed = pool.observed ++ [sample])
    (hhard : sample.Hard) :
    pool.controller.currentLimit = setup.policy.minimum ∧
        (Concurrency.step setup pool event).2.controller.currentLimit = setup.policy.minimum ∨
      (Concurrency.step setup pool event).2.controller.currentLimit <
        pool.controller.currentLimit := by
  have hvalid : sample.Valid := (h.step event).valid sample (by
    rw [hobserved]
    exact List.mem_append_right _ (List.mem_singleton.mpr rfl))
  have hspec := step_spec setup pool event
  generalize (Concurrency.step setup pool event).2 = pool' at hspec hobserved ⊢
  cases hspec with
  | idle => simp at hobserved
  | added => simp at hobserved
  | sampled attempt _ _ =>
    obtain rfl := List.singleton_inj.mp (List.append_cancel_left hobserved)
    cases Controller.observe_spec setup.policy pool.controller
        (pool.sampler.add setup.classify attempt).sample with
    | kept _ _ hcalm => exact absurd hhard (hcalm hvalid)
    | lowered hlimit _ =>
      dsimp only
      rw [hlimit]
      exact h.bounded.decrease.2
    | counted hhealthy => exact absurd hhard hhealthy.2.1
    | raised hhealthy => exact absurd hhard hhealthy.2.1

theorem Inv.raised (h : Inv setup events pool) {event : Event T}
    (hrise : pool.controller.currentLimit <
      (Concurrency.step setup pool event).2.controller.currentLimit) :
    ∃ sample, (Concurrency.step setup pool event).2.observed = pool.observed ++ [sample] ∧
      Recovers setup pool.observed sample := by
  have hspec := step_spec setup pool event
  generalize (Concurrency.step setup pool event).2 = pool' at hspec hrise ⊢
  cases hspec with
  | idle => exact absurd hrise (lt_irrefl _)
  | added => exact absurd hrise (lt_irrefl _)
  | sampled attempt _ _ =>
    refine ⟨_, rfl, ?_⟩
    cases Controller.observe_spec setup.policy pool.controller
        (pool.sampler.add setup.classify attempt).sample with
    | kept hlimit => exact absurd hrise (by simp [hlimit])
    | lowered hlimit =>
      have hlower := h.bounded.decrease.2
      dsimp only at hrise
      omega
    | counted _ hlimit => exact absurd hrise (by simp [hlimit])
    | raised hhealthy _ _ hfull =>
      obtain ⟨before, streak, hsplit, hzero, hall, hlength⟩ :=
        @streak_counts _ _ _ setup pool.observed
      have hshort := h.bounded.streak.2
      rw [h.controller] at hhealthy hfull hshort
      refine ⟨before, streak, hsplit, hzero, allHealthy_append.mpr ⟨hall, ?_, trivial⟩, by omega⟩
      rw [hsplit, controllerAfter, List.foldl_append] at hhealthy
      exact hhealthy

/-- The law holds after every sequence of steps. -/
theorem pool_lawful (setup : Setup T) (events : List (Event T)) : Lawful setup events := by
  have hinv : Inv setup events (run setup events) := inv_run events
  obtain ⟨batches, pending, hsplit, hpending, -, hall⟩ := hinv.covered
  refine ⟨hinv.valid, ⟨batches, pending, hsplit, hpending, hall⟩, hinv.bounded.limit, hinv.active,
    fun event sample => hinv.lowered, fun event => hinv.raised, ?_⟩
  intro event hadmitted
  cases event with
  | acquire =>
    rw [step] at hadmitted
    split at hadmitted
    · rename_i hroom
      exact hroom
    · cases hadmitted
  | release =>
    rw [step] at hadmitted
    split at hadmitted <;> cases hadmitted
  | record job latencyMs =>
    rw [step] at hadmitted
    split at hadmitted <;> cases hadmitted

end Runs

end MaestroKernel.Durable.Concurrency
