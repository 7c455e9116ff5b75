import Mathlib.Data.List.Nodup

/-! # Entries that are claimed under tokens

An entry of an outbox is claimed under a token, and the holder of the token finalises it or
reschedules it. A claim may take an entry over from a holder that has not answered. What follows
for the history of one entry does not depend on who claims it or when. -/

namespace MaestroKernel.Outbox

inductive Outcome where
  | delivered | dead
deriving DecidableEq

inductive Action (T : Type) where
  | claimed (token : T)
  | finalised (token : T) (outcome : Outcome)
  | rescheduled (token : T)
  | redriven
deriving DecidableEq

structure Entry (T : Type) where
  token : Option T
  outcome : Option Outcome
  attempts : ℕ

def Action.claim? {T : Type} : Action T → Option T
  | .claimed token => some token
  | _ => none

/-- The tokens under which an entry is claimed in a history. -/
def claims {T : Type} (history : List (Action T)) : List T := history.filterMap Action.claim?

variable {T : Type} [DecidableEq T]

namespace Entry

/-- An open entry may be claimed by anyone, and is settled under its token only; a dead one may be
opened again. -/
def act (e : Entry T) : Action T → Option (Entry T)
  | .claimed token =>
    if e.outcome = none then some ⟨some token, none, e.attempts + 1⟩ else none
  | .finalised token outcome =>
    if e.outcome = none ∧ e.token = some token then some ⟨none, some outcome, e.attempts⟩ else none
  | .rescheduled token =>
    if e.outcome = none ∧ e.token = some token then some ⟨none, none, e.attempts⟩ else none
  | .redriven =>
    if e.outcome = some .dead ∧ e.token = none then some ⟨none, none, e.attempts⟩ else none

def run : List (Action T) → Entry T → Option (Entry T)
  | [], e => some e
  | a :: history, e => (e.act a).bind (run history)

variable {e e' : Entry T} {history rest : List (Action T)} {token token' : T} {outcome : Outcome}

theorem run_append (history rest : List (Action T)) (e : Entry T) :
    run (history ++ rest) e = (run history e).bind (run rest) := by
  induction history generalizing e with
  | nil => rfl
  | cons a history ih =>
    rw [List.cons_append, run, run, Option.bind_assoc]
    congr 1
    funext e
    exact ih e

/-- A history passes through a state before each of its actions. -/
theorem run_split (h : run (history ++ rest) e = some e') :
    ∃ mid, run history e = some mid ∧ run rest mid = some e' := by
  rw [run_append] at h
  exact Option.bind_eq_some_iff.mp h

theorem act_claimed (h : e.act (.claimed token) = some e') :
    e.outcome = none ∧ e' = ⟨some token, none, e.attempts + 1⟩ := by
  simp only [act, Option.ite_none_right_eq_some, Option.some.injEq] at h
  exact ⟨h.1, h.2.symm⟩

theorem act_finalised (h : e.act (.finalised token outcome) = some e') :
    (e.outcome = none ∧ e.token = some token) ∧ e' = ⟨none, some outcome, e.attempts⟩ := by
  simp only [act, Option.ite_none_right_eq_some, Option.some.injEq] at h
  exact ⟨h.1, h.2.symm⟩

theorem act_rescheduled (h : e.act (.rescheduled token) = some e') :
    (e.outcome = none ∧ e.token = some token) ∧ e' = ⟨none, none, e.attempts⟩ := by
  simp only [act, Option.ite_none_right_eq_some, Option.some.injEq] at h
  exact ⟨h.1, h.2.symm⟩

theorem act_redriven (h : e.act .redriven = some e') :
    (e.outcome = some .dead ∧ e.token = none) ∧ e' = ⟨none, none, e.attempts⟩ := by
  simp only [act, Option.ite_none_right_eq_some, Option.some.injEq] at h
  exact ⟨h.1, h.2.symm⟩

theorem act_of_outcome {a : Action T} (h : e.act a = some e') (ho : e.outcome = some outcome) :
    a = .redriven ∧ outcome = .dead := by
  cases a with
  | claimed token =>
    have hnone := (act_claimed h).1
    simp [ho] at hnone
  | finalised token _ =>
    have hnone := (act_finalised h).1.1
    simp [ho] at hnone
  | rescheduled token =>
    have hnone := (act_rescheduled h).1.1
    simp [ho] at hnone
  | redriven =>
    have hdead := (act_redriven h).1.1
    rw [ho] at hdead
    exact ⟨rfl, Option.some.inj hdead⟩

/-- Nothing but a redrive follows a finalisation, and nothing follows a delivery. -/
theorem after_finalised (h : run (history ++ .finalised token outcome :: rest) e = some e') :
    rest = [] ∨ outcome = .dead ∧ ∃ later, rest = .redriven :: later := by
  obtain ⟨mid, _, hrest⟩ := run_split h
  obtain ⟨closed, hact, hlater⟩ := Option.bind_eq_some_iff.mp hrest
  have hclosed := (act_finalised hact).2
  cases rest with
  | nil => exact .inl rfl
  | cons a later =>
    obtain ⟨next, hnext, _⟩ := Option.bind_eq_some_iff.mp hlater
    obtain ⟨rfl, rfl⟩ := act_of_outcome hnext (by rw [hclosed])
    exact .inr ⟨rfl, later, rfl⟩

theorem redriven_of_outcome {a : Action T} (h : run (history ++ a :: rest) e = some e')
    (ho : e.outcome = some outcome) (ha : a ≠ .redriven) : .redriven ∈ history := by
  cases history with
  | nil =>
    obtain ⟨next, hact, _⟩ := Option.bind_eq_some_iff.mp h
    exact absurd (act_of_outcome hact ho).1 ha
  | cons b history =>
    obtain ⟨next, hact, _⟩ := Option.bind_eq_some_iff.mp h
    rw [(act_of_outcome hact ho).1]
    exact List.mem_cons_self

/-- Whatever comes after a finalisation comes after a redrive too. -/
theorem redriven_of_after {between later : List (Action T)} {a : Action T}
    (h : run (history ++ .finalised token outcome :: between ++ a :: later) e = some e')
    (ha : a ≠ .redriven) : .redriven ∈ between := by
  rw [List.append_assoc] at h
  obtain ⟨mid, _, hrest⟩ := run_split h
  rw [List.cons_append] at hrest
  obtain ⟨closed, hact, hlater⟩ := Option.bind_eq_some_iff.mp hrest
  have hclosed : closed.outcome = some outcome := by rw [(act_finalised hact).2]
  exact redriven_of_outcome hlater hclosed ha

/-- An entry holds the token that it held before, or one that it was claimed under. -/
theorem token_cases {a : Action T} (h : e.act a = some e') (ht : e'.token = some token) :
    e.token = some token ∧ a = .redriven ∨ a = .claimed token := by
  cases a with
  | claimed token' =>
    rw [(act_claimed h).2] at ht
    exact .inr (congrArg _ (Option.some.inj ht))
  | finalised token' o =>
    rw [(act_finalised h).2] at ht
    simp at ht
  | rescheduled token' =>
    rw [(act_rescheduled h).2] at ht
    simp at ht
  | redriven =>
    rw [(act_redriven h).2] at ht
    simp at ht

/-- A token that is not given out again is lost with the first action. -/
theorem token_lost (h : run history e = some e') (hnew : token ∉ claims history)
    (ht : e.token ≠ some token ∨ history ≠ []) : e'.token ≠ some token := by
  induction history generalizing e with
  | nil =>
    obtain rfl : e = e' := Option.some.inj h
    exact ht.resolve_right (by simp)
  | cons a history ih =>
    obtain ⟨mid, hact, hrest⟩ := Option.bind_eq_some_iff.mp h
    have hlater : token ∉ claims history := by
      intro hmem
      apply hnew
      rw [claims, List.filterMap_cons]
      cases a.claim? with
      | none => exact hmem
      | some t => exact List.mem_cons_of_mem _ hmem
    refine ih hrest hlater (.inl ?_)
    intro hmid
    rcases token_cases hact hmid with ⟨hkept, rfl⟩ | rfl
    · rw [(act_redriven hact).1.2] at hkept
      simp at hkept
    · simp [claims, Action.claim?] at hnew

theorem outdated {since : List (Action T)}
    (h : run (history ++ .claimed token :: since) e = some e')
    (hnodup : (claims (history ++ .claimed token :: since)).Nodup) (hsince : since ≠ []) :
    e'.token ≠ some token := by
  obtain ⟨mid, _, hrest⟩ := run_split h
  obtain ⟨claimed, _, hlater⟩ := Option.bind_eq_some_iff.mp hrest
  have hnew : token ∉ claims since := by
    have hsplit : claims (history ++ .claimed token :: since) =
        claims history ++ token :: claims since := by
      simp [claims, Action.claim?]
    rw [hsplit] at hnodup
    exact (List.nodup_cons.mp hnodup.of_append_right).1
  exact token_lost hlater hnew (.inr hsince)

/-! ## Bounded claims -/

/-- An entry is taken over from another holder, or rescheduled, below `max` attempts only. -/
def Below (max : ℕ) (e : Entry T) : Action T → Prop
  | .claimed _ => e.token = none ∨ e.attempts < max
  | .rescheduled _ => e.attempts < max
  | _ => True

def RunBelow (max : ℕ) : List (Action T) → Entry T → Prop
  | [], _ => True
  | a :: history, e => e.Below max a ∧ ∀ next, e.act a = some next → RunBelow max history next

theorem runBelow_append {max : ℕ} (h : run history e = some e') :
    RunBelow max (history ++ rest) e ↔ RunBelow max history e ∧ RunBelow max rest e' := by
  induction history generalizing e with
  | nil =>
    obtain rfl : e = e' := Option.some.inj h
    simp [RunBelow]
  | cons a history ih =>
    obtain ⟨mid, hact, hrest⟩ := Option.bind_eq_some_iff.mp h
    rw [List.cons_append, RunBelow, RunBelow, hact]
    simp only [Option.some.injEq, forall_eq']
    rw [ih hrest, and_assoc]

/-- What is known after `n` claims since the last redrive: more than one of them kept to the bound,
and an open entry that nobody holds is still below it. -/
structure Counted (max n : ℕ) (e : Entry T) : Prop where
  few : n ≤ e.attempts
  bounded : 2 ≤ n → e.attempts ≤ max
  open_below : 1 ≤ n → e.token = none → e.outcome = none → e.attempts < max

theorem Counted.act {max n : ℕ} {a : Action T} (h : e.Counted max n) (hbelow : e.Below max a)
    (hact : e.act a = some e') (ha : a ≠ .redriven) :
    e'.Counted max (n + (claims [a]).length) := by
  cases a with
  | claimed token =>
    obtain ⟨hopen, rfl⟩ := act_claimed hact
    have hlt : 1 ≤ n → e.attempts < max := by
      intro hn
      rcases hbelow with hfree | hlt
      · exact h.open_below hn hfree hopen
      · exact hlt
    have hfew := h.few
    refine ⟨?_, ?_, ?_⟩
    · simp only [claims, Action.claim?, List.filterMap_cons, List.filterMap_nil,
        List.length_cons, List.length_nil]
      omega
    · intro hn
      simp only [claims, Action.claim?, List.filterMap_cons, List.filterMap_nil,
        List.length_cons, List.length_nil] at hn
      have := hlt (by omega)
      dsimp only
      omega
    · simp
  | finalised token o =>
    obtain ⟨_, rfl⟩ := act_finalised hact
    exact ⟨h.few, h.bounded, by simp⟩
  | rescheduled token =>
    obtain ⟨_, rfl⟩ := act_rescheduled hact
    exact ⟨h.few, h.bounded, fun _ _ _ => hbelow⟩
  | redriven => exact absurd rfl ha

theorem Counted.run {max n : ℕ} (hn : e.Counted max n) (h : run history e = some e')
    (hbelow : RunBelow max history e) (hkept : .redriven ∉ history) :
    e'.Counted max (n + (claims history).length) := by
  induction history generalizing e n with
  | nil =>
    obtain rfl : e = e' := Option.some.inj h
    exact hn
  | cons a history ih =>
    obtain ⟨mid, hact, hrest⟩ := Option.bind_eq_some_iff.mp h
    rw [List.mem_cons, not_or] at hkept
    have hmid := hn.act hbelow.1 hact (Ne.symm hkept.1)
    have hsplit : claims (a :: history) = claims [a] ++ claims history := by
      rw [← List.singleton_append]
      exact List.filterMap_append
    rw [hsplit, List.length_append, ← Nat.add_assoc]
    exact ih hmid hrest (hbelow.2 mid hact) hkept.2

omit [DecidableEq T] in
theorem Counted.le {max n : ℕ} (hn : e.Counted max n) (hmax : 1 ≤ max) : n ≤ max := by
  by_cases htwo : 2 ≤ n
  · exact Nat.le_trans hn.few (hn.bounded htwo)
  · omega

/-- Between two redrives an entry is claimed at most `max` times. -/
theorem claims_le {max : ℕ} {before : List (Action T)} (hmax : 1 ≤ max)
    (h : run (before ++ history ++ rest) e = some e')
    (hbelow : RunBelow max (before ++ history ++ rest) e) (hkept : .redriven ∉ history) :
    (claims history).length ≤ max := by
  obtain ⟨last, hfirst, _⟩ := run_split h
  obtain ⟨start, hbefore, hhistory⟩ := run_split hfirst
  have hwindow := ((runBelow_append hbefore).mp ((runBelow_append hfirst).mp hbelow).1).2
  have hstart : start.Counted max 0 := ⟨Nat.zero_le _, by simp, by simp⟩
  have hlast := hstart.run hhistory hwindow hkept
  rw [Nat.zero_add] at hlast
  exact hlast.le hmax

end Entry

end MaestroKernel.Outbox
