import MaestroKernel.Library.Interaction

/-! # Documents that are loaded and saved whole

A call loads a document, computes the next one from it, and replaces it. The calls of several
clients interleave at their loads and saves. As long as every save replaces the document that its
own call has loaded, a run is a sequence of whole calls. -/

namespace MaestroKernel.Documents

open Interaction

/-- A call refuses a document, or yields the next one with its outcome. -/
abbrev Service (ι S ρ ο : Type) := ι → S → Except ρ (S × ο)

inductive Command (ι S ο : Type) where
  | load
  | save (i : ι) (loaded next : S) (outcome : ο)

abbrev Command.Reply {ι S ο : Type} : Command ι S ο → Type
  | .load => S
  | .save .. => Unit

/-- A call that has saved. -/
structure Entry (ι S ο : Type) where
  call : ι
  next : S
  outcome : ο

/-- The document, and the calls that have saved, in their order. -/
structure World (ι S ο : Type) where
  document : S
  log : List (Entry ι S ο) := []

abbrev Client (ι S ρ ο : Type) := Prog (Command ι S ο) Command.Reply (Except ρ ο)

abbrev Clients (ι S ρ ο : Type) :=
  Config ι (Command ι S ο) Command.Reply (Except ρ ο) (World ι S ο)

variable {ι S ρ ο : Type}

/-- The rest of a call that is about to save. -/
def saving (i : ι) (loaded next : S) (outcome : ο) : Client ι S ρ ο :=
  .call (.save i loaded next outcome) fun _ => .done (.ok outcome)

def resume (perform : Service ι S ρ ο) (i : ι) (loaded : S) : Client ι S ρ ο :=
  match perform i loaded with
  | .error r => .done (.error r)
  | .ok (next, outcome) => saving i loaded next outcome

def exec : (c : Command ι S ο) → World ι S ο → Command.Reply c × World ι S ο
  | .load, w => (w.document, w)
  | .save i _ next outcome, w => ((), ⟨next, w.log ++ [⟨i, next, outcome⟩]⟩)

/-- Every client runs one call. -/
def machine (perform : Service ι S ρ ο) :
    Machine ι (Command ι S ο) Command.Reply (Except ρ ο) Unit (World ι S ο) where
  exec _ _ c w := some (exec c w)
  code i := .call .load (resume perform i)

/-- A save replaces the document that its call has loaded. -/
def Undisturbed (ev : Event ι Unit) (cfg : Clients ι S ρ ο) : Prop :=
  ∀ t j i loaded next outcome k, ev = .run t () →
    cfg.threads t = some (j, .call (.save i loaded next outcome) k) →
      cfg.shared.document = loaded

/-- `Undisturbed`, for schedules that are run. -/
def undisturbedCheck [DecidableEq S] (ev : Event ι Unit) (cfg : Clients ι S ρ ο) : Bool :=
  match ev with
  | .start .. => true
  | .run t _ =>
    match cfg.threads t with
    | some (_, .call (.save _ loaded _ _) _) => cfg.shared.document = loaded
    | _ => true

theorem undisturbed_of_check [DecidableEq S] (ev : Event ι Unit) (cfg : Clients ι S ρ ο)
    (h : undisturbedCheck ev cfg = true) : Undisturbed ev cfg := by
  rintro t j i loaded next outcome k rfl ht
  simp only [undisturbedCheck, ht] at h
  exact of_decide_eq_true h

/-! ## Whole calls -/

/-- The worlds that whole calls reach, one after another. -/
inductive Serial (perform : Service ι S ρ ο) (s₀ : S) : World ι S ο → Prop where
  | start : Serial perform s₀ ⟨s₀, []⟩
  | step {w : World ι S ο} {i : ι} {next : S} {outcome : ο} : Serial perform s₀ w →
      perform i w.document = .ok (next, outcome) →
      Serial perform s₀ ⟨next, w.log ++ [⟨i, next, outcome⟩]⟩

/-- What a started client has left to do. -/
inductive Stage (perform : Service ι S ρ ο) (w : World ι S ο) (i : ι) : Client ι S ρ ο → Prop where
  | unloaded : Stage perform w i (.call .load (resume perform i))
  | loaded {s next outcome} : perform i s = .ok (next, outcome) →
      Stage perform w i (saving i s next outcome)
  | refused (r) : Stage perform w i (.done (.error r))
  | saved (outcome) (h : ∃ entry ∈ w.log, entry.call = i ∧ entry.outcome = outcome) :
      Stage perform w i (.done (.ok outcome))

variable {perform : Service ι S ρ ο}

theorem Stage.of_log {w w' : World ι S ο} {i : ι} {p : Client ι S ρ ο}
    (h : Stage perform w i p) (hlog : ∀ entry ∈ w.log, entry ∈ w'.log) :
    Stage perform w' i p := by
  cases h with
  | unloaded => exact .unloaded
  | loaded hperform => exact .loaded hperform
  | refused r => exact .refused r
  | saved outcome hsaved =>
    obtain ⟨entry, hmem, hentry⟩ := hsaved
    exact .saved outcome ⟨entry, hlog entry hmem, hentry⟩

theorem stage_resume (w : World ι S ο) (i : ι) (s : S) :
    Stage perform w i (resume perform i s) := by
  unfold resume
  split
  · exact .refused _
  · rename_i hperform
    exact .loaded hperform

theorem stages {ok : Event ι Unit → Clients ι S ρ ο → Prop} {s₀ : S} {cfg : Clients ι S ρ ο}
    (h : (machine perform).Reaches ok (Machine.init ⟨s₀, []⟩) cfg) {t : ℕ} {i : ι}
    {p : Client ι S ρ ο} (ht : cfg.threads t = some (i, p)) : Stage perform cfg.shared i p := by
  induction h generalizing t i p with
  | refl => cases ht
  | @tail a b ev _ _ hnext ih =>
    cases ev with
    | start u j =>
      obtain ⟨-, hshared, hthreads⟩ := Machine.next_start hnext
      rw [hthreads] at ht
      rw [hshared]
      by_cases hne : t = u
      · subst hne
        rw [Function.update_self] at ht
        obtain ⟨rfl, rfl⟩ := Prod.mk.inj (Option.some.inj ht)
        exact .unloaded
      · rw [Function.update_of_ne hne] at ht
        exact ih ht
    | run u e =>
      obtain ⟨j, c, k, r, hu, hexec, hthreads⟩ := Machine.next_run hnext
      have hlog : ∀ entry ∈ a.shared.log, entry ∈ b.shared.log := by
        cases c with
        | load =>
          obtain ⟨-, hworld⟩ := Prod.mk.inj (Option.some.inj hexec)
          exact fun entry hmem => hworld ▸ hmem
        | save i' loaded next outcome =>
          obtain ⟨-, hworld⟩ := Prod.mk.inj (Option.some.inj hexec)
          exact fun entry hmem => hworld ▸ List.mem_append_left _ hmem
      rw [hthreads] at ht
      by_cases hne : t = u
      · subst hne
        rw [Function.update_self] at ht
        obtain ⟨rfl, rfl⟩ := Prod.mk.inj (Option.some.inj ht)
        cases ih hu with
        | unloaded => exact stage_resume _ _ _
        | @loaded s next outcome hperform =>
          obtain ⟨-, hworld⟩ := Prod.mk.inj (Option.some.inj hexec)
          refine .saved outcome ⟨⟨_, next, outcome⟩, ?_, rfl, rfl⟩
          rw [← hworld]
          exact List.mem_append_right _ (List.mem_singleton_self _)
      · rw [Function.update_of_ne hne] at ht
        exact (ih ht).of_log hlog

/-- An undisturbed run is a sequence of whole calls. -/
theorem serial_of_undisturbed {s₀ : S} {cfg : Clients ι S ρ ο}
    (h : (machine perform).Reaches Undisturbed (Machine.init ⟨s₀, []⟩) cfg) :
    Serial perform s₀ cfg.shared := by
  induction h with
  | refl => exact .start
  | @tail a b ev hreach hok hnext ih =>
    cases ev with
    | start u j =>
      obtain ⟨-, hshared, -⟩ := Machine.next_start hnext
      exact hshared ▸ ih
    | run u e =>
      obtain ⟨j, c, k, r, hu, hexec, -⟩ := Machine.next_run hnext
      cases stages hreach hu with
      | unloaded =>
        obtain ⟨-, hworld⟩ := Prod.mk.inj (Option.some.inj hexec)
        exact hworld ▸ ih
      | loaded hperform =>
        obtain ⟨-, hworld⟩ := Prod.mk.inj (Option.some.inj hexec)
        rw [← hok u j j _ _ _ _ rfl hu] at hperform
        exact hworld ▸ ih.step hperform

/-! ## Rules for whole calls -/

section Rules

variable {s₀ : S} {w : World ι S ο} {P : S → Prop} {Extends : S → S → Prop}

theorem Serial.invariant (h : Serial perform s₀ w) (hstart : P s₀)
    (hstep : ∀ i s next outcome, P s → perform i s = .ok (next, outcome) → P next) :
    P w.document := by
  induction h with
  | start => exact hstart
  | step _ hperform ih => exact hstep _ _ _ _ ih hperform

/-- What every call keeps of the document before it stands in all later documents. -/
theorem Serial.kept (h : Serial perform s₀ w) (hstart : P s₀)
    (hrefl : ∀ s, Extends s s) (htrans : ∀ a b c, Extends a b → Extends b c → Extends a c)
    (hstep : ∀ i s next outcome, P s → perform i s = .ok (next, outcome) →
      P next ∧ Extends s next) : ∀ entry ∈ w.log, Extends entry.next w.document := by
  have hP : ∀ i s next outcome, P s → perform i s = .ok (next, outcome) → P next :=
    fun i s next outcome hs hperform => (hstep i s next outcome hs hperform).1
  induction h with
  | start =>
    intro entry hmem
    cases hmem
  | step hserial hperform ih =>
    intro entry hmem
    rcases List.mem_append.mp hmem with hold | hlast
    · exact htrans _ _ _ (ih entry hold)
        (hstep _ _ _ _ (hserial.invariant hstart hP) hperform).2
    · obtain rfl := List.mem_singleton.mp hlast
      exact hrefl _

theorem Serial.pairwise (h : Serial perform s₀ w) (hstart : P s₀)
    (hrefl : ∀ s, Extends s s) (htrans : ∀ a b c, Extends a b → Extends b c → Extends a c)
    (hstep : ∀ i s next outcome, P s → perform i s = .ok (next, outcome) →
      P next ∧ Extends s next) :
    w.log.Pairwise fun earlier later => ∃ s, P s ∧ Extends earlier.next s ∧
      perform later.call s = .ok (later.next, later.outcome) := by
  have hP : ∀ i s next outcome, P s → perform i s = .ok (next, outcome) → P next :=
    fun i s next outcome hs hperform => (hstep i s next outcome hs hperform).1
  induction h with
  | start => exact List.Pairwise.nil
  | step hserial hperform ih =>
    rw [List.pairwise_append]
    refine ⟨ih, List.pairwise_singleton _ _, ?_⟩
    intro earlier hearlier later hlater
    obtain rfl := List.mem_singleton.mp hlater
    exact ⟨_, hserial.invariant hstart hP, hserial.kept hstart hrefl htrans hstep earlier hearlier,
      hperform⟩

/-- Every call that has saved ran on some document. -/
theorem Serial.performed (h : Serial perform s₀ w) (hstart : P s₀)
    (hP : ∀ i s next outcome, P s → perform i s = .ok (next, outcome) → P next) :
    ∀ entry ∈ w.log, ∃ s, P s ∧ perform entry.call s = .ok (entry.next, entry.outcome) := by
  induction h with
  | start =>
    intro entry hmem
    cases hmem
  | step hserial hperform ih =>
    intro entry hmem
    rcases List.mem_append.mp hmem with hold | hlast
    · exact ih entry hold
    · obtain rfl := List.mem_singleton.mp hlast
      exact ⟨_, hserial.invariant hstart hP, hperform⟩

end Rules

end MaestroKernel.Documents
