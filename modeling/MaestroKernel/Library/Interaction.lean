import Mathlib.Data.Nat.Notation
import Mathlib.Logic.Function.Basic

/-! # Interaction programs over a shared state

A client is a tree of commands: it performs a command, receives a reply, and
continues. Clients interleave at commands, so each command is one atomic step.
The rules below follow the rely-guarantee discipline. Every step of a client
satisfies its guarantee, and what the others guarantee is what it relies on. -/

namespace MaestroKernel.Interaction

/-- A client ends with a value, or performs `c` and continues with the reply. -/
inductive Prog (C : Type) (R : C → Type) (α : Type) where
  | done (a : α)
  | call (c : C) (k : R c → Prog C R α)

namespace Prog

variable {C : Type} {R : C → Type} {α β : Type}

protected def bind : Prog C R α → (α → Prog C R β) → Prog C R β
  | .done a, f => f a
  | .call c k, f => .call c fun r => (k r).bind f

instance : Monad (Prog C R) where
  pure := .done
  bind := Prog.bind

/-- The program that performs one command and returns its reply. -/
def perform (c : C) : Prog C R (R c) := .call c .done

/-- Run `body` up to `n` times until it yields a value. -/
def retry (exhausted : α) (body : Prog C R (Option α)) : ℕ → Prog C R α
  | 0 => .done exhausted
  | n + 1 => body >>= fun
      | some a => .done a
      | none => retry exhausted body n

@[simp] theorem pure_eq (a : α) : (pure a : Prog C R α) = .done a := rfl

@[simp] theorem done_bind (a : α) (f : α → Prog C R β) : (Prog.done a >>= f) = f a := rfl

@[simp] theorem call_bind (c : C) (k : R c → Prog C R α) (f : α → Prog C R β) :
    (Prog.call c k >>= f) = .call c fun r => k r >>= f := rfl

@[simp] theorem perform_bind (c : C) (f : R c → Prog C R β) :
    (perform c >>= f) = .call c f := rfl

end Prog

/-- A shared state with the operations its clients may run. The environment
`E` carries what the clients do not choose, such as a clock reading; `exec`
refuses an environment that cannot occur. -/
structure Machine (ι C : Type) (R : C → Type) (α E S : Type) where
  exec : E → ℕ → (c : C) → S → Option (R c × S)
  code : ι → Prog C R α

/-- What every client has left to do, and the shared state. -/
structure Config (ι C : Type) (R : C → Type) (α S : Type) where
  threads : ℕ → Option (ι × Prog C R α)
  shared : S

/-- A client starts an operation, or a started client performs its next command. -/
inductive Event (ι E : Type) where
  | start (t : ℕ) (i : ι)
  | run (t : ℕ) (e : E)

def Event.client {ι E : Type} : Event ι E → ℕ
  | .start t _ => t
  | .run t _ => t

variable {ι C : Type} {R : C → Type} {α β E S : Type}

/-- Every started client is done. -/
def Config.Quiet (cfg : Config ι C R α S) : Prop :=
  ∀ t i p, cfg.threads t = some (i, p) → ∃ v, p = .done v

namespace Machine

variable (M : Machine ι C R α E S)

/-- The configuration before any client has started. -/
def init (s : S) : Config ι C R α S := ⟨fun _ => none, s⟩

def next : Event ι E → Config ι C R α S → Option (Config ι C R α S)
  | .start t i, cfg =>
    match cfg.threads t with
    | none => some ⟨Function.update cfg.threads t (some (i, M.code i)), cfg.shared⟩
    | some _ => none
  | .run t e, cfg =>
    match cfg.threads t with
    | some (i, .call c k) =>
      (M.exec e t c cfg.shared).map fun rs =>
        ⟨Function.update cfg.threads t (some (i, k rs.1)), rs.2⟩
    | _ => none

/-- A schedule is a sequence of events; it is rejected at the first impossible one. -/
def run : List (Event ι E) → Config ι C R α S → Option (Config ι C R α S)
  | [], cfg => some cfg
  | ev :: evs, cfg => (M.next ev cfg).bind (run evs)

/-- The configurations that interleavings reach when every event meets `ok`. -/
inductive Reaches (ok : Event ι E → Config ι C R α S → Prop) :
    Config ι C R α S → Config ι C R α S → Prop where
  | refl (a) : Reaches ok a a
  | tail {a b c} (ev) : Reaches ok a b → ok ev b → M.next ev b = some c → Reaches ok a c

variable {M}

theorem Reaches.trans {ok : Event ι E → Config ι C R α S → Prop}
    {a b c : Config ι C R α S} (hab : M.Reaches ok a b) (hbc : M.Reaches ok b c) :
    M.Reaches ok a c := by
  induction hbc with
  | refl => exact hab
  | tail ev _ hok hnext ih => exact .tail ev ih hok hnext

theorem Reaches.weaken {ok ok' : Event ι E → Config ι C R α S → Prop}
    (hw : ∀ ev cfg, ok ev cfg → ok' ev cfg) {a b : Config ι C R α S}
    (h : M.Reaches ok a b) : M.Reaches ok' a b := by
  induction h with
  | refl => exact .refl _
  | tail ev _ hok hnext ih => exact .tail ev ih (hw _ _ hok) hnext

theorem run_reaches {evs : List (Event ι E)} {a b : Config ι C R α S}
    (h : M.run evs a = some b) : M.Reaches (fun _ _ => True) a b := by
  induction evs generalizing a with
  | nil =>
    obtain rfl : a = b := Option.some.inj h
    exact .refl _
  | cons ev evs ih =>
    obtain ⟨c, hc, hb⟩ := Option.bind_eq_some_iff.mp h
    exact Reaches.trans (.tail ev (.refl a) trivial hc) (ih hb)

variable (M) in
/-- A schedule whose events are checked as it goes. -/
def runIf (check : Event ι E → Config ι C R α S → Bool) :
    List (Event ι E) → Config ι C R α S → Option (Config ι C R α S)
  | [], cfg => some cfg
  | ev :: evs, cfg => if check ev cfg then (M.next ev cfg).bind (runIf check evs) else none

theorem runIf_reaches {ok : Event ι E → Config ι C R α S → Prop}
    {check : Event ι E → Config ι C R α S → Bool}
    (hcheck : ∀ ev cfg, check ev cfg = true → ok ev cfg) {evs : List (Event ι E)}
    {a b : Config ι C R α S} (h : M.runIf check evs a = some b) : M.Reaches ok a b := by
  induction evs generalizing a with
  | nil =>
    obtain rfl : a = b := Option.some.inj h
    exact .refl _
  | cons ev evs ih =>
    rw [runIf] at h
    split at h
    · rename_i hev
      obtain ⟨c, hc, hb⟩ := Option.bind_eq_some_iff.mp h
      exact Reaches.trans (.tail ev (.refl a) (hcheck ev a hev) hc) (ih hb)
    · cases h

/-- What a command's event does, read off the thread that performs it. -/
theorem next_run {t : ℕ} {e : E} {a b : Config ι C R α S}
    (h : M.next (.run t e) a = some b) :
    ∃ i c k r, a.threads t = some (i, .call c k) ∧
      M.exec e t c a.shared = some (r, b.shared) ∧
      b.threads = Function.update a.threads t (some (i, k r)) := by
  simp only [next] at h
  split at h
  · rename_i i c k heq
    obtain ⟨⟨r, s⟩, hexec, rfl⟩ := Option.map_eq_some_iff.mp h
    exact ⟨i, c, k, r, heq, hexec, rfl⟩
  · simp at h

theorem next_start {t : ℕ} {i : ι} {a b : Config ι C R α S}
    (h : M.next (.start t i) a = some b) :
    a.threads t = none ∧ b.shared = a.shared ∧
      b.threads = Function.update a.threads t (some (i, M.code i)) := by
  simp only [next] at h
  split at h
  · rename_i heq
    obtain rfl := Option.some.inj h
    exact ⟨heq, rfl, rfl⟩
  · simp at h

/-- A client that does not occur in a schedule is not moved by it. -/
theorem run_threads {evs : List (Event ι E)} {t : ℕ} (ht : ∀ ev ∈ evs, ev.client ≠ t)
    {a b : Config ι C R α S} (h : M.run evs a = some b) : b.threads t = a.threads t := by
  induction evs generalizing a with
  | nil =>
    obtain rfl : a = b := Option.some.inj h
    rfl
  | cons ev evs ih =>
    obtain ⟨c, hc, hb⟩ := Option.bind_eq_some_iff.mp h
    have hne : t ≠ ev.client := (ht ev List.mem_cons_self).symm
    rw [ih (fun ev hev => ht ev (List.mem_cons_of_mem _ hev)) hb]
    cases ev with
    | start u i =>
      obtain ⟨-, -, hthreads⟩ := next_start hc
      rw [hthreads]
      exact Function.update_of_ne hne _ _
    | run u e =>
      obtain ⟨_, _, _, _, _, _, hthreads⟩ := next_run hc
      rw [hthreads]
      exact Function.update_of_ne hne _ _

/-- The clients below `n` are done. -/
def quietBelow (n : ℕ) (cfg : Config ι C R α S) : Bool :=
  (List.range n).all fun t => match cfg.threads t with
    | some (_, .call ..) => false
    | _ => true

/-- A schedule whose clients are below `n` ends quiet when these are done. -/
theorem quiet_of_run {evs : List (Event ι E)} {n : ℕ} (hn : ∀ ev ∈ evs, ev.client < n) {s : S}
    {b : Config ι C R α S} (h : M.run evs (init s) = some b) (hb : quietBelow n b = true) :
    b.Quiet := by
  intro t i p ht
  by_cases hlt : t < n
  · have hdone := List.all_eq_true.mp hb t (List.mem_range.mpr hlt)
    rw [ht] at hdone
    cases p with
    | done v => exact ⟨v, rfl⟩
    | call c k => cases hdone
  · have hnone : b.threads t = none :=
      run_threads (fun ev hev he => hlt (lt_of_eq_of_lt he.symm (hn ev hev))) h
    rw [hnone] at ht
    cases ht

/-- A started client keeps its operation. -/
theorem next_started {ev : Event ι E} {t : ℕ} {i : ι} {p : Prog C R α} {a b : Config ι C R α S}
    (h : M.next ev a = some b) (ht : a.threads t = some (i, p)) :
    ∃ p', b.threads t = some (i, p') := by
  cases ev with
  | start u j =>
    obtain ⟨hu, -, hthreads⟩ := next_start h
    have hne : t ≠ u := by
      rintro rfl
      rw [hu] at ht
      cases ht
    exact ⟨p, by rw [hthreads, Function.update_of_ne hne, ht]⟩
  | run u e =>
    obtain ⟨j, c, k, r, hu, -, hthreads⟩ := next_run h
    by_cases hne : t = u
    · subst hne
      obtain ⟨rfl, rfl⟩ := Prod.mk.inj (Option.some.inj (hu.symm.trans ht))
      exact ⟨k r, by rw [hthreads, Function.update_self]⟩
    · exact ⟨p, by rw [hthreads, Function.update_of_ne hne, ht]⟩

/-- A fact about the started operations holds when every event that starts one meets it. -/
theorem Reaches.started {ok : Event ι E → Config ι C R α S → Prop} {P : ι → Prop}
    (hP : ∀ t i cfg, ok (.start t i) cfg → P i) {s : S} {a : Config ι C R α S}
    (h : M.Reaches ok (init s) a) {t : ℕ} {i : ι} {p : Prog C R α}
    (ht : a.threads t = some (i, p)) : P i := by
  induction h generalizing t i p with
  | refl => cases ht
  | tail ev _ hok hnext ih =>
    cases ev with
    | start u j =>
      obtain ⟨-, -, hthreads⟩ := next_start hnext
      rw [hthreads] at ht
      by_cases hne : t = u
      · subst hne
        rw [Function.update_self] at ht
        obtain ⟨rfl, -⟩ := Prod.mk.inj (Option.some.inj ht)
        exact hP t j _ hok
      · rw [Function.update_of_ne hne] at ht
        exact ih ht
    | run u e =>
      obtain ⟨j, c, k, r, hu, -, hthreads⟩ := next_run hnext
      rw [hthreads] at ht
      by_cases hne : t = u
      · subst hne
        rw [Function.update_self] at ht
        obtain ⟨rfl, -⟩ := Prod.mk.inj (Option.some.inj ht)
        exact ih hu
      · rw [Function.update_of_ne hne] at ht
        exact ih ht

/-- What the events that start operations meet can be assumed of the started ones. -/
theorem Reaches.with_started {ok : Event ι E → Config ι C R α S → Prop} {P : ι → Prop}
    (hP : ∀ t i cfg, ok (.start t i) cfg → P i) {s : S} {a : Config ι C R α S}
    (h : M.Reaches ok (init s) a) :
    M.Reaches (fun ev cfg => ok ev cfg ∧ ∀ t i p, cfg.threads t = some (i, p) → P i) (init s) a := by
  induction h with
  | refl => exact .refl _
  | tail ev hreach hok hnext ih =>
    exact .tail ev ih ⟨hok, fun _ _ _ ht => hreach.started hP ht⟩ hnext

/-- Finitely many clients have started. -/
theorem Reaches.exists_unstarted {ok : Event ι E → Config ι C R α S → Prop} {s : S}
    {a : Config ι C R α S} (h : M.Reaches ok (init s) a) :
    ∃ n, ∀ t, n ≤ t → a.threads t = none := by
  induction h with
  | refl => exact ⟨0, fun _ _ => rfl⟩
  | @tail b c ev _ _ hnext ih =>
    obtain ⟨n, hn⟩ := ih
    refine ⟨max n (ev.client + 1), fun t ht => ?_⟩
    have hne : t ≠ ev.client := by omega
    have hrun : M.run [ev] b = some c := by simp [run, hnext]
    rw [run_threads (fun ev' hev' => List.mem_singleton.mp hev' ▸ hne.symm) hrun]
    exact hn t (by omega)

/-! ## One client alone -/

variable (M)

/-- The run of one client that nobody interrupts, in one environment. -/
def solo (e : E) (t : ℕ) : Prog C R β → S → Option (β × S)
  | .done a, s => some (a, s)
  | .call c k, s => (M.exec e t c s).bind fun rs => solo e t (k rs.1) rs.2

variable {M}

@[simp] theorem solo_done (e : E) (t : ℕ) (a : β) (s : S) :
    M.solo e t (.done a : Prog C R β) s = some (a, s) := rfl

@[simp] theorem solo_call (e : E) (t : ℕ) (c : C) (k : R c → Prog C R β) (s : S) :
    M.solo e t (.call c k) s = (M.exec e t c s).bind fun rs => M.solo e t (k rs.1) rs.2 := rfl

theorem solo_bind {γ : Type} (e : E) (t : ℕ) (p : Prog C R γ) (f : γ → Prog C R β) (s : S) :
    M.solo e t (p >>= f) s = (M.solo e t p s).bind fun as => M.solo e t (f as.1) as.2 := by
  induction p generalizing s with
  | done a => rfl
  | call c k ih =>
    simp only [Prog.call_bind, solo_call]
    cases M.exec e t c s with
    | none => rfl
    | some rs => exact ih rs.1 rs.2

/-- A body that ends with a value is run once. -/
theorem solo_retry {e : E} {t : ℕ} {x a : β} {body : Prog C R (Option β)} {s s' : S} (n : ℕ)
    (h : M.solo e t body s = some (some a, s')) :
    M.solo e t (.retry x body (n + 1)) s = some (a, s') := by
  rw [Prog.retry, solo_bind, h]
  rfl

/-- A machine that answers every command as another one does, from related states,
runs every client as the other one does. -/
theorem solo_simulates {ι' α' S' : Type} {N : Machine ι' C R α' E S'} {e : E} {t : ℕ}
    (V : S' → S → Prop)
    (hstep : ∀ c v r v' s, N.exec e t c v = some (r, v') → V v s →
      ∃ s', M.exec e t c s = some (r, s') ∧ V v' s')
    (p : Prog C R β) {v v' : S'} {s : S} {a : β} (h : N.solo e t p v = some (a, v'))
    (hs : V v s) : ∃ s', M.solo e t p s = some (a, s') ∧ V v' s' := by
  induction p generalizing v s with
  | done b =>
    obtain ⟨rfl, rfl⟩ := Prod.mk.inj (Option.some.inj h)
    exact ⟨s, rfl, hs⟩
  | call c k ih =>
    obtain ⟨⟨r, v₁⟩, hexec, hrest⟩ := Option.bind_eq_some_iff.mp h
    obtain ⟨s₁, hs₁, hrel⟩ := hstep c v r v₁ s hexec hs
    obtain ⟨s', hs', hrel'⟩ := ih r hrest hrel
    exact ⟨s', by rw [solo_call, hs₁]; exact hs', hrel'⟩

section Solo

variable {ok : Event ι E → Config ι C R α S → Prop} {e : E} {t : ℕ} {i : ι}
  (hok : ∀ cfg p, cfg.threads t = some (i, p) → ok (.run t e) cfg)
include hok

/-- An uninterrupted run is one of the interleavings. -/
theorem solo_reaches (p : Prog C R α) {a : α} {s' : S} {cfg : Config ι C R α S}
    (hp : cfg.threads t = some (i, p)) (h : M.solo e t p cfg.shared = some (a, s')) :
    M.Reaches ok cfg ⟨Function.update cfg.threads t (some (i, .done a)), s'⟩ := by
  induction p generalizing cfg with
  | done b =>
    simp only [solo_done, Option.some.injEq, Prod.mk.injEq] at h
    obtain ⟨rfl, rfl⟩ := h
    rw [← hp, Function.update_eq_self]
    exact .refl _
  | call c k ih =>
    simp only [solo_call, Option.bind_eq_some_iff] at h
    obtain ⟨⟨r, s⟩, hexec, hrest⟩ := h
    let mid : Config ι C R α S := ⟨Function.update cfg.threads t (some (i, k r)), s⟩
    have hnext : M.next (.run t e) cfg = some mid := by
      simp [next, hp, hexec, mid]
    have hmid : mid.threads t = some (i, k r) := by simp [mid]
    have hstep := ih r hmid hrest
    simp only [mid, Function.update_idem] at hstep
    exact Reaches.trans (.tail _ (.refl _) (hok cfg _ hp) hnext) hstep

/-- A client that starts and finishes while nobody else moves. -/
theorem call_reaches {a : α} {s' : S} {cfg : Config ι C R α S} (hstart : ok (.start t i) cfg)
    (ht : cfg.threads t = none) (h : M.solo e t (M.code i) cfg.shared = some (a, s')) :
    M.Reaches ok cfg ⟨Function.update cfg.threads t (some (i, .done a)), s'⟩ := by
  let mid : Config ι C R α S := ⟨Function.update cfg.threads t (some (i, M.code i)), cfg.shared⟩
  have hnext : M.next (.start t i) cfg = some mid := by
    simp [next, ht, mid]
  have hmid : mid.threads t = some (i, M.code i) := by simp [mid]
  have hsolo := solo_reaches hok (M.code i) hmid h
  simp only [mid, Function.update_idem] at hsolo
  exact Reaches.trans (.tail _ (.refl _) hstart hnext) hsolo

end Solo

end Machine

/-! ## Rely and guarantee -/

/-- `rely t` is what client `t` tolerates from the others, `guar t i c` what its
own command `c` does while it runs `i`. `unborn t` holds until client `t` starts,
and `post` relates the value a client ended with to every later state. -/
structure Contract (ι C α S : Type) where
  inv : S → Prop
  unborn : ℕ → S → Prop
  rely : ℕ → S → S → Prop
  guar : ℕ → ι → C → S → S → Prop
  post : ℕ → ι → α → S → Prop

section Safe

variable (M : Machine ι C R α E S) (K : Contract ι C α S)

/-- From `s` on, whatever the others do, each step of the program meets the
guarantee and its final value meets `Q` for ever. -/
def Safe (t : ℕ) (i : ι) (Q : β → S → Prop) : Prog C R β → S → Prop
  | .done a, s => ∀ s₁, K.rely t s s₁ → K.inv s₁ → Q a s₁
  | .call c k, s => ∀ s₁ e r s₂, K.rely t s s₁ → K.inv s₁ →
      M.exec e t c s₁ = some (r, s₂) → K.guar t i c s₁ s₂ ∧ Safe t i Q (k r) s₂

/-- The program of every operation meets the contract from its start. -/
def Contract.Implemented : Prop :=
  ∀ t i s, K.inv s → K.unborn t s → Safe M K t i (K.post t i) (M.code i) s

/-- What makes a contract compose. -/
structure Contract.Sound (K : Contract ι C α S) : Prop where
  rely_refl : ∀ t s, K.rely t s s
  rely_trans : ∀ t s₁ s₂ s₃, K.rely t s₁ s₂ → K.rely t s₂ s₃ → K.rely t s₁ s₃
  guar_rely : ∀ t u i c s s', t ≠ u → K.inv s → K.guar t i c s s' → K.rely u s s'
  guar_inv : ∀ t i c s s', K.inv s → K.guar t i c s s' → K.inv s'
  rely_unborn : ∀ t s s', K.rely t s s' → K.unborn t s → K.unborn t s'

variable {M K} {t : ℕ} {i : ι}

/-- A local fact that the other clients cannot falsify. -/
def Stable (K : Contract ι C α S) (t : ℕ) (P : S → Prop) : Prop :=
  ∀ s s', K.rely t s s' → P s → P s'

theorem Stable.and {P P' : S → Prop} (h : Stable K t P) (h' : Stable K t P') :
    Stable K t fun s => P s ∧ P' s :=
  fun s s' hr hp => ⟨h s s' hr hp.1, h' s s' hr hp.2⟩

theorem Safe.of_done {Q : β → S → Prop} {a : β} {s : S} {P : S → Prop}
    (hP : Stable K t P) (hs : P s) (h : ∀ s₁, P s₁ → K.inv s₁ → Q a s₁) :
    Safe M K t i Q (.done a) s :=
  fun s₁ hr hi => h s₁ (hP s s₁ hr hs) hi

theorem Safe.rely (hK : K.Sound) {Q : β → S → Prop} {p : Prog C R β} {s s' : S}
    (h : Safe M K t i Q p s) (hr : K.rely t s s') : Safe M K t i Q p s' := by
  cases p with
  | done a => exact fun s₁ h₁ => h s₁ (hK.rely_trans t _ _ _ hr h₁)
  | call c k => exact fun s₁ e r s₂ h₁ => h s₁ e r s₂ (hK.rely_trans t _ _ _ hr h₁)

/-- Only the reflexivity of what a client relies on is needed to go on with a value. -/
theorem Safe.bind_of_refl {γ : Type} (hrefl : ∀ s, K.rely t s s) {Q : β → S → Prop}
    {p : Prog C R γ} {f : γ → Prog C R β} {s : S}
    (h : Safe M K t i (fun a s₁ => Safe M K t i Q (f a) s₁) p s) :
    Safe M K t i Q (p >>= f) s := by
  induction p generalizing s with
  | done a =>
    rw [Prog.done_bind]
    cases hf : f a with
    | done b =>
      intro s₁ hr hi
      have h₁ : Safe M K t i Q (f a) s₁ := h s₁ hr hi
      rw [hf] at h₁
      exact h₁ s₁ (hrefl s₁) hi
    | call c k =>
      intro s₁ e r s₂ hr hi he
      have h₁ : Safe M K t i Q (f a) s₁ := h s₁ hr hi
      rw [hf] at h₁
      exact h₁ s₁ e r s₂ (hrefl s₁) hi he
  | call c k ih =>
    intro s₁ e r s₂ hr hi he
    obtain ⟨hg, hk⟩ := h s₁ e r s₂ hr hi he
    exact ⟨hg, ih r hk⟩

theorem Safe.bind {γ : Type} (hK : K.Sound) {Q : β → S → Prop}
    {p : Prog C R γ} {f : γ → Prog C R β} {s : S}
    (h : Safe M K t i (fun a s₁ => Safe M K t i Q (f a) s₁) p s) :
    Safe M K t i Q (p >>= f) s :=
  Safe.bind_of_refl (hK.rely_refl t) h

theorem Safe.weaken {Q Q' : β → S → Prop} (hQ : ∀ a s, K.inv s → Q a s → Q' a s)
    {p : Prog C R β} {s : S} (h : Safe M K t i Q p s) : Safe M K t i Q' p s := by
  induction p generalizing s with
  | done a => exact fun s₁ hr hi => hQ a s₁ hi (h s₁ hr hi)
  | call c k ih =>
    intro s₁ e r s₂ hr hi he
    obtain ⟨hg, hk⟩ := h s₁ e r s₂ hr hi he
    exact ⟨hg, ih r hk⟩

/-- A loop meets `P n` at the start of its body when `n` attempts are left. -/
theorem Safe.retry (hK : K.Sound) {Q : β → S → Prop} {exhausted : β}
    {body : Prog C R (Option β)} {P : ℕ → S → Prop}
    (hbody : ∀ n s, K.inv s → P (n + 1) s → Safe M K t i (fun r s₁ => match r with
      | some b => Q b s₁
      | none => P n s₁) body s)
    (hexhausted : ∀ s, K.inv s → P 0 s → Q exhausted s) (n : ℕ) {s : S}
    (hP : Stable K t (P 0)) (hQ : ∀ b, Stable K t (Q b)) (hi : K.inv s) (hs : P n s) :
    Safe M K t i Q (.retry exhausted body n) s := by
  induction n generalizing s with
  | zero => exact Safe.of_done hP hs fun s₁ h₁ hi₁ => hexhausted s₁ hi₁ h₁
  | succ n ih =>
    refine Safe.bind hK ((hbody n s hi hs).weaken fun r s₁ hi₁ hr => ?_)
    cases r with
    | some b => exact Safe.of_done (hQ b) hr fun _ h _ => h
    | none => exact ih hi₁ hr

/-! ## Every interleaving of safe programs is safe -/

/-- Clients that have not started are unborn, and the others are safe from here. -/
def Config.Safe (M : Machine ι C R α E S) (K : Contract ι C α S) (cfg : Config ι C R α S) :
    Prop :=
  K.inv cfg.shared ∧ ∀ t, match cfg.threads t with
    | none => K.unborn t cfg.shared
    | some (i, p) => Interaction.Safe M K t i (K.post t i) p cfg.shared

theorem Config.Safe.started {cfg : Config ι C R α S} (h : cfg.Safe M K) {p : Prog C R α}
    (ht : cfg.threads t = some (i, p)) : Interaction.Safe M K t i (K.post t i) p cfg.shared := by
  have h₁ := h.2 t
  rwa [ht] at h₁

theorem Config.Safe.unborn {cfg : Config ι C R α S} (h : cfg.Safe M K)
    (ht : cfg.threads t = none) : K.unborn t cfg.shared := by
  have h₁ := h.2 t
  rwa [ht] at h₁

theorem Config.safe_init (s : S) (hi : K.inv s) (hu : ∀ t, K.unborn t s) :
    (Machine.init s : Config ι C R α S).Safe M K :=
  ⟨hi, hu⟩

variable (hK : K.Sound) (hM : K.Implemented M)
include hK

/-- One command of a safe configuration meets the guarantee of its client. -/
theorem Config.Safe.guar {a b : Config ι C R α S} (h : a.Safe M K) {e : E}
    (hnext : M.next (.run t e) a = some b) :
    ∃ i c k, a.threads t = some (i, .call c k) ∧ K.guar t i c a.shared b.shared := by
  obtain ⟨i, c, k, r, ht, he, -⟩ := Machine.next_run hnext
  have hs := h.started ht
  exact ⟨i, c, k, ht, (hs a.shared e r b.shared (hK.rely_refl t _) h.1 he).1⟩

include hM in
theorem Config.Safe.next {a b : Config ι C R α S} (h : a.Safe M K) {ev : Event ι E}
    (hnext : M.next ev a = some b) : b.Safe M K := by
  cases ev with
  | start t i =>
    obtain ⟨ht, hshared, hthreads⟩ := Machine.next_start hnext
    refine ⟨hshared ▸ h.1, fun u => ?_⟩
    rw [hthreads, hshared]
    by_cases hu : u = t
    · subst u
      simpa using hM t i a.shared h.1 (h.unborn ht)
    · simpa [hu] using h.2 u
  | run t e =>
    obtain ⟨i, c, k, r, ht, he, hthreads⟩ := Machine.next_run hnext
    obtain ⟨hg, hk⟩ := h.started ht a.shared e r b.shared (hK.rely_refl t _) h.1 he
    refine ⟨hK.guar_inv t i c _ _ h.1 hg, fun u => ?_⟩
    rw [hthreads]
    by_cases hu : u = t
    · subst u
      simpa using hk
    · -- Another client keeps its safety across a step that it relies on.
      have hr : K.rely u a.shared b.shared := hK.guar_rely t u i c _ _ (Ne.symm hu) h.1 hg
      have hsafe := h.2 u
      simp only [Function.update_of_ne hu]
      cases hthread : a.threads u with
      | none =>
        rw [hthread] at hsafe
        exact hK.rely_unborn u _ _ hr hsafe
      | some ip =>
        rw [hthread] at hsafe
        exact Safe.rely hK hsafe hr

include hM in
theorem Config.Safe.reaches {ok : Event ι E → Config ι C R α S → Prop}
    {a b : Config ι C R α S} (h : a.Safe M K) (hr : M.Reaches ok a b) : b.Safe M K := by
  induction hr with
  | refl => exact h
  | tail ev _ _ hnext ih => exact ih.next hK hM hnext

/-- The value of a finished client meets its postcondition in every later state. -/
theorem Config.Safe.post {a : Config ι C R α S} (h : a.Safe M K) {v : α}
    (ht : a.threads t = some (i, .done v)) : K.post t i v a.shared :=
  h.started ht a.shared (hK.rely_refl t _) h.1

end Safe

section Each

variable {M : Machine ι C R α E S} {K : ι → Contract ι C α S}
  {ok : Event ι E → Config ι C R α S → Prop} {s : S}

/-- Each operation has a contract of its own, and in the runs at hand the steps of a client are
what the clients that still run rely on. -/
theorem Machine.Reaches.safe_each (hinv : ∀ i s, (K i).inv s)
    (hrefl : ∀ i t s, (K i).rely t s s)
    (htrans : ∀ i t s₁ s₂ s₃, (K i).rely t s₁ s₂ → (K i).rely t s₂ s₃ → (K i).rely t s₁ s₃)
    (hM : ∀ t i s, Safe M (K i) t i ((K i).post t i) (M.code i) s)
    (hrely : ∀ a b t e i c k, ok (.run t e) a → M.next (.run t e) a = some b →
      a.threads t = some (i, .call c k) → (K i).guar t i c a.shared b.shared →
      ∀ u j c' k', u ≠ t → a.threads u = some (j, .call c' k') → (K j).rely u a.shared b.shared)
    {a : Config ι C R α S} (h : M.Reaches ok (Machine.init s) a) {t : ℕ} {i : ι} {c : C}
    {k : R c → Prog C R α} (ht : a.threads t = some (i, .call c k)) :
    Safe M (K i) t i ((K i).post t i) (.call c k) a.shared := by
  induction h generalizing t i c k with
  | refl => cases ht
  | @tail a b ev _ hok hnext ih =>
    cases ev with
    | start u j =>
      obtain ⟨-, hshared, hthreads⟩ := Machine.next_start hnext
      rw [hthreads] at ht
      rw [hshared]
      by_cases hu : t = u
      · subst hu
        rw [Function.update_self] at ht
        obtain ⟨rfl, hcode⟩ := Prod.mk.inj (Option.some.inj ht)
        rw [← hcode]
        exact hM t j a.shared
      · rw [Function.update_of_ne hu] at ht
        exact ih ht
    | run u e =>
      obtain ⟨j, c₁, k₁, r, hu, hexec, hthreads⟩ := Machine.next_run hnext
      obtain ⟨hguar, hrest⟩ := ih hu a.shared e r b.shared (hrefl j u _) (hinv j _) hexec
      rw [hthreads] at ht
      by_cases hne : t = u
      · subst hne
        rw [Function.update_self] at ht
        obtain ⟨rfl, hcode⟩ := Prod.mk.inj (Option.some.inj ht)
        rw [← hcode]
        exact hrest
      · rw [Function.update_of_ne hne] at ht
        have hstep := hrely a b u e j c₁ k₁ hok hnext hu hguar t i c k hne ht
        exact fun s₁ e r s₂ h₁ => ih ht s₁ e r s₂ (htrans i t _ _ _ hstep h₁)

end Each

end MaestroKernel.Interaction
