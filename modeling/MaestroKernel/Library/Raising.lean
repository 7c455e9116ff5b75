import MaestroKernel.Library.Interaction
import Mathlib.Control.Basic

/-! # Clients that raise

A client that can raise is a program in `ExceptT`. It is verified statement by statement: a fact that
the others cannot falsify goes in, and one about the value that is returned comes out. Nothing is
said of an exception but that the steps before it met the guarantee. -/

namespace MaestroKernel.Raising

open Interaction

variable {ι C : Type} {R : C → Type} {α β E S ε : Type}

abbrev Client (C : Type) (R : C → Type) (ε α : Type) : Type := ExceptT ε (Prog C R) α

/-- One command, whose reply is a value or an exception. -/
def perform (c : C) (k : R c → Except ε α) : Client C R ε α :=
  ExceptT.mk (.call c fun r => .done (k r))

/-- `try: p finally: q` -/
def andFinally (p : Client C R ε α) (q : Prog C R Unit) : Client C R ε α :=
  ExceptT.mk (p.run >>= fun r => q >>= fun _ => .done r)

/-- What client `t` knows and the others leave true. -/
structure Fact (K : Contract ι C α S) (t : ℕ) where
  holds : S → Prop
  stable : Stable K t holds

namespace Fact

variable {K : Contract ι C α S} {t : ℕ}

/-- A fact that is not about the shared state. -/
def always (K : Contract ι C α S) (t : ℕ) (φ : Prop) : Fact K t := ⟨fun _ => φ, fun _ _ _ h => h⟩

def and (P P' : Fact K t) : Fact K t := ⟨fun s => P.holds s ∧ P'.holds s, P.stable.and P'.stable⟩

end Fact

/-- From every state in which `P` holds each step of the program meets the guarantee, and if it
returns `b` then `Q b` holds. -/
def Meets (M : Machine ι C R α E S) (K : Contract ι C α S) (t : ℕ) (i : ι) (P : Fact K t)
    (p : Client C R ε β) (Q : β → Fact K t) : Prop :=
  ∀ s, P.holds s → Safe M K t i (fun r s' => ∀ b, r = .ok b → (Q b).holds s') p.run s

section Rules

variable {M : Machine ι C R α E S} {K : Contract ι C α S} {t : ℕ} {i : ι} {P : Fact K t}
  {p : Client C R ε β} {Q : β → Fact K t}

theorem Meets.pure {b : β} (h : ∀ s, P.holds s → (Q b).holds s) :
    Meets M K t i P (pure b : Client C R ε β) Q := by
  intro s hs s' hr _ c hc
  cases hc
  exact h s' (P.stable s s' hr hs)

theorem Meets.throw (e : ε) : Meets M K t i P (throw e : Client C R ε β) Q := by
  intro s _ s' _ _ b hb
  cases hb

/-- The program goes on with what its check returns. -/
theorem Meets.ofExcept_bind {γ : Type} {x : Except ε γ} {f : γ → Client C R ε β}
    (h : ∀ c, x = .ok c → Meets M K t i P (f c) Q) :
    Meets M K t i P (MonadExcept.ofExcept x >>= f) Q := by
  cases x with
  | error e => exact Meets.throw e
  | ok c => exact h c rfl

theorem Meets.pre {P' : Fact K t} (h : Meets M K t i P p Q)
    (hP : ∀ s, P'.holds s → P.holds s) : Meets M K t i P' p Q :=
  fun s hs => h s (hP s hs)

/-- A fact that is not about the shared state can be used from where it is known. -/
theorem Meets.given {φ : Prop} (hφ : ∀ s, P.holds s → φ) (h : φ → Meets M K t i P p Q) :
    Meets M K t i P p Q :=
  fun s hs => h (hφ s hs) s hs

/-- A command of one step. -/
theorem Meets.perform {c : C} {k : R c → Except ε β}
    (h : ∀ s e r s', P.holds s → K.inv s → M.exec e t c s = some (r, s') →
      K.guar t i c s s' ∧ ∀ b, k r = .ok b → (Q b).holds s') :
    Meets M K t i P (perform c k) Q := by
  intro s hs s₁ e r s₂ hrely hinv hexec
  obtain ⟨hguar, hpost⟩ := h s₁ e r s₂ (P.stable s s₁ hrely hs) hinv hexec
  refine ⟨hguar, ?_⟩
  intro s₃ hrely' _ b hb
  exact (Q b).stable s₂ s₃ hrely' (hpost b hb)

variable (hrefl : ∀ s, K.rely t s s)
include hrefl

theorem Meets.bind {γ : Type} {f : β → Client C R ε γ} {Q' : γ → Fact K t}
    (h : Meets M K t i P p Q) (hf : ∀ b, Meets M K t i (Q b) (f b) Q') :
    Meets M K t i P (p >>= f) Q' := by
  intro s hs
  rw [ExceptT.run_bind]
  apply Safe.bind_of_refl hrefl
  apply (h s hs).weaken
  intro r s' _ hr
  cases r with
  | error e =>
    intro s'' _ _ b hb
    cases hb
  | ok b => exact hf b s' (hr b rfl)

/-- The last command is performed from wherever the program ends. -/
theorem Meets.andFinally {c : C} {k : R c → Unit} (h : Meets M K t i P p Q)
    (hc : ∀ s e r s', K.inv s → M.exec e t c s = some (r, s') → K.guar t i c s s' ∧
      ∀ b, (Q b).holds s → (Q b).holds s') :
    Meets M K t i P (andFinally p (.call c fun r => .done (k r))) Q := by
  intro s hs
  apply Safe.bind_of_refl hrefl
  apply (h s hs).weaken
  intro r s₁ _ hr s₂ e reply s₃ hrely hinv hexec
  obtain ⟨hguar, hkeep⟩ := hc s₂ e reply s₃ hinv hexec
  refine ⟨hguar, ?_⟩
  intro s₄ hrely' _ b hb
  exact (Q b).stable s₃ s₄ hrely' (hkeep b ((Q b).stable s₁ s₂ hrely (hr b hb)))

end Rules

end MaestroKernel.Raising
