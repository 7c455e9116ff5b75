import Mathlib.Data.Nat.Notation
import Mathlib.Logic.Basic

/-! # Histories

The state after a sequence of events, and what holds at every event of one. -/

namespace MaestroKernel.Histories

variable {S E : Type} (next : S → E → S)

/-- The state after a sequence of events. -/
def after (s : S) (events : List E) : S := events.foldl next s

/-- Every event meets `P` in the state where it happens. -/
def Along (P : S → E → Prop) : S → List E → Prop
  | _, [] => True
  | s, event :: events => P s event ∧ Along P (next s event) events

instance decidableAlong (P : S → E → Prop) [∀ s event, Decidable (P s event)] :
    (s : S) → (events : List E) → Decidable (Along next P s events)
  | _, [] => .isTrue trivial
  | s, event :: events =>
    have := decidableAlong P (next s event) events
    inferInstanceAs (Decidable (_ ∧ _))

variable {next} {P Q : S → E → Prop} {I : S → Prop} {s : S} {event : E} {events later : List E}

@[simp] theorem after_nil : after next s [] = s := rfl

@[simp] theorem after_cons : after next s (event :: events) = after next (next s event) events := rfl

theorem after_append : after next s (events ++ later) = after next (after next s events) later :=
  List.foldl_append

theorem along_append :
    Along next P s (events ++ later) ↔
      Along next P s events ∧ Along next P (after next s events) later := by
  induction events generalizing s with
  | nil => simp [Along]
  | cons event events ih => rw [List.cons_append, Along, ih, Along, after_cons, and_assoc]

/-- The event that follows a front of the sequence. -/
theorem Along.at (h : Along next P s (events ++ event :: later)) : P (after next s events) event :=
  (along_append.mp h).2.1

/-- What holds at every event also holds where the events are allowed and an invariant holds. -/
theorem Along.imp (h : Along next P s events) (hs : I s)
    (hkeeps : ∀ s event, I s → P s event → I (next s event))
    (himp : ∀ s event, I s → P s event → Q s event) : Along next Q s events := by
  induction events generalizing s with
  | nil => trivial
  | cons event events ih =>
    exact ⟨himp s event hs h.1, ih h.2 (hkeeps s event hs h.1)⟩

theorem Along.invariant (h : Along next P s events) (hs : I s)
    (hkeeps : ∀ s event, I s → P s event → I (next s event)) : I (after next s events) := by
  induction events generalizing s with
  | nil => exact hs
  | cons event events ih => exact ih h.2 (hkeeps s event hs h.1)

theorem along_congr (h : ∀ s event, P s event ↔ Q s event) :
    Along next P s events ↔ Along next Q s events := by
  induction events generalizing s with
  | nil => exact Iff.rfl
  | cons event events ih => exact and_congr (h s event) ih

theorem along_of_forall (h : ∀ s event, P s event) : Along next P s events := by
  induction events generalizing s with
  | nil => trivial
  | cons event events ih => exact ⟨h s event, ih⟩

variable (next) in
/-- The sum of what each event counts for in the state where it happens. -/
def total (f : S → E → ℕ) : S → List E → ℕ
  | _, [] => 0
  | s, event :: events => f s event + total f (next s event) events

theorem total_add {f g : S → E → ℕ} :
    total next (fun s event => f s event + g s event) s events =
      total next f s events + total next g s events := by
  induction events generalizing s with
  | nil => rfl
  | cons event events ih =>
    rw [total, ih, total, total]
    omega

theorem total_mul {f : S → E → ℕ} (k : ℕ) :
    total next (fun s event => k * f s event) s events = k * total next f s events := by
  induction events generalizing s with
  | nil => rfl
  | cons event events ih => rw [total, ih, total, Nat.mul_add]

theorem total_le_of_potential {cost pay : S → E → ℕ} {potential : S → ℕ}
    (hstep : ∀ s event, potential s + cost s event ≤ potential (next s event) + pay s event) :
    potential s + total next cost s events ≤
      potential (after next s events) + total next pay s events := by
  induction events generalizing s with
  | nil => exact Nat.le_refl _
  | cons event events ih =>
    have hfirst := hstep s event
    have hrest := ih (s := next s event)
    rw [total, total, after_cons]
    omega

end MaestroKernel.Histories
