/-! # Procedures

A procedure reads and writes a state and may raise. What it wrote before it raised stays
written. -/

namespace MaestroKernel

def Proc (E S A : Type) : Type := S → Except E A × S

namespace Proc

variable {E S A B : Type}

protected def pure (a : A) : Proc E S A := fun s => (.ok a, s)

protected def bind (x : Proc E S A) (f : A → Proc E S B) : Proc E S B := fun s =>
  match x s with
  | (.ok a, s) => f a s
  | (.error e, s) => (.error e, s)

instance monad : Monad (Proc E S) where
  pure := Proc.pure
  bind := Proc.bind

def read : Proc E S S := fun s => (.ok s, s)

def modify (f : S → S) : Proc E S Unit := fun s => (.ok (), f s)

def raise (e : E) : Proc E S A := fun s => (.error e, s)

/-- `x` returns under `Q` from `s`, or raises under `R`. -/
def Ensures (x : Proc E S A) (s : S) (Q : A → S → Prop) (R : E → S → Prop) : Prop :=
  match x s with
  | (.ok a, s') => Q a s'
  | (.error e, s') => R e s'

variable {x : Proc E S A} {f : A → Proc E S B} {s : S} {Q Q' : A → S → Prop} {R R' : E → S → Prop}

@[simp] theorem ensures_pure {a : A} : Ensures (pure a : Proc E S A) s Q R ↔ Q a s := .rfl

@[simp] theorem ensures_read {Q : S → S → Prop} : Ensures read s Q R ↔ Q s s := .rfl

@[simp] theorem ensures_modify {g : S → S} {Q : Unit → S → Prop} :
    Ensures (modify g) s Q R ↔ Q () (g s) := .rfl

@[simp] theorem ensures_raise {e : E} : Ensures (raise e : Proc E S A) s Q R ↔ R e s := .rfl

@[simp] theorem ensures_bind {Q : B → S → Prop} :
    Ensures (x >>= f) s Q R ↔ Ensures x s (fun a s' => Ensures (f a) s' Q R) R := by
  change Ensures (Proc.bind x f) s Q R ↔ _
  unfold Ensures Proc.bind
  cases x s with
  | mk result s' =>
    cases result with
    | ok a => exact .rfl
    | error e => exact .rfl

theorem Ensures.mono (h : Ensures x s Q R) (hQ : ∀ a s', Q a s' → Q' a s')
    (hR : ∀ e s', R e s' → R' e s') : Ensures x s Q' R' := by
  unfold Ensures at h ⊢
  cases hx : x s with
  | mk result s' =>
    rw [hx] at h
    cases result with
    | ok a => exact hQ a s' h
    | error e => exact hR e s' h

theorem Ensures.and (h : Ensures x s Q R) (h' : Ensures x s Q' R') :
    Ensures x s (fun a s' => Q a s' ∧ Q' a s') fun e s' => R e s' ∧ R' e s' := by
  unfold Ensures at h h' ⊢
  cases hx : x s with
  | mk result s' =>
    rw [hx] at h h'
    cases result with
    | ok a => exact ⟨h, h'⟩
    | error e => exact ⟨h, h'⟩

/-- The outcome itself may be kept. -/
theorem Ensures.run (h : Ensures x s Q R) :
    Ensures x s (fun a s' => Q a s' ∧ x s = (.ok a, s')) fun e s' =>
      R e s' ∧ x s = (.error e, s') := by
  unfold Ensures at h ⊢
  cases hx : x s with
  | mk result s' =>
    rw [hx] at h
    cases result with
    | ok a => exact ⟨h, rfl⟩
    | error e => exact ⟨h, rfl⟩

/-- What a run that returned, or that raised, ensures. -/
theorem Ensures.of_ok {a : A} {s' : S} (h : Ensures x s Q R) (hx : x s = (.ok a, s')) : Q a s' := by
  unfold Ensures at h
  rw [hx] at h
  exact h

theorem Ensures.of_error {e : E} {s' : S} (h : Ensures x s Q R) (hx : x s = (.error e, s')) :
    R e s' := by
  unfold Ensures at h
  rw [hx] at h
  exact h

/-- What holds of the state that `x` leaves, however it ends. -/
theorem Ensures.result {T : S → Prop} (h : Ensures x s (fun _ s' => T s') fun _ s' => T s') :
    T (x s).2 := by
  unfold Ensures at h
  cases hx : x s with
  | mk result s' =>
    rw [hx] at h
    cases result with
    | ok a => exact h
    | error e => exact h

/-- Whether it returns or raises, `x` leaves the state related to the one before, and it
raises nothing outside `P`. -/
def Keeps (r : S → S → Prop) (P : E → Prop) (x : Proc E S A) : Prop :=
  ∀ s, Ensures x s (fun _ s' => r s s') fun e s' => r s s' ∧ P e

section Keeps

variable {r r' : S → S → Prop} {P P' : E → Prop}

theorem Keeps.pure (hrefl : ∀ s, r s s) (a : A) : Keeps r P (Pure.pure a : Proc E S A) :=
  fun s => hrefl s

theorem Keeps.read (hrefl : ∀ s, r s s) : Keeps r P (read : Proc E S S) := fun s => hrefl s

theorem Keeps.bind (htrans : ∀ {a b c}, r a b → r b c → r a c) (hx : Keeps r P x)
    (hf : ∀ a, Keeps r P (f a)) : Keeps r P (x >>= f) := by
  intro s
  rw [ensures_bind]
  refine (hx s).mono (fun a s' hs => ?_) fun _ _ hs => hs
  exact (hf a s').mono (fun _ _ hs' => htrans hs hs') fun _ _ hs' => ⟨htrans hs hs'.1, hs'.2⟩

theorem Keeps.weaken (h : Keeps r P x) (hr : ∀ {a b}, r a b → r' a b) (hP : ∀ e, P e → P' e) :
    Keeps r' P' x :=
  fun s => (h s).mono (fun _ _ hs => hr hs) fun e _ hs => ⟨hr hs.1, hP e hs.2⟩

theorem Keeps.result (h : Keeps r P x) (s : S) : r s (x s).2 :=
  ((h s).mono (fun _ _ hs => hs) fun _ _ hs => hs.1).result (T := r s)

/-- Where `x` returns, or raises within `P`, it leaves the state related to the one before. -/
def KeepsWithin (r : S → S → Prop) (P : E → Prop) (x : Proc E S A) : Prop :=
  ∀ s, Ensures x s (fun _ s' => r s s') fun e s' => P e → r s s'

theorem Keeps.within (h : Keeps r P' x) : KeepsWithin r P x :=
  fun s => (h s).mono (fun _ _ hs => hs) fun _ _ hs _ => hs.1

theorem KeepsWithin.bind (htrans : ∀ {a b c}, r a b → r b c → r a c) (hx : KeepsWithin r P x)
    (hf : ∀ a, KeepsWithin r P (f a)) : KeepsWithin r P (x >>= f) := by
  intro s
  rw [ensures_bind]
  refine (hx s).mono (fun a s' hs => ?_) fun _ _ hs => hs
  exact (hf a s').mono (fun _ _ hs' => htrans hs hs') fun _ _ hs' he => htrans hs (hs' he)

end Keeps

end Proc

end MaestroKernel
