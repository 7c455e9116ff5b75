import Mathlib.Logic.Basic

/-! # Code that checks and raises

A function with checks is a computation in `Except`. What a run without an exception says
about its checks is read off with the simp lemmas below. -/

namespace MaestroKernel.Checked

variable {ε α β : Type}

/-- `if condition: raise e` -/
def raiseIf (condition : Prop) [Decidable condition] (e : ε) : Except ε Unit :=
  if condition then .error e else .ok ()

/-- The value of a lookup, or an exception. -/
def demand (found : Option α) (e : ε) : Except ε α :=
  match found with
  | some a => .ok a
  | none => .error e

@[simp] theorem demand_some_bind (a : α) (e : ε) (k : α → Except ε β) :
    (demand (some a) e >>= k) = k a := rfl

@[simp] theorem demand_none_bind (e : ε) (k : α → Except ε β) :
    (demand none e >>= k) = .error e := rfl

theorem raiseIf_bind_of_pos {condition : Prop} [Decidable condition] (h : condition) (e : ε)
    (k : Unit → Except ε β) : (raiseIf condition e >>= k) = .error e := by
  rw [raiseIf, if_pos h]
  rfl

theorem raiseIf_bind_of_neg {condition : Prop} [Decidable condition] (h : ¬ condition) (e : ε)
    (k : Unit → Except ε β) : (raiseIf condition e >>= k) = k () := by
  rw [raiseIf, if_neg h]
  rfl

theorem ok_bind (a : α) (k : α → Except ε β) : (Except.ok a >>= k) = k a := rfl

@[simp] theorem raiseIf_bind_ok {condition : Prop} [Decidable condition] {e : ε}
    {k : Unit → Except ε β} {r : β} :
    (raiseIf condition e >>= k) = .ok r ↔ ¬ condition ∧ k () = .ok r := by
  by_cases h : condition
  · simp [raiseIf, h, bind, Except.bind]
  · simp [raiseIf, h, bind, Except.bind]

@[simp] theorem raiseIf_eq_ok {condition : Prop} [Decidable condition] {e : ε} {u : Unit} :
    raiseIf condition e = .ok u ↔ ¬ condition := by
  by_cases h : condition
  · simp [raiseIf, h]
  · simp [raiseIf, h]

@[simp] theorem demand_bind_ok {found : Option α} {e : ε} {k : α → Except ε β} {r : β} :
    (demand found e >>= k) = .ok r ↔ ∃ a, found = some a ∧ k a = .ok r := by
  cases found with
  | none => simp [demand, bind, Except.bind]
  | some a => simp [demand, bind, Except.bind]

@[simp] theorem demand_eq_ok {found : Option α} {e : ε} {a : α} :
    demand found e = .ok a ↔ found = some a := by
  cases found with
  | none => simp [demand]
  | some b => simp [demand]

@[simp] theorem bind_ok {x : Except ε α} {k : α → Except ε β} {r : β} :
    (x >>= k) = .ok r ↔ ∃ a, x = .ok a ∧ k a = .ok r := by
  cases x with
  | error e => simp [bind, Except.bind]
  | ok a => simp [bind, Except.bind]

theorem check_bind_ok {check : Except ε Unit} {k : Unit → Except ε β} {r : β} :
    (check >>= k) = .ok r ↔ check = .ok () ∧ k () = .ok r := by
  cases check with
  | error e => simp [bind, Except.bind]
  | ok u => simp [bind, Except.bind]

@[simp] theorem pure_ok {a b : α} : (pure a : Except ε α) = .ok b ↔ a = b := by
  simp [pure, Except.pure]

@[simp] theorem throw_ok {e : ε} {a : α} : (throw e : Except ε α) = .ok a ↔ False := by
  simp [throw, throwThe, MonadExceptOf.throw]

/-- `try: x except e: raise handle(e)` returns what `x` returns. -/
@[simp] theorem mapError_eq_ok {ε' : Type} {handle : ε → ε'} {x : Except ε α} {a : α} :
    x.mapError handle = .ok a ↔ x = .ok a := by
  cases x with
  | error e =>
    constructor
    · intro h
      cases h
    · intro h
      cases h
  | ok b =>
    constructor
    · intro h
      rw [Except.ok.inj h]
    · intro h
      rw [Except.ok.inj h]
      rfl

theorem toOption_eq_some {x : Except ε α} {a : α} : x.toOption = some a ↔ x = .ok a := by
  cases x with
  | error e => simp [Except.toOption]
  | ok b => simp [Except.toOption]

/-- A loop that raises for no element returns what it computes for each. -/
theorem mapM_ok {f : α → Except ε β} {g : α → β} {as : List α} (h : ∀ a ∈ as, f a = .ok (g a)) :
    as.mapM f = .ok (as.map g) := by
  induction as with
  | nil => rfl
  | cons a as ih =>
    have htail := ih fun b hb => h b (List.mem_cons_of_mem a hb)
    rw [List.mapM_cons, h a List.mem_cons_self, ok_bind, htail, ok_bind]
    rfl

theorem ok_of_mapM {f : α → Except ε β} {as : List α} {bs : List β} (h : as.mapM f = .ok bs) :
    ∀ a ∈ as, ∃ b, f a = .ok b := by
  induction as generalizing bs with
  | nil => exact List.forall_mem_nil _
  | cons a as ih =>
    simp only [List.mapM_cons, bind_ok, pure_ok] at h
    obtain ⟨b, hb, rest, hrest, -⟩ := h
    exact List.forall_mem_cons.mpr ⟨⟨b, hb⟩, ih hrest⟩

/-- What is read off each result was read off its element. -/
theorem map_of_mapM {γ : Type} {f : α → Except ε β} {read : β → γ} {read' : α → γ} {as : List α}
    {bs : List β} (hf : ∀ a b, f a = .ok b → read b = read' a) (h : as.mapM f = .ok bs) :
    bs.map read = as.map read' := by
  induction as generalizing bs with
  | nil =>
    rw [List.mapM_nil, pure_ok] at h
    rw [← h]
    rfl
  | cons a as ih =>
    simp only [List.mapM_cons, bind_ok, pure_ok] at h
    obtain ⟨b, hb, rest, hrest, rfl⟩ := h
    rw [List.map_cons, List.map_cons, hf a b hb, ih hrest]

/-- A loop that puts what a call returns in the place of some elements. -/
theorem mapM_replace {p : α → Prop} [DecidablePred p] {call : Except ε α} {as bs : List α}
    (h : (as.mapM fun a => if p a then call else .ok a) = .ok bs) :
    (∀ a ∈ as, ¬ p a) ∧ bs = as ∨
      ∃ new, call = .ok new ∧ bs = as.map fun a => if p a then new else a := by
  induction as generalizing bs with
  | nil =>
    rw [List.mapM_nil, pure_ok] at h
    exact .inl ⟨List.forall_mem_nil _, h.symm⟩
  | cons a as ih =>
    simp only [List.mapM_cons, bind_ok, pure_ok] at h
    obtain ⟨b, hb, rest, hrest, rfl⟩ := h
    by_cases ha : p a
    · rw [if_pos ha] at hb
      right
      refine ⟨b, hb, ?_⟩
      rw [List.map_cons, if_pos ha]
      rcases ih hrest with ⟨hnone, rfl⟩ | ⟨new, hnew, rfl⟩
      · congr 1
        have hkeep : ∀ a' ∈ rest, (if p a' then b else a') = a' := fun a' ha' =>
          if_neg (hnone a' ha')
        exact ((List.map_congr_left hkeep).trans (List.map_id rest)).symm
      · rw [Except.ok.inj (hb.symm.trans hnew)]
    · rw [if_neg ha] at hb
      obtain rfl := Except.ok.inj hb
      rcases ih hrest with ⟨hnone, rfl⟩ | ⟨new, hnew, rfl⟩
      · exact .inl ⟨List.forall_mem_cons.mpr ⟨ha, hnone⟩, rfl⟩
      · right
        refine ⟨new, hnew, ?_⟩
        rw [List.map_cons, if_neg ha]

/-- Two computations that go on alike. -/
theorem bind_eq_map {γ : Type} {f : β → γ} {x : Except ε α} {k : α → Except ε γ}
    {k' : α → Except ε β} (h : ∀ a, k a = (k' a).map f) : (x >>= k) = (x >>= k').map f := by
  cases x with
  | error e => rfl
  | ok a => exact h a

end MaestroKernel.Checked
