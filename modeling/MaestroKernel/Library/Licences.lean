import MaestroKernel.Library.LockRules
import MaestroKernel.Library.Raising

/-! # What the commits of a unit of work may write

Where the rows are not inserted under locks, a unit of work can still rely on what the run allows
the others. A licence names that, and what the unit of work itself may commit. -/

namespace MaestroKernel.RowLocks

open Interaction

/-- `Rely` is what the others do meanwhile; they may do anything but change the rows. -/
structure Licence {K R : Type} (S : Schema K R) (N : Type) where
  Rely : World S N → World S N → Prop
  Allows : List (Write K R) → N → World S N → Prop
  same : ∀ {w w'}, w'.db = w.db → Rely w w'
  trans : ∀ {w w' w''}, Rely w w' → Rely w' w'' → Rely w w''

variable {K R N Q : Type} {S : Schema K R} {A : Q → Type} {ι E α β : Type}

namespace Licence

/-- A unit of work that relies on nothing. -/
def free (S : Schema K R) (Allows : List (Write K R) → N → Prop) : Licence S N where
  Rely := fun _ _ => True
  Allows := fun writes note _ => Allows writes note
  same := fun _ => trivial
  trans := fun _ _ => trivial

def contract (L : Licence S N) :
    Contract ι (Command K R N Q) (Except (Raised E) α) (World S N) where
  inv := fun _ => True
  unborn := fun _ _ => True
  rely := fun _ => L.Rely
  guar := fun _ _ c w _ => ∀ writes note, c = .commit writes note → L.Allows writes note w
  post := fun _ _ _ _ => True

/-- What a unit of work knows and the others leave true. -/
structure Fact (L : Licence S N) where
  holds : World S N → Prop
  stable : ∀ w w', L.Rely w w' → holds w → holds w'

namespace Fact

variable {L : Licence S N}

/-- A fact that is not about the rows. -/
def always (L : Licence S N) (φ : Prop) : L.Fact := ⟨fun _ => φ, fun _ _ _ h => h⟩

def and (P P' : L.Fact) : L.Fact where
  holds := fun w => P.holds w ∧ P'.holds w
  stable := fun w w' hr h => ⟨P.stable w w' hr h.1, P'.stable w w' hr h.2⟩

/-- The fact, for a client that has the licence. -/
def known (P : L.Fact) (t : ℕ) :
    Raising.Fact (L.contract : Contract ι (Command K R N Q) (Except (Raised E) α) (World S N)) t :=
  ⟨P.holds, P.stable⟩

end Fact

end Licence

/-! ## The rules -/

section Rules

variable [DecidableEq K] {L : Licence S N} {P : L.Fact}
  {code : ι → Client K R N A (Except (Raised E) α)} {t : ℕ} {i : ι}

/-- From every state in which `P` holds the program commits only what the licence allows, and if it
returns `b` then `Q' b` holds. -/
def Complies (code : ι → Client K R N A (Except (Raised E) α)) (t : ℕ) (i : ι) (P : L.Fact)
    (p : Work K R N A E β) (Q' : β → L.Fact) : Prop :=
  Raising.Meets (machine S code) L.contract t i (P.known t) p fun b => (Q' b).known t

variable {p : Work K R N A E β} {Q' : β → L.Fact}

theorem Complies.pure {b : β} (h : ∀ w, P.holds w → (Q' b).holds w) :
    Complies code t i P (pure b) Q' :=
  Raising.Meets.pure h

theorem Complies.throw (e : Raised E) :
    Complies code t i P (throw e : Work K R N A E β) Q' :=
  Raising.Meets.throw e

theorem Complies.bind {γ : Type} {f : β → Work K R N A E γ} {Q'' : γ → L.Fact}
    (h : Complies code t i P p Q') (hf : ∀ b, Complies code t i (Q' b) (f b) Q'') :
    Complies code t i P (p >>= f) Q'' :=
  Raising.Meets.bind (fun _ => L.same rfl) h hf

theorem Complies.statement {c : Command K R N Q} {k : Reply K R N A c → Except (Raised E) β}
    (hcommit : ∀ w writes note, P.holds w → c = .commit writes note → L.Allows writes note w)
    (h : ∀ w e r w', P.holds w → exec e t c w = some (r, w') → ∀ b, k r = .ok b →
      (Q' b).holds w') :
    Complies code t i P (ExceptT.mk (.call c fun r => .done (k r))) Q' := by
  apply Raising.Meets.perform
  intro w e r w' hw _ hexec
  exact ⟨fun writes note hc => hcommit w writes note hw hc, h w e r w' hw hexec⟩

theorem Complies.raiseIf (condition : Bool) (e : E) :
    Complies code t i P (raiseIf condition e) fun _ =>
      P.and (.always L (condition = false)) := by
  cases condition with
  | false => exact Complies.pure fun w hw => ⟨hw, rfl⟩
  | true => exact Complies.throw _

theorem Complies.ask (q : Q) : Complies code t i P (ask q) fun _ => P := by
  apply Complies.statement
  · intro w writes note _ hc
    cases hc
  · intro w e r w' hw hexec _ _
    obtain ⟨rfl, rfl⟩ := Prod.ext_iff.mp (Option.some.inj hexec)
    exact hw

theorem Complies.select {q : List R → List R} {Q' : List R → L.Fact}
    (h : ∀ w, P.holds w → (Q' (q w.db.1)).holds w) :
    Complies code t i P (select q) fun rows => P.and (Q' rows) := by
  apply Complies.statement
  · intro w writes note _ hc
    cases hc
  · intro w e r w' hw hexec rows hrows
    rcases exec_select hexec with ⟨rfl, rfl⟩ | ⟨rfl, rfl⟩
    · cases hrows
    · cases hrows
      exact ⟨hw, h w' hw⟩

/-- The rows of a locking statement meet its condition. -/
theorem Complies.forUpdate {q : List R → List R} {p : R → Bool} :
    Complies code t i P (forUpdate S.key q p) fun rows =>
      P.and (.always L (∀ row ∈ rows, p row = true)) := by
  have hselect : Complies code t i P (RowLocks.select q) fun _ => P.and (.always L True) :=
    Complies.select fun _ _ => trivial
  apply Complies.bind hselect
  intro selected
  apply Complies.statement
  · intro w writes note _ hc
    cases hc
  · intro w e r w' hw hexec rows hrows
    rcases exec_lock hexec with ⟨rfl, rfl⟩ | ⟨-, rfl, rfl⟩
    · cases hrows
    · cases hrows
      refine ⟨P.stable w _ (L.same rfl) hw.1, ?_⟩
      intro row hrow
      rw [World.found, List.mem_filter, Bool.and_eq_true] at hrow
      exact hrow.2.2

theorem Complies.commit {writes : List (Write K R)} {note : N}
    (h : ∀ w, P.holds w → L.Allows writes note w) :
    Complies code t i P (commit writes note) fun _ => .always L True := by
  apply Complies.statement
  · intro w writes' note' hw hc
    cases hc
    exact h w hw
  · intro w e r w' _ _ b _
    trivial

theorem safe_unitOfWork {body : Work K R N A E α} {Q' : α → L.Fact} {w : World S N}
    (h : Complies code t i (.always L True) body Q') :
    Safe (machine S code) L.contract t i (fun _ _ => True) (unitOfWork body) w := by
  apply Safe.bind_of_refl fun _ => L.same rfl
  apply (h w trivial).weaken
  intro r w' _ _ w₁ e reply w₂ _ _ _
  exact ⟨fun _ _ hc => (by cases hc), fun _ _ _ => trivial⟩

end Rules

/-! ## Every run -/

section Runs

variable [DecidableEq K] {body : ι → Work K R N A E α} {L : ι → Licence S N}
  {ok : Event ι (Chance A) →
    Config ι (Command K R N Q) (Reply K R N A) (Except (Raised E) α) (World S N) → Prop}
  {cfg : Config ι (Command K R N Q) (Reply K R N A) (Except (Raised E) α) (World S N)}
  {db₀ : S.Database}

/-- If the commits of a run are what the other units of work at work rely on, then each is what its
licence allows, and what these preserve holds of the rows of the run. -/
theorem reaches_licensed {I : S.Database → Prop} (hstart : I db₀)
    (hbody : ∀ t i, ∃ Q' : α → (L i).Fact,
      Complies (fun i => unitOfWork (body i)) t i (.always (L i) True) (body i) Q')
    (hrely : ∀ (cfg next : Config ι (Command K R N Q) (Reply K R N A) (Except (Raised E) α)
        (World S N)) t e i writes note k, ok (.run t e) cfg →
      cfg.threads t = some (i, .call (.commit writes note) k) →
      (L i).Allows writes note cfg.shared → S.flush writes cfg.shared.db = some next.shared.db →
      ∀ u j c k', u ≠ t → cfg.threads u = some (j, .call c k') →
        (L j).Rely cfg.shared next.shared)
    (hstep : ∀ (cfg : Config ι (Command K R N Q) (Reply K R N A) (Except (Raised E) α)
        (World S N)) t e i writes note k db, ok (.run t e) cfg →
      cfg.threads t = some (i, .call (.commit writes note) k) →
      (L i).Allows writes note cfg.shared → S.flush writes cfg.shared.db = some db →
      I cfg.shared.db → I db)
    (h : (machine S fun i => unitOfWork (body i)).Reaches ok
      (Machine.init (World.start N db₀)) cfg) : I cfg.shared.db := by
  have hsafe : ∀ {a}, (machine S fun i => unitOfWork (body i)).Reaches ok
      (Machine.init (World.start N db₀)) a → ∀ {t i c k}, a.threads t = some (i, .call c k) →
      Safe (machine S fun i => unitOfWork (body i)) (L i).contract t i (fun _ _ => True)
        (.call c k) a.shared := by
    intro a ha t i c k ht
    refine ha.safe_each (K := fun i => (L i).contract) (fun _ _ => trivial)
      (fun i _ _ => (L i).same rfl) (fun i _ _ _ _ => (L i).trans) ?_ ?_ ht
    · intro t i s
      obtain ⟨Q', hQ⟩ := hbody t i
      exact safe_unitOfWork hQ
    · intro a b t e i c k hok hnext hthread hguar u j c' k' hne hu
      rcases next_cases hnext with
        ⟨hsame, _⟩ | ⟨t', e', i', writes, note, k'', hev, hcommit, hflush, _⟩
      · exact (L j).same hsame
      · cases hev
        rw [hthread] at hcommit
        obtain ⟨rfl, hcall⟩ := Prod.mk.inj (Option.some.inj hcommit)
        cases hcall
        exact hrely a b t e i writes note k'' hok hthread (hguar writes note rfl) hflush u j c' k'
          hne hu
  induction h with
  | refl => exact hstart
  | @tail a b ev hreaches hok hnext ih =>
    rcases next_cases hnext with
      ⟨hsame, _⟩ | ⟨t, e, i, writes, note, k, rfl, hthread, hflush, _⟩
    · rw [hsame]
      exact ih
    · obtain ⟨i', c, k', r, hthread', hexec, -⟩ := Machine.next_run hnext
      obtain ⟨rfl, hcall⟩ := Prod.mk.inj (Option.some.inj (hthread.symm.trans hthread'))
      cases hcall
      have hguar := (hsafe hreaches hthread a.shared e r b.shared ((L i).same rfl) trivial hexec).1
      exact hstep a t e i writes note k _ hok hthread (hguar writes note rfl) hflush ih

end Runs

end MaestroKernel.RowLocks
