import Mathlib.Logic.Basic

/-! # Units of work over constrained tables

A unit of work reads the tables and either rolls back or commits new ones; it may
still raise after it has committed. The database refuses tables that violate its
constraints. A service runs its units of work one after the other, in any order. -/

namespace MaestroKernel.Transaction

/-- How a unit of work ends. -/
inductive Ending (ε α Tables : Type) where
  | rollback (e : ε)
  | commit (tables : Tables) (reply : Except ε α)

/-- `violation` is what a commit raises when `Valid` fails. -/
structure Service (ι ε α Tables : Type) where
  Valid : Tables → Prop
  decValid : DecidablePred Valid
  violation : ε
  work : ι → Tables → Ending ε α Tables

namespace Service

variable {ι ε α Tables : Type} (S : Service ι ε α Tables)

instance : DecidablePred S.Valid := S.decValid

/-- The tables that the database can hold. -/
abbrev Database : Type := { tables : Tables // S.Valid tables }

def settle (db : S.Database) : Ending ε α Tables → Except ε α × S.Database
  | .rollback e => (.error e, db)
  | .commit tables reply =>
    if h : S.Valid tables then (reply, ⟨tables, h⟩) else (.error S.violation, db)

def respond (i : ι) (db : S.Database) : Except ε α × S.Database := S.settle db (S.work i db.1)

/-- The database after a sequence of units of work. -/
def run : List ι → S.Database → S.Database
  | [], db => db
  | i :: is, db => run is (S.respond i db).2

/-- What units of work that meet `ok` can lead to. -/
inductive Reaches (ok : ι → S.Database → Prop) : S.Database → S.Database → Prop where
  | refl (db) : Reaches ok db db
  | tail {a b} (i) : Reaches ok a b → ok i b → Reaches ok a (S.respond i b).2

/-- Every unit of work is allowed. -/
def Any (_ : ι) (_ : S.Database) : Prop := True

variable {S} {ok : ι → S.Database → Prop} {a b c db : S.Database}

theorem respond_error_or_commit (i : ι) (db : S.Database) :
    (∃ e, S.respond i db = (.error e, db)) ∨ ∃ tables reply, ∃ h : S.Valid tables,
      S.work i db.1 = .commit tables reply ∧ S.respond i db = (reply, ⟨tables, h⟩) := by
  rw [respond]
  cases hwork : S.work i db.1 with
  | rollback e => exact .inl ⟨e, rfl⟩
  | commit tables reply =>
    rw [settle]
    split
    · rename_i h
      exact .inr ⟨tables, reply, h, rfl, rfl⟩
    · exact .inl ⟨_, rfl⟩

theorem respond_cases (i : ι) (db : S.Database) :
    (S.respond i db).2 = db ∨ ∃ tables reply, ∃ h : S.Valid tables,
      S.work i db.1 = .commit tables reply ∧ S.respond i db = (reply, ⟨tables, h⟩) :=
  (respond_error_or_commit i db).imp_left fun ⟨_, h⟩ => congrArg Prod.snd h

theorem respond_of_commit {i : ι} {tables : Tables} {reply : Except ε α}
    (hwork : S.work i db.1 = .commit tables reply) (h : S.Valid tables) :
    S.respond i db = (reply, ⟨tables, h⟩) := by
  rw [respond, hwork, settle, dif_pos h]

theorem respond_of_rollback {i : ι} {e : ε} (hwork : S.work i db.1 = .rollback e) :
    S.respond i db = (.error e, db) := by
  rw [respond, hwork, settle]

/-- Only a commit returns a reply. -/
theorem commit_of_ok {i : ι} {r : α} (h : (S.respond i db).1 = .ok r) :
    ∃ tables, ∃ hv : S.Valid tables, S.work i db.1 = .commit tables (.ok r) ∧
      (S.respond i db).2 = ⟨tables, hv⟩ := by
  rw [respond] at h ⊢
  cases hwork : S.work i db.1 with
  | rollback e =>
    rw [hwork] at h
    cases h
  | commit tables reply =>
    rw [hwork, settle] at h
    rw [settle]
    split at h
    · rename_i hv
      rw [dif_pos hv]
      obtain rfl : reply = .ok r := h
      exact ⟨tables, hv, rfl, rfl⟩
    · cases h

theorem Reaches.trans (hab : S.Reaches ok a b) (hbc : S.Reaches ok b c) : S.Reaches ok a c := by
  induction hbc with
  | refl => exact hab
  | tail i _ hok ih => exact .tail i ih hok

theorem Reaches.weaken {ok' : ι → S.Database → Prop} (hw : ∀ i db, ok i db → ok' i db)
    (h : S.Reaches ok a b) : S.Reaches ok' a b := by
  induction h with
  | refl => exact .refl _
  | tail i _ hok ih => exact .tail i ih (hw _ _ hok)

theorem Reaches.single (i : ι) (db : S.Database) (hok : ok i db) :
    S.Reaches ok db (S.respond i db).2 :=
  .tail i (.refl db) hok

/-- What every commit keeps holds of every database that is reached. -/
theorem Reaches.invariant {P : Tables → Prop} (h : S.Reaches ok a b) (ha : P a.1)
    (hstep : ∀ i db tables reply, ok i db → P db.1 → S.work i db.1 = .commit tables reply →
      S.Valid tables → P tables) : P b.1 := by
  induction h with
  | refl => exact ha
  | @tail b i _ hok ih =>
    rcases respond_cases i b with hsame | ⟨tables, reply, hv, hwork, hrespond⟩
    · rwa [hsame]
    · rw [hrespond]
      exact hstep i b tables reply hok ih hwork hv

theorem reaches_run (is : List ι) (db : S.Database) : S.Reaches S.Any db (S.run is db) := by
  induction is generalizing db with
  | nil => exact .refl db
  | cons i is ih => exact (Reaches.single i db trivial).trans (ih _)

/-- Every unit of work of a sequence is allowed where it runs. -/
def Along (S : Service ι ε α Tables) (ok : ι → S.Database → Prop) : List ι → S.Database → Prop
  | [], _ => True
  | i :: is, db => ok i db ∧ Along S ok is (S.respond i db).2

instance decidableAlong (S : Service ι ε α Tables) (ok : ι → S.Database → Prop)
    [∀ i db, Decidable (ok i db)] : (is : List ι) → (db : S.Database) → Decidable (S.Along ok is db)
  | [], _ => .isTrue trivial
  | i :: is, db =>
    have := decidableAlong S ok is (S.respond i db).2
    inferInstanceAs (Decidable (_ ∧ _))

theorem reaches_of_along (is : List ι) (db : S.Database) (h : S.Along ok is db) :
    S.Reaches ok db (S.run is db) := by
  induction is generalizing db with
  | nil => exact .refl db
  | cons i is ih => exact (Reaches.single i db h.1).trans (ih _ h.2)

end Service

end MaestroKernel.Transaction
