import MaestroKernel.Library.Interaction
import MaestroKernel.Library.Table

/-! # Units of work under row locks

A unit of work reads committed rows, locks those that it means to change, and commits all of its
changes at once. A statement that locks takes two steps: it selects rows, and once nobody else holds
any of them it keeps those that still meet its condition. Nobody else changes a locked row. Rows are
inserted under a guard, so that whoever holds the guard knows all of them. -/

namespace MaestroKernel.RowLocks

open Interaction

/-- Rows under a primary key, and the constraints of the database. -/
structure Schema (K R : Type) where
  key : R → K
  Valid : List R → Prop
  decValid : DecidablePred Valid
  nodup : ∀ {rows}, Valid rows → (rows.map key).Nodup

inductive Write (K R : Type) where
  | insert (row : R)
  | update (row : R)
  | delete (k : K)

namespace Schema

variable {K R : Type} (S : Schema K R)

instance decidableValid : DecidablePred S.Valid := S.decValid

/-- The rows that the database can hold. -/
abbrev Database : Type := { rows : List R // S.Valid rows }

end Schema

section Writes

variable {K R : Type} [DecidableEq K] {S : Schema K R}

namespace Write

def apply (S : Schema K R) : Write K R → List R → List R
  | .insert row, rows => rows ++ [row]
  | .update row, rows => Table.put S.key rows row
  | .delete k, rows => rows.filter fun row => S.key row ≠ k

/-- The row that is written. -/
def row? : Write K R → Option R
  | .insert row => some row
  | .update row => some row
  | .delete _ => none

def Touches (S : Schema K R) (k : K) : Write K R → Prop
  | .insert _ => False
  | .update row => S.key row = k
  | .delete k' => k' = k

theorem mem_apply {write : Write K R} {rows : List R} {row : R}
    (h : row ∈ write.apply S rows) :
    write.row? = some row ∨ row ∈ rows ∧ ¬ write.Touches S (S.key row) := by
  cases write with
  | insert new =>
    rcases List.mem_append.mp h with hold | hnew
    · exact .inr ⟨hold, id⟩
    · exact .inl (congrArg some (List.mem_singleton.mp hnew).symm)
  | update new =>
    rcases Table.mem_put_cases h with rfl | ⟨hold, hne⟩
    · exact .inl rfl
    · exact .inr ⟨hold, Ne.symm hne⟩
  | delete k =>
    rw [apply, List.mem_filter, decide_eq_true_eq] at h
    exact .inr ⟨h.1, Ne.symm h.2⟩

theorem mem_apply_of_untouched {write : Write K R} {rows : List R} {row : R} (h : row ∈ rows)
    (hkept : ¬ write.Touches S (S.key row)) : row ∈ write.apply S rows := by
  cases write with
  | insert new => exact List.mem_append_left _ h
  | update new => exact Table.mem_put_of_ne h fun heq => hkept heq.symm
  | delete k =>
    rw [apply, List.mem_filter, decide_eq_true_eq]
    exact ⟨h, fun heq => hkept heq.symm⟩

end Write

namespace Schema

/-- One statement, which the constraints may refuse. -/
def write (S : Schema K R) (write : Write K R) (db : S.Database) : Option S.Database :=
  if h : S.Valid (write.apply S db.1) then some ⟨write.apply S db.1, h⟩ else none

/-- The statements of a flush; the constraints are checked after each of them. -/
def flush (S : Schema K R) : List (Write K R) → S.Database → Option S.Database
  | [], db => some db
  | write :: writes, db => (S.write write db).bind (S.flush writes)

theorem write_of_valid {write : Write K R} {db : S.Database} (h : S.Valid (write.apply S db.1)) :
    S.write write db = some ⟨write.apply S db.1, h⟩ :=
  dif_pos h

theorem write_of_not_valid {write : Write K R} {db : S.Database}
    (h : ¬ S.Valid (write.apply S db.1)) : S.write write db = none :=
  dif_neg h

theorem write_eq_some {write : Write K R} {db db' : S.Database}
    (h : S.write write db = some db') : db'.1 = write.apply S db.1 := by
  unfold Schema.write at h
  split at h
  · rw [← Option.some.inj h]
  · cases h

/-- A row after a flush has been written by it, or it was there and none of the writes is about
it. -/
theorem mem_flush {writes : List (Write K R)} {db db' : S.Database}
    (h : S.flush writes db = some db') {row : R} (hrow : row ∈ db'.1) :
    (∃ write ∈ writes, write.row? = some row) ∨
      row ∈ db.1 ∧ ∀ write ∈ writes, ¬ write.Touches S (S.key row) := by
  induction writes generalizing db with
  | nil =>
    rw [← Option.some.inj h] at hrow
    exact .inr ⟨hrow, fun _ hmem => absurd hmem List.not_mem_nil⟩
  | cons write writes ih =>
    obtain ⟨mid, hwrite, hrest⟩ := Option.bind_eq_some_iff.mp h
    rcases ih hrest with ⟨later, hmem, hlater⟩ | ⟨hmid, hkept⟩
    · exact .inl ⟨later, List.mem_cons_of_mem _ hmem, hlater⟩
    · rw [write_eq_some hwrite] at hmid
      rcases Write.mem_apply hmid with hwritten | ⟨hold, huntouched⟩
      · exact .inl ⟨write, List.mem_cons_self, hwritten⟩
      · exact .inr ⟨hold, List.forall_mem_cons.mpr ⟨huntouched, hkept⟩⟩

theorem mem_flush_of_untouched {writes : List (Write K R)} {db db' : S.Database}
    (h : S.flush writes db = some db') {row : R} (hrow : row ∈ db.1)
    (hkept : ∀ write ∈ writes, ¬ write.Touches S (S.key row)) : row ∈ db'.1 := by
  induction writes generalizing db with
  | nil =>
    rw [← Option.some.inj h]
    exact hrow
  | cons write writes ih =>
    obtain ⟨mid, hwrite, hrest⟩ := Option.bind_eq_some_iff.mp h
    rw [List.forall_mem_cons] at hkept
    apply ih hrest
    · rw [write_eq_some hwrite]
      exact Write.mem_apply_of_untouched hrow hkept.1
    · exact hkept.2

end Schema

end Writes

/-! ## The machine -/

/-- The committed rows, who holds the lock of which row, and what the commits were for. -/
structure World {K R : Type} (S : Schema K R) (N : Type) where
  db : S.Database
  locks : K → Option ℕ
  log : List N

/-- What a unit of work asks of the database, or `q` of something outside. -/
inductive Command (K R N Q : Type) where
  | ask (q : Q)
  | select (q : List R → List R)
  | lock (keys : List K) (p : R → Bool)
  | commit (writes : List (Write K R)) (note : N)
  | rollback

/-- A statement may raise. -/
def Reply (K R N : Type) {Q : Type} (A : Q → Type) : Command K R N Q → Type
  | .ask q => A q
  | .select _ => Option (List R)
  | .lock .. => Option (List R)
  | .commit .. => Bool
  | .rollback => Unit

/-- The answers from outside, and whether the database raises. -/
structure Chance {Q : Type} (A : Q → Type) where
  answer : (q : Q) → A q
  fails : Bool := false

section Machine

variable {K R N Q : Type} [DecidableEq K] {S : Schema K R} {A : Q → Type}

namespace World

/-- No locks, and nothing committed yet. -/
def start (N : Type) (db : S.Database) : World S N := ⟨db, fun _ => none, []⟩

/-- The transaction of client `t` ends. -/
def release (t : ℕ) (w : World S N) : World S N :=
  { w with locks := fun k => if w.locks k = some t then none else w.locks k }

/-- The rows among `keys` that meet the condition. -/
def found (keys : List K) (p : R → Bool) (w : World S N) : List R :=
  w.db.1.filter fun row => S.key row ∈ keys && p row

def acquire (t : ℕ) (rows : List R) (w : World S N) : World S N :=
  { w with locks := fun k => if k ∈ rows.map S.key then some t else w.locks k }

/-- Another client holds the lock. -/
def Foreign (t : ℕ) (w : World S N) (k : K) : Prop := w.locks k ≠ none ∧ w.locks k ≠ some t

instance decidableForeign (t : ℕ) (w : World S N) : DecidablePred (w.Foreign t) :=
  fun _ => inferInstanceAs (Decidable (_ ∧ _))

end World

/-- A statement that locks waits as long as another client holds one of the rows. -/
def exec (e : Chance A) (t : ℕ) (c : Command K R N Q) (w : World S N) :
    Option (Reply K R N A c × World S N) :=
  match c with
  | .ask q => some (e.answer q, w)
  | .select q => if e.fails then some (none, w.release t) else some (some (q w.db.1), w)
  | .lock keys p =>
    if e.fails then some (none, w.release t)
    else if ∀ k ∈ keys, ¬ w.Foreign t k then
      some (some (w.found keys p), w.acquire t (w.found keys p))
    else none
  | .commit writes note =>
    if e.fails then some (false, w.release t)
    else match S.flush writes w.db with
      | none => some (false, w.release t)
      | some db => some (true, { w.release t with db := db, log := w.log ++ [note] })
  | .rollback => some ((), w.release t)

section Exec

variable {e : Chance A} {t : ℕ} {w w' : World S N}

theorem exec_select {q : List R → List R} {r : Option (List R)}
    (h : exec e t (.select q : Command K R N Q) w = some (r, w')) :
    (r = none ∧ w' = w.release t) ∨ r = some (q w.db.1) ∧ w' = w := by
  unfold exec at h
  by_cases hfails : e.fails = true
  · simp only [hfails, if_true] at h
    cases h
    exact .inl ⟨rfl, rfl⟩
  · simp only [hfails] at h
    cases h
    exact .inr ⟨rfl, rfl⟩

theorem exec_lock {keys : List K} {p : R → Bool} {r : Option (List R)}
    (h : exec e t (.lock keys p : Command K R N Q) w = some (r, w')) :
    (r = none ∧ w' = w.release t) ∨ (∀ k ∈ keys, ¬ w.Foreign t k) ∧
      r = some (w.found keys p) ∧ w' = w.acquire t (w.found keys p) := by
  unfold exec at h
  by_cases hfails : e.fails = true
  · simp only [hfails, if_true] at h
    cases h
    exact .inl ⟨rfl, rfl⟩
  · by_cases hfree : ∀ k ∈ keys, ¬ w.Foreign t k
    · simp only [hfails, Bool.false_eq_true, if_false, if_pos hfree] at h
      cases h
      exact .inr ⟨hfree, rfl, rfl⟩
    · simp only [hfails, Bool.false_eq_true, if_false, if_neg hfree] at h
      cases h

theorem exec_commit {writes : List (Write K R)} {note : N} {r : Bool}
    (h : exec e t (.commit writes note : Command K R N Q) w = some (r, w')) :
    (r = false ∧ w' = w.release t) ∨ ∃ db, S.flush writes w.db = some db ∧ r = true ∧
      w' = { w.release t with db := db, log := w.log ++ [note] } := by
  unfold exec at h
  by_cases hfails : e.fails = true
  · simp only [hfails, if_true] at h
    cases h
    exact .inl ⟨rfl, rfl⟩
  · cases hflush : S.flush writes w.db with
    | none =>
      simp only [hfails, hflush] at h
      cases h
      exact .inl ⟨rfl, rfl⟩
    | some db =>
      simp only [hfails, hflush] at h
      cases h
      exact .inr ⟨db, rfl, rfl, rfl⟩

end Exec

/-- What a unit of work raises: an error of the database or one of its own. -/
inductive Raised (E : Type) where
  | database
  | raised (e : E)
deriving DecidableEq

abbrev Client (K R N : Type) {Q : Type} (A : Q → Type) (α : Type) : Type :=
  Prog (Command K R N Q) (Reply K R N A) α

abbrev Work (K R N : Type) {Q : Type} (A : Q → Type) (E α : Type) : Type :=
  ExceptT (Raised E) (Client K R N A) α

def machine {ι E α : Type} (S : Schema K R) (code : ι → Client K R N A (Except (Raised E) α)) :
    Machine ι (Command K R N Q) (Reply K R N A) (Except (Raised E) α) (Chance A) (World S N) :=
  ⟨exec, code⟩

/-! The statements of a unit of work. -/

section Statements

variable {E α : Type}

/-- The rows that a statement returns, or its exception. -/
def result (rows : Option (List R)) : Except (Raised E) (List R) :=
  match rows with
  | some rows => .ok rows
  | none => .error .database

def ended (done : Bool) : Except (Raised E) Unit := if done then .ok () else .error .database

def ask (q : Q) : Work K R N A E (A q) :=
  ExceptT.mk (.call (.ask q) fun r => .done (.ok r))

def select (q : List R → List R) : Work K R N A E (List R) :=
  ExceptT.mk (.call (.select q) fun r => .done (result r))

def lock (keys : List K) (p : R → Bool) : Work K R N A E (List R) :=
  ExceptT.mk (.call (.lock keys p) fun r => .done (result r))

/-- `commit`, which flushes the writes. -/
def commit (writes : List (Write K R)) (note : N) : Work K R N A E Unit :=
  ExceptT.mk (.call (.commit writes note) fun r => .done (ended r))

/-- `if condition: raise e` -/
def raiseIf (condition : Bool) (e : E) : Work K R N A E Unit :=
  if condition then throw (.raised e) else pure ()

/-- `SELECT … FOR UPDATE`, and the first step of an `UPDATE` or a `DELETE`. -/
def forUpdate (key : R → K) (q : List R → List R) (p : R → Bool) : Work K R N A E (List R) := do
  let rows ← select q
  lock (rows.map key) p

def lockFirst (p : R → Bool) : List K → Work K R N A E (Option R)
  | [] => pure none
  | k :: keys => do
      match ← lock [k] p with
      | row :: _ => pure (some row)
      | [] => lockFirst p keys

/-- `SELECT … LIMIT 1 FOR UPDATE` -/
def firstForUpdate (key : R → K) (q : List R → List R) (p : R → Bool) :
    Work K R N A E (Option R) := do
  let rows ← select q
  lockFirst p (rows.map key)

/-- `async with unit_of_work:`; a unit of work that has not committed is rolled back. -/
def unitOfWork (body : Work K R N A E α) : Client K R N A (Except (Raised E) α) := do
  let r ← body.run
  let _ ← Prog.perform .rollback
  pure r

end Statements

/-! ## A unit of work alone -/

section Alone

variable {ι E α β γ : Type} {code : ι → Client K R N A (Except (Raised E) α)} {e : Chance A} {t : ℕ}
  {w : World S N}

/-- Nobody else holds a lock. -/
def World.Alone (t : ℕ) (w : World S N) : Prop := ∀ k, ¬ w.Foreign t k

theorem World.Alone.acquire (h : w.Alone t) (rows : List R) : (w.acquire t rows).Alone t := by
  intro k hforeign
  by_cases hmem : k ∈ rows.map S.key
  · exact hforeign.2 (if_pos hmem)
  · have hlock : (w.acquire t rows).locks k = w.locks k := if_neg hmem
    rw [World.Foreign, hlock] at hforeign
    exact h k hforeign

/-- What a unit of work that nobody interrupts returns, and the world afterwards. -/
abbrev lone (code : ι → Client K R N A (Except (Raised E) α)) (e : Chance A) (t : ℕ)
    (p : Work K R N A E β) (w : World S N) : Option (Except (Raised E) β × World S N) :=
  (machine S code).solo e t p.run w

theorem lone_bind (p : Work K R N A E γ) (f : γ → Work K R N A E β) :
    lone code e t (p >>= f) w = (lone code e t p w).bind fun
      | (.ok c, w') => lone code e t (f c) w'
      | (.error raised, w') => some (.error raised, w') := by
  unfold lone
  rw [ExceptT.run_bind, Machine.solo_bind]
  congr 1
  funext ⟨r, w'⟩
  cases r <;> rfl

theorem lone_bind_ok {p : Work K R N A E γ} {f : γ → Work K R N A E β} {c : γ} {w' : World S N}
    (h : lone code e t p w = some (.ok c, w')) :
    lone code e t (p >>= f) w = lone code e t (f c) w' := by
  rw [lone_bind, h]
  rfl

theorem lone_ask (q : Q) :
    lone code e t (ask q : Work K R N A E (A q)) w = some (.ok (e.answer q), w) :=
  rfl

theorem lone_unitOfWork {p : Work K R N A E β} {r : Except (Raised E) β} {w' : World S N}
    (h : lone code e t p w = some (r, w')) :
    (machine S code).solo e t (unitOfWork p) w = some (r, w'.release t) := by
  have hrun : (machine S code).solo e t p.run w = some (r, w') := h
  rw [unitOfWork, Machine.solo_bind, hrun]
  rfl

theorem lone_raiseIf {condition : Bool} (h : condition = false) (raised : E) :
    lone code e t (raiseIf condition raised : Work K R N A E Unit) w = some (.ok (), w) := by
  rw [h]
  rfl

theorem found_filter (p : R → Bool) : w.found ((w.db.1.filter p).map S.key) p = w.db.1.filter p := by
  apply List.filter_congr
  intro row hrow
  cases hp : p row with
  | false => simp
  | true =>
    simp only [Bool.and_true, decide_eq_true_eq]
    exact List.mem_map_of_mem (List.mem_filter.mpr ⟨hrow, hp⟩)

theorem exec_select_eq (hfails : e.fails = false) (q : List R → List R) :
    exec e t (.select q : Command K R N Q) w = some (some (q w.db.1), w) := by
  unfold exec
  simp only [hfails]
  rfl

theorem exec_lock_eq (hfails : e.fails = false) (h : w.Alone t) (keys : List K) (p : R → Bool) :
    exec e t (.lock keys p : Command K R N Q) w =
      some (some (w.found keys p), w.acquire t (w.found keys p)) := by
  unfold exec
  simp only [hfails, Bool.false_eq_true, if_false]
  exact if_pos fun k _ => h k

theorem exec_commit_eq (hfails : e.fails = false) (writes : List (Write K R)) (note : N) :
    exec e t (.commit writes note : Command K R N Q) w = match S.flush writes w.db with
      | none => some (false, w.release t)
      | some db => some (true, { w.release t with db := db, log := w.log ++ [note] }) := by
  unfold exec
  simp only [hfails]
  rfl

theorem solo_statement {c : Command K R N Q} {k : Reply K R N A c → Except (Raised E) β}
    {r : Reply K R N A c} {w' : World S N} (h : exec e t c w = some (r, w')) :
    (machine S code).solo e t (.call c fun r => .done (k r)) w = some (k r, w') := by
  change (exec e t c w).bind _ = _
  rw [h]
  rfl

variable (hfails : e.fails = false)
include hfails

theorem lone_forUpdate (h : w.Alone t) (p : R → Bool) :
    lone code e t (forUpdate S.key (List.filter p) p : Work K R N A E (List R)) w =
      some (.ok (w.db.1.filter p), w.acquire t (w.db.1.filter p)) := by
  have hselect : lone code e t (select (List.filter p) : Work K R N A E (List R)) w =
      some (.ok (w.db.1.filter p), w) :=
    solo_statement (exec_select_eq hfails _)
  have hlock : lone code e t (lock ((w.db.1.filter p).map S.key) p : Work K R N A E (List R)) w =
      some (.ok (w.found ((w.db.1.filter p).map S.key) p),
        w.acquire t (w.found ((w.db.1.filter p).map S.key) p)) :=
    solo_statement (exec_lock_eq hfails h _ p)
  rw [found_filter] at hlock
  rw [forUpdate, lone_bind_ok hselect]
  exact hlock

theorem lone_commit {writes : List (Write K R)} {db : S.Database} (note : N)
    (h : S.flush writes w.db = some db) :
    lone code e t (commit writes note : Work K R N A E Unit) w =
      some (.ok (), { w.release t with db := db, log := w.log ++ [note] }) := by
  have hexec : exec e t (.commit writes note : Command K R N Q) w =
      some (true, { w.release t with db := db, log := w.log ++ [note] }) := by
    rw [exec_commit_eq hfails, h]
    rfl
  exact solo_statement hexec

theorem lone_commit_refused {writes : List (Write K R)} (note : N)
    (h : S.flush writes w.db = none) :
    lone code e t (commit writes note : Work K R N A E Unit) w =
      some (.error .database, w.release t) := by
  have hexec : exec e t (.commit writes note : Command K R N Q) w =
      some (false, w.release t) := by
    rw [exec_commit_eq hfails, h]
    rfl
  exact solo_statement hexec

end Alone

end Machine

end MaestroKernel.RowLocks
