import MaestroKernel.Library.RowLocks

/-! # Reasoning about units of work

What a client knows about the rows that it has locked, and about all the rows under a guard that it
holds, stays true whatever the others do. A unit of work is verified with such assertions, statement
by statement; what its commit does to the committed rows is then used for every run. -/

namespace MaestroKernel.RowLocks

open Interaction

/-- How rows change: a row is inserted by a client that holds the lock of its guard, if it has one,
and not at all otherwise; afterwards it only evolves. -/
structure Discipline {K R : Type} (S : Schema K R) where
  guard : R → Option K
  Evolves : R → R → Prop
  refl : ∀ row, Evolves row row
  trans : ∀ {a b c}, Evolves a b → Evolves b c → Evolves a c
  key_eq : ∀ {a b}, Evolves a b → S.key b = S.key a
  guard_eq : ∀ {a b}, Evolves a b → guard b = guard a

variable {K R N Q : Type} {S : Schema K R} {A : Q → Type}

/-- What the others leave client `t`. -/
structure Rely (D : Discipline S) (t : ℕ) (w w' : World S N) : Prop where
  locks : ∀ k, w.locks k = some t → w'.locks k = some t
  rows : ∀ row ∈ w.db.1, w.locks (S.key row) = some t → row ∈ w'.db.1
  origin : ∀ row' ∈ w'.db.1, (∃ row ∈ w.db.1, D.Evolves row row') ∨
    ∃ k, D.guard row' = some k ∧ w.locks k ≠ some t
  log : w.log <+: w'.log

variable {D : Discipline S} {t : ℕ} {w w' w'' : World S N}

theorem Rely.refl (w : World S N) : Rely D t w w where
  locks := fun _ h => h
  rows := fun _ h _ => h
  origin := fun row h => .inl ⟨row, h, D.refl row⟩
  log := List.prefix_refl _

theorem Rely.trans (h : Rely D t w w') (h' : Rely D t w' w'') : Rely D t w w'' where
  locks := fun k hk => h'.locks k (h.locks k hk)
  rows := fun row hrow hk => h'.rows row (h.rows row hrow hk) (h.locks _ hk)
  origin := by
    intro row'' hrow''
    rcases h'.origin row'' hrow'' with ⟨row', hrow', hevolves'⟩ | ⟨k, hguard, hk⟩
    · rcases h.origin row' hrow' with ⟨row, hrow, hevolves⟩ | ⟨k, hguard, hk⟩
      · exact .inl ⟨row, hrow, D.trans hevolves hevolves'⟩
      · exact .inr ⟨k, (D.guard_eq hevolves').trans hguard, hk⟩
    · exact .inr ⟨k, hguard, fun hheld => hk (h.locks k hheld)⟩
  log := h.log.trans h'.log

/-- Nothing but locks of others changes. -/
theorem Rely.of_locks (hdb : w'.db = w.db) (hlog : w'.log = w.log)
    (hlocks : ∀ k, w.locks k = some t → w'.locks k = some t) : Rely D t w w' where
  locks := hlocks
  rows := fun _ hrow _ => hdb ▸ hrow
  origin := fun row hrow => .inl ⟨row, hdb ▸ hrow, D.refl row⟩
  log := hlog ▸ List.prefix_refl _

theorem Rely.release {u : ℕ} (hne : u ≠ t) (w : World S N) : Rely D u w (w.release t) := by
  have hlocks : ∀ k, w.locks k = some u → (w.release t).locks k = some u := by
    intro k hk
    have hother : w.locks k ≠ some t := by
      rw [hk]
      simpa using hne
    simpa [World.release, hother] using hk
  exact Rely.of_locks rfl rfl hlocks

/-- The writes of a commit keep to the discipline. -/
def Tame (D : Discipline S) (t : ℕ) (w : World S N) : Write K R → Prop
  | .insert row => ∃ k, D.guard row = some k ∧ w.locks k = some t
  | .update row => w.locks (S.key row) = some t ∧ ∃ old ∈ w.db.1, D.Evolves old row
  | .delete k => w.locks k = some t

theorem Tame.not_touches {write : Write K R} {u : ℕ} {k : K} (h : Tame D t w write) (hne : u ≠ t)
    (hk : w.locks k = some u) : ¬ write.Touches S k := by
  cases write with
  | insert row => exact id
  | update row =>
    rintro rfl
    exact hne (Option.some.inj (hk.symm.trans h.1))
  | delete k' =>
    rintro rfl
    exact hne (Option.some.inj (hk.symm.trans h))

/-- Writes that keep to the discipline go on keeping to it. -/
theorem Tame.rely {write : Write K R} (h : Tame D t w write) (hr : Rely D t w w') :
    Tame D t w' write := by
  cases write with
  | insert row => exact h.imp fun k hk => ⟨hk.1, hr.locks k hk.2⟩
  | update row =>
    obtain ⟨hlock, old, hold, hevolves⟩ := h
    rw [D.key_eq hevolves] at hlock
    have hkept := hr.rows old hold hlock
    refine ⟨?_, old, hkept, hevolves⟩
    rw [D.key_eq hevolves]
    exact hr.locks _ hlock
  | delete k => exact hr.locks k h

/-- What a disciplined commit leaves the others. -/
theorem Rely.commit [DecidableEq K] {u : ℕ} {writes : List (Write K R)} {db : S.Database}
    {note : N} (hne : u ≠ t)
    (htame : ∀ write ∈ writes, Tame D t w write) (hflush : S.flush writes w.db = some db) :
    Rely D u w { w.release t with db := db, log := w.log ++ [note] } where
  locks := (Rely.release (D := D) hne w).locks
  rows := fun row hrow hk => Schema.mem_flush_of_untouched hflush hrow fun write hmem =>
    (htame write hmem).not_touches hne hk
  origin := by
    intro row' hrow'
    rcases Schema.mem_flush hflush hrow' with ⟨write, hmem, hwritten⟩ | ⟨hold, _⟩
    · have hwrite := htame write hmem
      cases write with
      | insert row =>
        obtain rfl := Option.some.inj hwritten
        obtain ⟨k, hguard, hk⟩ := hwrite
        refine .inr ⟨k, hguard, ?_⟩
        rw [hk]
        simpa using Ne.symm hne
      | update row =>
        obtain rfl := Option.some.inj hwritten
        obtain ⟨_, old, hold, hevolves⟩ := hwrite
        exact .inl ⟨old, hold, hevolves⟩
      | delete k => cases hwritten
    · exact .inl ⟨row', hold, D.refl row'⟩
  log := List.prefix_append _ _

variable {ι E α β : Type}

/-- `allowed` is what the commits of an operation do, and `post` what its value says of the log. -/
structure Promise (ι α K R N : Type) (S : Schema K R) where
  allowed : ι → List (Write K R) → N → World S N → Prop
  post : ι → α → List N → Prop
  post_mono : ∀ i a {log log' : List N}, log <+: log' → post i a log → post i a log'

def contract (D : Discipline S) (promise : Promise ι α K R N S) :
    Contract ι (Command K R N Q) (Except (Raised E) α) (World S N) where
  inv := fun _ => True
  unborn := fun _ _ => True
  rely := Rely D
  guar := fun t i c w w' => (∀ u, u ≠ t → Rely D u w w') ∧
    ∀ writes note, c = .commit writes note →
      (∀ write ∈ writes, Tame D t w write) ∧ promise.allowed i writes note w
  post := fun _ i r w => ∀ a, r = .ok a → promise.post i a w.log

variable {promise : Promise ι α K R N S}

theorem contract_sound :
    (contract D promise :
      Contract ι (Command K R N Q) (Except (Raised E) α) (World S N)).Sound where
  rely_refl := fun _ w => Rely.refl w
  rely_trans := fun _ _ _ _ h h' => h.trans h'
  guar_rely := fun _ u _ _ _ _ hne _ hg => hg.1 u (Ne.symm hne)
  guar_inv := fun _ _ _ _ _ _ _ => trivial
  rely_unborn := fun _ _ _ _ _ => trivial

/-! ## Assertions -/

/-- What a client knows and the others cannot falsify. -/
structure Assertion (D : Discipline S) (N : Type) (t : ℕ) where
  holds : World S N → Prop
  stable : ∀ w w', Rely D t w w' → holds w → holds w'

namespace Assertion

/-- A fact that is not about the database. -/
def always (D : Discipline S) (N : Type) (t : ℕ) (φ : Prop) : Assertion D N t :=
  ⟨fun _ => φ, fun _ _ _ h => h⟩

def and (P P' : Assertion D N t) : Assertion D N t where
  holds := fun w => P.holds w ∧ P'.holds w
  stable := fun w w' hr h => ⟨P.stable w w' hr h.1, P'.stable w w' hr h.2⟩

/-- The client has locked the row. -/
def holding (D : Discipline S) (N : Type) (t : ℕ) (row : R) : Assertion D N t where
  holds := fun w => row ∈ w.db.1 ∧ w.locks (S.key row) = some t
  stable := fun _ _ hr h => ⟨hr.rows row h.1 h.2, hr.locks _ h.2⟩

/-- The client has locked all the rows. -/
def holdingAll (D : Discipline S) (N : Type) (t : ℕ) (rows : List R) : Assertion D N t where
  holds := fun w => ∀ row ∈ rows, (holding D N t row).holds w
  stable := fun w w' hr h row hrow => (holding D N t row).stable w w' hr (h row hrow)

def tame (D : Discipline S) (N : Type) (t : ℕ) (writes : List (Write K R)) : Assertion D N t where
  holds := fun w => ∀ write ∈ writes, Tame D t w write
  stable := fun _ _ hr h write hmem => (h write hmem).rely hr

/-- The assertion for one of the values. -/
def ex {γ : Type} (P : γ → Assertion D N t) : Assertion D N t where
  holds := fun w => ∃ x, (P x).holds w
  stable := fun w w' hr h => h.imp fun x hx => (P x).stable w w' hr hx

/-- The commits so far include one with the note. -/
def logged (D : Discipline S) (t : ℕ) (note : N) : Assertion D N t where
  holds := fun w => note ∈ w.log
  stable := fun _ _ hr h => hr.log.subset h

end Assertion

/-- A condition that a row can lose and not regain. -/
def Fades (D : Discipline S) (p : R → Bool) : Prop :=
  ∀ a b, D.Evolves a b → p b = true → p a = true

/-- No row comes under the guard while the client holds its lock. -/
def Guarded (t : ℕ) (guard : Option K) (w : World S N) : Prop :=
  ∀ k, guard = some k → w.locks k = some t

theorem Guarded.rely {guard : Option K} (h : Guarded t guard w) (hr : Rely D t w w') :
    Guarded t guard w' := fun k hk => hr.locks k (h k hk)

/-- A row under a guard that the client holds has been there. -/
theorem Guarded.origin {guard : Option K} {row' : R} (h : Guarded t guard w) (hr : Rely D t w w')
    (hrow : row' ∈ w'.db.1) (hguard : D.guard row' = guard) :
    ∃ row ∈ w.db.1, D.Evolves row row' := by
  rcases hr.origin row' hrow with hold | ⟨k, hk, hlock⟩
  · exact hold
  · exact absurd (h k (hguard.symm.trans hk)) hlock

/-- The client holds the lock of the guard. -/
def Assertion.guarded (D : Discipline S) (N : Type) (t : ℕ) (guard : Option K) :
    Assertion D N t where
  holds := Guarded t guard
  stable := fun _ _ hr h => h.rely hr

/-- The keys include those of all rows under the guard that meet the condition. -/
def Assertion.covers (D : Discipline S) (N : Type) (t : ℕ) (guard : Option K) {p : R → Bool}
    (hp : Fades D p) (keys : List K) : Assertion D N t where
  holds := fun w => Guarded t guard w ∧
    ∀ row ∈ w.db.1, D.guard row = guard → p row = true → S.key row ∈ keys
  stable := by
    rintro w w' hr ⟨hguarded, h⟩
    refine ⟨hguarded.rely hr, ?_⟩
    intro row' hrow' hguard hprop
    obtain ⟨row, hrow, hevolves⟩ := hguarded.origin hr hrow' hguard
    rw [D.key_eq hevolves]
    exact h row hrow ((D.guard_eq hevolves).symm.trans hguard) (hp row row' hevolves hprop)

/-- The client has locked all rows under the guard that meet the condition. -/
def Assertion.complete (D : Discipline S) (N : Type) (t : ℕ) (guard : Option K) {p : R → Bool}
    (hp : Fades D p) (rows : List R) : Assertion D N t where
  holds := fun w => Guarded t guard w ∧
    ∀ row ∈ w.db.1, D.guard row = guard → p row = true →
      row ∈ rows ∧ w.locks (S.key row) = some t
  stable := by
    rintro w w' hr ⟨hguarded, h⟩
    refine ⟨hguarded.rely hr, ?_⟩
    intro row' hrow' hguard hprop
    obtain ⟨row, hrow, hevolves⟩ := hguarded.origin hr hrow' hguard
    obtain ⟨hmem, hlock⟩ := h row hrow ((D.guard_eq hevolves).symm.trans hguard)
      (hp row row' hevolves hprop)
    -- a locked row has not changed
    have hsame : row = row' := List.inj_on_of_nodup_map (S.nodup w'.db.2)
      (hr.rows row hrow hlock) hrow' (D.key_eq hevolves).symm
    subst hsame
    exact ⟨hmem, hr.locks _ hlock⟩

/-- What is promised of a value. -/
def Assertion.recorded (D : Discipline S) (t : ℕ) (promise : Promise ι α K R N S) (i : ι) (a : α) :
    Assertion D N t where
  holds := fun w => promise.post i a w.log
  stable := fun _ _ hr h => promise.post_mono i a hr.log h

/-! ## The rules -/

section Rules

variable [DecidableEq K]

/-- From every state in which `P` holds the program keeps the contract, and if it returns `b` then
`R b` holds. -/
def Meets (code : ι → Client K R N A (Except (Raised E) α)) (promise : Promise ι α K R N S) (t : ℕ)
    (i : ι) (P : Assertion D N t) (p : Work K R N A E β) (Q' : β → Assertion D N t) : Prop :=
  ∀ w, P.holds w → Safe (machine S code) (contract D promise) t i
    (fun r w' => ∀ b, r = .ok b → (Q' b).holds w') p.run w

variable {code : ι → Client K R N A (Except (Raised E) α)} {i : ι} {P : Assertion D N t}
  {p : Work K R N A E β} {Q' : β → Assertion D N t}

theorem Meets.pure {b : β} (h : ∀ w, P.holds w → (Q' b).holds w) :
    Meets code promise t i P (pure b) Q' := by
  intro w hw w' hr _ c hc
  cases hc
  exact h w' (P.stable w w' hr hw)

theorem Meets.throw (e : Raised E) : Meets code promise t i P (throw e : Work K R N A E β) Q' := by
  intro w _ w' _ _ b hb
  cases hb

theorem Meets.bind {γ : Type} {f : β → Work K R N A E γ} {Q'' : γ → Assertion D N t}
    (h : Meets code promise t i P p Q') (hf : ∀ b, Meets code promise t i (Q' b) (f b) Q'') :
    Meets code promise t i P (p >>= f) Q'' := by
  intro w hw
  rw [ExceptT.run_bind]
  apply Safe.bind contract_sound
  apply (h w hw).weaken
  intro r w' _ hr
  cases r with
  | error e =>
    intro w'' _ _ b hb
    cases hb
  | ok b => exact hf b w' (hr b rfl)

theorem Meets.pre {P' : Assertion D N t} (h : Meets code promise t i P p Q')
    (hP : ∀ w, P'.holds w → P.holds w) : Meets code promise t i P' p Q' :=
  fun w hw => h w (hP w hw)

theorem Meets.post {Q'' : β → Assertion D N t} (h : Meets code promise t i P p Q')
    (hQ : ∀ b w, (Q' b).holds w → (Q'' b).holds w) : Meets code promise t i P p Q'' := by
  intro w hw
  apply (h w hw).weaken
  intro r w' _ hr b hb
  exact hQ b w' (hr b hb)

theorem Meets.statement {c : Command K R N Q} {k : Reply K R N A c → Except (Raised E) β}
    (h : ∀ w e r w', P.holds w → exec e t c w = some (r, w') →
      (∀ u, u ≠ t → Rely D u w w') ∧
      (∀ writes note, c = .commit writes note →
        (∀ write ∈ writes, Tame D t w write) ∧ promise.allowed i writes note w) ∧
      ∀ b, k r = .ok b → (Q' b).holds w') :
    Meets code promise t i P (ExceptT.mk (.call c fun r => .done (k r))) Q' := by
  intro w hw w₁ e r w₂ hrely _ hexec
  obtain ⟨hothers, hcommit, hpost⟩ := h w₁ e r w₂ (P.stable w w₁ hrely hw) hexec
  refine ⟨⟨hothers, hcommit⟩, ?_⟩
  intro w₃ hrely' _ b hb
  exact (Q' b).stable w₂ w₃ hrely' (hpost b hb)

theorem Meets.raiseIf (condition : Bool) (e : E) :
    Meets code promise t i P (raiseIf condition e) fun _ =>
      P.and (Assertion.always D N t (condition = false)) := by
  cases condition with
  | false => exact Meets.pure fun w hw => ⟨hw, rfl⟩
  | true => exact Meets.throw _

theorem Meets.ask (q : Q) : Meets code promise t i P (ask q) fun _ => P := by
  apply Meets.statement
  intro w e r w' hw hexec
  obtain ⟨rfl, rfl⟩ := Prod.ext_iff.mp (Option.some.inj hexec)
  exact ⟨fun _ _ => Rely.refl w, fun _ _ hc => (by cases hc), fun _ _ => hw⟩

theorem Meets.select {q : List R → List R} {Q' : List R → Assertion D N t}
    (h : ∀ w, P.holds w → (Q' (q w.db.1)).holds w) :
    Meets code promise t i P (select q) fun rows => P.and (Q' rows) := by
  apply Meets.statement
  intro w e r w' hw hexec
  rcases exec_select hexec with ⟨rfl, rfl⟩ | ⟨rfl, rfl⟩
  · exact ⟨fun _ hu => Rely.release hu w, fun _ _ hc => (by cases hc), fun _ hb => by cases hb⟩
  · refine ⟨fun _ _ => Rely.refl w', fun _ _ hc => (by cases hc), ?_⟩
    intro rows hrows
    cases hrows
    exact ⟨hw, h w' hw⟩

theorem mem_found {keys : List K} {p : R → Bool} {row : R} :
    row ∈ w.found keys p ↔ row ∈ w.db.1 ∧ S.key row ∈ keys ∧ p row = true := by
  simp [World.found]

/-- Locks that nobody else holds can be taken. -/
theorem Rely.acquire {keys : List K} {p : R → Bool} (hfree : ∀ k ∈ keys, ¬ w.Foreign t k) (u : ℕ) :
    Rely D u w (w.acquire t (w.found keys p)) := by
  have hlocks : ∀ k, w.locks k = some u → (w.acquire t (w.found keys p)).locks k = some u := by
    intro k hk
    by_cases hmem : k ∈ (w.found keys p).map S.key
    · obtain ⟨row, hrow, hkey⟩ := List.mem_map.mp hmem
      have hown := hfree k (hkey ▸ (mem_found.mp hrow).2.1)
      have hsame : u = t := by
        by_contra hne
        apply hown
        rw [World.Foreign, hk]
        simpa using hne
      rw [hsame]
      exact if_pos hmem
    · exact (if_neg hmem).trans hk
  exact Rely.of_locks rfl rfl hlocks

theorem Meets.lock {keys : List K} {p : R → Bool} {Q' : List R → Assertion D N t}
    (h : ∀ w rows, P.holds w →
      (∀ row, row ∈ rows ↔ row ∈ w.db.1 ∧ S.key row ∈ keys ∧ p row = true) →
      (Assertion.holdingAll D N t rows).holds w → (Q' rows).holds w) :
    Meets code promise t i P (lock keys p) fun rows => P.and (Q' rows) := by
  apply Meets.statement
  intro w e r w' hw hexec
  rcases exec_lock hexec with ⟨rfl, rfl⟩ | ⟨hfree, rfl, rfl⟩
  · exact ⟨fun _ hu => Rely.release hu w, fun _ _ hc => (by cases hc), fun _ hb => by cases hb⟩
  · refine ⟨fun u _ => Rely.acquire hfree u, fun _ _ hc => (by cases hc), ?_⟩
    intro rows hrows
    cases hrows
    have hkept := P.stable w (w.acquire t (w.found keys p)) (Rely.acquire hfree t) hw
    refine ⟨hkept, h _ _ hkept (fun row => mem_found) ?_⟩
    intro row hrow
    exact ⟨(mem_found.mp hrow).1, if_pos (List.mem_map_of_mem hrow)⟩

/-- Nobody else changes the rows that the statement returns; if the client holds the guard, they are
all the rows under it that meet the condition. -/
theorem Meets.forUpdate {q : List R → List R} {p : R → Bool} (guard : Option K) (hp : Fades D p)
    (hguard : ∀ w, P.holds w → Guarded t guard w)
    (hq : ∀ rows row, row ∈ rows → D.guard row = guard → p row = true → row ∈ q rows) :
    Meets code promise t i P (RowLocks.forUpdate S.key q p) fun rows =>
      P.and ((Assertion.holdingAll D N t rows).and ((Assertion.complete D N t guard hp rows).and
        (Assertion.always D N t (∀ row ∈ rows, p row = true)))) := by
  have hselect : Meets code promise t i P (RowLocks.select q) fun rows =>
      P.and (Assertion.covers D N t guard hp (rows.map S.key)) :=
    Meets.select fun w hw => ⟨hguard w hw, fun row hrow hunder hprop =>
      List.mem_map_of_mem (hq _ row hrow hunder hprop)⟩
  apply Meets.bind hselect
  intro selected
  have hlock : Meets code promise t i
      (P.and (Assertion.covers D N t guard hp (selected.map S.key)))
      (RowLocks.lock (selected.map S.key) p) fun rows =>
      (P.and (Assertion.covers D N t guard hp (selected.map S.key))).and
        ((Assertion.holdingAll D N t rows).and ((Assertion.complete D N t guard hp rows).and
          (Assertion.always D N t (∀ row ∈ rows, p row = true)))) := by
    apply Meets.lock
    rintro w rows ⟨_, hguarded, hcovers⟩ hmem hheld
    refine ⟨hheld, ⟨hguarded, ?_⟩, fun row hrow => ((hmem row).mp hrow).2.2⟩
    intro row hrow hunder hprop
    have hfound := (hmem row).mpr ⟨hrow, hcovers row hrow hunder hprop, hprop⟩
    exact ⟨hfound, (hheld row hfound).2⟩
  apply hlock.post
  rintro rows w ⟨⟨hw, _⟩, hrest⟩
  exact ⟨hw, hrest⟩

/-- What is known of a row that a statement returns. -/
def Assertion.heldRow (D : Discipline S) (N : Type) (t : ℕ) (p : R → Bool) (row : Option R) :
    Assertion D N t where
  holds := fun w => ∀ r, row = some r → p r = true ∧ (Assertion.holding D N t r).holds w
  stable := fun w w' hr h r heq =>
    ⟨(h r heq).1, (Assertion.holding D N t r).stable w w' hr (h r heq).2⟩

theorem Meets.forUpdate_held {q : List R → List R} {p : R → Bool} :
    Meets code promise t i P (RowLocks.forUpdate S.key q p) fun rows =>
      P.and ((Assertion.holdingAll D N t rows).and
        (Assertion.always D N t (∀ row ∈ rows, p row = true))) := by
  have hselect : Meets code promise t i P (RowLocks.select q) fun _ =>
      P.and (Assertion.always D N t True) := Meets.select fun _ _ => trivial
  apply Meets.bind hselect
  intro selected
  have hlock : Meets code promise t i (P.and (Assertion.always D N t True))
      (RowLocks.lock (selected.map S.key) p) fun rows =>
      (P.and (Assertion.always D N t True)).and ((Assertion.holdingAll D N t rows).and
        (Assertion.always D N t (∀ row ∈ rows, p row = true))) :=
    Meets.lock fun w rows _ hmem hheld => ⟨hheld, fun row hrow => ((hmem row).mp hrow).2.2⟩
  apply hlock.post
  rintro rows w ⟨⟨hw, _⟩, hrest⟩
  exact ⟨hw, hrest⟩

theorem Meets.forUpdate_head {q : List R → List R} {p : R → Bool} :
    Meets code promise t i P (RowLocks.forUpdate S.key q p) fun rows =>
      P.and (Assertion.heldRow D N t p rows.head?) := by
  apply Meets.forUpdate_held.post
  rintro rows w ⟨hw, hheld, hprop⟩
  refine ⟨hw, ?_⟩
  intro row hrow
  have hmem := List.mem_of_head? hrow
  exact ⟨hprop row hmem, hheld row hmem⟩

theorem Meets.lockFirst (p : R → Bool) (keys : List K) :
    Meets code promise t i P (lockFirst p keys) fun row =>
      P.and (Assertion.heldRow D N t p row) := by
  induction keys with
  | nil => exact Meets.pure fun w hw => ⟨hw, fun _ heq => by cases heq⟩
  | cons k keys ih =>
    have hlock : Meets code promise t i P (RowLocks.lock [k] p) fun rows =>
        P.and ((Assertion.holdingAll D N t rows).and
          (Assertion.always D N t (∀ row ∈ rows, p row = true))) :=
      Meets.lock fun w rows _ hmem hheld =>
        ⟨hheld, fun row hrow => ((hmem row).mp hrow).2.2⟩
    apply Meets.bind hlock
    intro rows
    cases rows with
    | nil => exact ih.pre fun w hw => hw.1
    | cons row rest =>
      apply Meets.pure
      rintro w ⟨hw, hheld, hprop⟩
      refine ⟨hw, ?_⟩
      intro r heq
      obtain rfl := Option.some.inj heq
      exact ⟨hprop row List.mem_cons_self, hheld row List.mem_cons_self⟩

theorem Meets.firstForUpdate {q : List R → List R} {p : R → Bool} :
    Meets code promise t i P (firstForUpdate S.key q p) fun row =>
      P.and (Assertion.heldRow D N t p row) := by
  have hselect : Meets code promise t i P (RowLocks.select q) fun _ =>
      P.and (Assertion.always D N t True) := Meets.select fun _ _ => trivial
  apply Meets.bind hselect
  intro rows
  exact (Meets.lockFirst p (rows.map S.key)).pre fun w hw => hw.1

/-- A commit has to keep to the discipline and to what is promised of the operation. -/
theorem Meets.commit {writes : List (Write K R)} {note : N}
    (h : ∀ w, P.holds w → (∀ write ∈ writes, Tame D t w write) ∧ promise.allowed i writes note w) :
    Meets code promise t i P (commit writes note) fun _ => Assertion.logged D t note := by
  apply Meets.statement
  intro w e r w' hw hexec
  obtain ⟨htame, hallowed⟩ := h w hw
  have hpromise : ∀ writes' note',
      (Command.commit writes note : Command K R N Q) = .commit writes' note' →
      (∀ write ∈ writes', Tame D t w write) ∧ promise.allowed i writes' note' w := by
    intro writes' note' heq
    cases heq
    exact ⟨htame, hallowed⟩
  rcases exec_commit hexec with ⟨rfl, rfl⟩ | ⟨db, hflush, rfl, rfl⟩
  · exact ⟨fun _ hu => Rely.release hu w, hpromise, fun _ hb => by cases hb⟩
  · exact ⟨fun _ hu => Rely.commit hu htame hflush, hpromise, fun _ _ =>
      List.mem_append_right _ (List.mem_singleton_self _)⟩

/-- A unit of work keeps the contract if its body does. -/
theorem implemented_of_meets {body : ι → Work K R N A E α}
    (h : ∀ t i, Meets (D := D) (fun i => unitOfWork (body i)) promise t i
      (Assertion.always D N t True) (body i) fun a => Assertion.recorded D t promise i a) :
    (contract D promise).Implemented (machine S fun i => unitOfWork (body i)) := by
  intro t i w _ _
  apply Safe.bind contract_sound
  apply (h t i w trivial).weaken
  intro r w' _ hr w₁ e reply w₂ hrely _ hexec
  obtain ⟨rfl, rfl⟩ := Prod.ext_iff.mp (Option.some.inj hexec)
  refine ⟨⟨fun _ hu => Rely.release hu w₁, fun _ _ hc => by cases hc⟩, ?_⟩
  rintro w₃ hrely' _ a rfl
  exact promise.post_mono i a (hrely.log.trans hrely'.log) (hr a rfl)

/-! ## Every run -/

abbrev Units (ι : Type) (A : Q → Type) (E α : Type) (S : Schema K R) (N : Type) : Type :=
  Config ι (Command K R N Q) (Reply K R N A) (Except (Raised E) α) (World S N)

variable {ok : Event ι (Chance A) → Units ι A E α S N → Prop} {cfg next : Units ι A E α S N}

/-- Only a commit changes the rows. -/
theorem next_cases {ev : Event ι (Chance A)} (h : (machine S code).next ev cfg = some next) :
    (next.shared.db = cfg.shared.db ∧ next.shared.log = cfg.shared.log) ∨
      ∃ t e i writes note k, ev = .run t e ∧
        cfg.threads t = some (i, .call (.commit writes note) k) ∧
        S.flush writes cfg.shared.db = some next.shared.db ∧
        next.shared.log = cfg.shared.log ++ [note] := by
  cases ev with
  | start t i =>
    rw [(Machine.next_start h).2.1]
    exact .inl ⟨rfl, rfl⟩
  | run t e =>
    obtain ⟨i, c, k, r, hthread, hexec, _⟩ := Machine.next_run h
    cases c with
    | ask q =>
      have hw : cfg.shared = next.shared := congrArg Prod.snd (Option.some.inj hexec)
      rw [← hw]
      exact .inl ⟨rfl, rfl⟩
    | select q =>
      rcases exec_select hexec with ⟨_, hw⟩ | ⟨_, hw⟩
      · rw [hw]
        exact .inl ⟨rfl, rfl⟩
      · rw [hw]
        exact .inl ⟨rfl, rfl⟩
    | lock keys p =>
      rcases exec_lock hexec with ⟨_, hw⟩ | ⟨_, _, hw⟩
      · rw [hw]
        exact .inl ⟨rfl, rfl⟩
      · rw [hw]
        exact .inl ⟨rfl, rfl⟩
    | commit writes note =>
      rcases exec_commit hexec with ⟨_, hw⟩ | ⟨db, hflush, _, hw⟩
      · rw [hw]
        exact .inl ⟨rfl, rfl⟩
      · rw [hw]
        exact .inr ⟨t, e, i, writes, note, k, rfl, hthread, hflush, rfl⟩
    | rollback =>
      have hw : cfg.shared.release t = next.shared :=
        congrArg Prod.snd (Option.some.inj hexec)
      rw [← hw]
      exact .inl ⟨rfl, rfl⟩

/-- A commit of a unit of work of operation `i` from the world `w`. -/
structure Commits (D : Discipline S) (promise : Promise ι α K R N S) (t : ℕ) (i : ι)
    (writes : List (Write K R)) (note : N) (w : World S N) (db : S.Database) : Prop where
  tame : ∀ write ∈ writes, Tame D t w write
  allowed : promise.allowed i writes note w
  flush : S.flush writes w.db = some db

variable (hM : (contract D promise).Implemented (machine S code)) {db₀ : S.Database}
include hM

theorem safe_reaches (h : (machine S code).Reaches ok (Machine.init (World.start N db₀)) cfg) :
    cfg.Safe (machine S code) (contract D promise) :=
  (Config.safe_init _ trivial fun _ => trivial).reaches contract_sound hM h

/-- Every step leaves the rows, or it is a commit that keeps the promise. -/
theorem commits_of_next {ev : Event ι (Chance A)}
    (h : (machine S code).Reaches ok (Machine.init (World.start N db₀)) cfg)
    (hnext : (machine S code).next ev cfg = some next) :
    (next.shared.db = cfg.shared.db ∧ next.shared.log = cfg.shared.log) ∨
      ∃ t e i writes note k, ev = .run t e ∧
        cfg.threads t = some (i, .call (.commit writes note) k) ∧
        Commits D promise t i writes note cfg.shared next.shared.db ∧
        next.shared.log = cfg.shared.log ++ [note] := by
  rcases next_cases hnext with hsame | ⟨t, e, i, writes, note, k, rfl, hthread, hflush, hlog⟩
  · exact .inl hsame
  · obtain ⟨i', c, k', hthread', _, hcommit⟩ :=
      (safe_reaches hM h).guar contract_sound hnext
    obtain ⟨rfl, hcall⟩ := Prod.mk.inj (Option.some.inj (hthread.symm.trans hthread'))
    cases hcall
    obtain ⟨htame, hallowed⟩ := hcommit writes note rfl
    exact .inr ⟨t, e, i, writes, note, k, rfl, hthread, ⟨htame, hallowed, hflush⟩, hlog⟩

theorem reaches_committed {I : S.Database → List N → Prop} (hstart : I db₀ [])
    (hstep : ∀ cfg t e i writes note k db,
      (machine S code).Reaches ok (Machine.init (World.start N db₀)) cfg →
      cfg.threads t = some (i, .call (.commit writes note) k) → ok (.run t e) cfg →
      Commits D promise t i writes note cfg.shared db → I cfg.shared.db cfg.shared.log →
      I db (cfg.shared.log ++ [note]))
    (h : (machine S code).Reaches ok (Machine.init (World.start N db₀)) cfg) :
    I cfg.shared.db cfg.shared.log := by
  induction h with
  | refl => exact hstart
  | @tail b c ev hreaches hok hnext ih =>
    rcases commits_of_next hM hreaches hnext with
      ⟨hdb, hlog⟩ | ⟨t, e, i, writes, note, k, rfl, hthread, hcommits, hlog⟩
    · rw [hdb, hlog]
      exact ih
    · rw [hlog]
      exact hstep b t e i writes note k _ hreaches hthread hok hcommits ih

end Rules

end MaestroKernel.RowLocks
