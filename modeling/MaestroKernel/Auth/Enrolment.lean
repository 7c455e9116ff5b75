import MaestroKernel.Auth.Mfa

/-! # One active factor

A confirmation activates whatever factor is pending, so what keeps a user at one active factor is
that no factor is left pending beside an active one. Enrolments disable what is pending under the
lock of the user, but look for an active factor before they have it. -/

namespace MaestroKernel.Auth.Mfa

open Interaction RowLocks

/-- A factor that is pending or active. -/
def Live (db : schema.Database) (f : AuthMfaFactor) : Prop :=
  .factor f ∈ db.1 ∧ f.status ≠ .disabled

/-- A user has one live factor at most. -/
def OneLive (db : schema.Database) : Prop :=
  ∀ f f', Live db f → Live db f' → f.userId = f'.userId → f = f'

/-- An enrolment disables all pending factors of the user and inserts one of the user. -/
def Enrols (userId : Uuid) (writes : List (Write Key Row)) (w : World schema Note) : Prop :=
  ∃ (now : ℤ) (pending : List Row) (factor : AuthMfaFactor),
    writes = pending.map (fun row => .update (disablePending now row)) ++
      [.insert (.factor factor)] ∧ factor.userId = userId ∧
    ∀ row ∈ w.db.1, isFactor userId .pending row = true → row ∈ pending

/-- No factor is inserted. -/
def Enrolless (writes : List (Write Key Row)) : Prop := ∀ f, .insert (.factor f) ∉ writes

def promise : Promise Op Outcome Key Row Note schema where
  allowed
    | .enroll userId _, writes, _, w => Enrols userId writes w
    | .confirm .., writes, _, _ => Enrolless writes
    | .disable .., writes, _, _ => Enrolless writes
  post := fun _ _ _ => True
  post_mono := fun _ _ _ _ _ h => h

/-! ## Statements -/

theorem isFactor_iff {userId : Uuid} {status : MfaFactorStatus} {row : Row} :
    isFactor userId status row = true ↔
      ∃ f, row = .factor f ∧ f.userId = userId ∧ f.status = status := by
  cases row <;> simp [isFactor]

theorem fades_pending (userId : Uuid) : Fades discipline (isFactor userId .pending) := by
  intro a b hevolves hb
  obtain ⟨f, rfl, huser, hstatus⟩ := isFactor_iff.mp hb
  have hkey := hevolves.key
  have hparent := hevolves.parent
  have hpending := hevolves.pending (by simp [Row.isPending, hstatus])
  cases a with
  | factor g =>
    have hsame : f.userId = g.userId := by simpa [Row.parent] using hparent
    rw [isFactor_iff]
    exact ⟨g, rfl, hsame.symm.trans huser, by simpa [Row.isPending] using hpending⟩
  | _ => simp [Row.key] at hkey

variable {svc : MfaService} {t : ℕ} {op : Op} {P : Assertion discipline Note t}

abbrev MeetsMfa (svc : MfaService) (t : ℕ) (op : Op) {β : Type} (P : Assertion discipline Note t)
    (p : MfaWork β) (R : β → Assertion discipline Note t) : Prop :=
  Meets (fun op => unitOfWork (body svc op)) promise t op P p R

/-- The client has locked the factor that it got. -/
def heldFactor (t : ℕ) (userId : Uuid) (status : MfaFactorStatus) (f : Option AuthMfaFactor) :
    Assertion discipline Note t :=
  Assertion.heldRow discipline Note t (isFactor userId status) (f.map Row.factor)

theorem factorForUpdate_meets (userId : Uuid) (status : MfaFactorStatus) :
    MeetsMfa svc t op P (factorForUpdate userId status) fun f =>
      P.and (heldFactor t userId status f) := by
  apply Meets.bind Meets.firstForUpdate
  intro row
  apply Meets.pure
  rintro w ⟨hw, hheld⟩
  refine ⟨hw, ?_⟩
  intro r heq
  obtain ⟨f, hf, rfl⟩ := Option.map_eq_some_iff.mp heq
  obtain ⟨row', rfl, hrow⟩ := Option.bind_eq_some_iff.mp hf
  rw [Row.factor?_eq_some] at hrow
  exact hheld (.factor f) (hrow ▸ rfl)

theorem userEmail_meets (userId : Uuid) :
    MeetsMfa svc t op P (userEmail userId) fun email =>
      P.and (Assertion.guarded discipline Note t (email.map fun _ => ⟨.users, userId⟩)) := by
  have hrows : MeetsMfa svc t op P
      (forUpdate Row.key (List.filter (isUser userId)) (isUser userId)) fun rows =>
      P.and (Assertion.heldRow discipline Note t (isUser userId) rows.head?) :=
    Meets.forUpdate_head
  apply Meets.bind hrows
  intro rows
  apply Meets.pure
  rintro w ⟨hw, hheld⟩
  refine ⟨hw, ?_⟩
  intro k hk
  obtain ⟨email, hemail, rfl⟩ := Option.map_eq_some_iff.mp hk
  obtain ⟨user, huser, -⟩ := Option.map_eq_some_iff.mp hemail
  obtain ⟨row, hrow, hsome⟩ := Option.bind_eq_some_iff.mp huser
  rw [Row.user?_eq_some] at hsome
  subst hsome
  obtain ⟨hid, -, hlock⟩ := hheld _ hrow
  have hsame : user.id = userId := by simpa [isUser] using hid
  rw [← hsame]
  exact hlock

/-- The statement that disables pending factors finds all of them under the lock of the user. -/
def disables (t : ℕ) (userId : Uuid) (now : ℤ) (writes : List (Write Key Row)) :
    Assertion discipline Note t :=
  Assertion.ex fun rows : List Row =>
    (Assertion.always discipline Note t
      (writes = rows.map fun row => .update (disablePending now row))).and
    ((Assertion.complete discipline Note t (some ⟨.users, userId⟩) (fades_pending userId) rows).and
      (Assertion.tame discipline Note t writes))

theorem evolves_disable {f : AuthMfaFactor} (g : AuthMfaFactor) (hid : g.id = f.id)
    (huser : g.userId = f.userId) (hstatus : g.status = .disabled) :
    Row.Evolves (.factor f) (.factor g) where
  key := by simp [Row.key, hid]
  parent := by simp [Row.parent, huser]
  opened := by simp [Row.isOpen, hstatus]
  pending := by simp [Row.isPending, hstatus]

theorem disablePendingFactors_meets (userId : Uuid) (now : ℤ)
    (hguard : ∀ w, P.holds w → Guarded t (some ⟨.users, userId⟩) w) :
    MeetsMfa svc t op P (disablePendingFactors userId now) fun writes =>
      P.and (disables t userId now writes) := by
  have hselected : ∀ rows row, row ∈ rows → discipline.guard row = some ⟨.users, userId⟩ →
      isFactor userId .pending row = true → row ∈ List.filter (isFactor userId .pending) rows :=
    fun rows row hmem _ hprop => List.mem_filter.mpr ⟨hmem, hprop⟩
  apply Meets.bind (Meets.forUpdate (some ⟨.users, userId⟩) (fades_pending userId) hguard hselected)
  intro rows
  apply Meets.pure
  rintro w ⟨hw, hheld, hcomplete, hprop⟩
  refine ⟨hw, rows, rfl, hcomplete, ?_⟩
  intro write hmem
  obtain ⟨row, hrow, rfl⟩ := List.mem_map.mp hmem
  obtain ⟨f, rfl, -, -⟩ := isFactor_iff.mp (hprop row hrow)
  obtain ⟨hold, hlock⟩ := hheld _ hrow
  exact ⟨hlock, _, hold, evolves_disable _ rfl rfl rfl⟩

/-- Writes about other tables, which keep to the discipline. -/
def elsewhere (t : ℕ) (writes : List (Write Key Row)) : Assertion discipline Note t :=
  (Assertion.tame discipline Note t writes).and
    (Assertion.always discipline Note t (Enrolless writes))

theorem replaceRecoveryCodes_meets {count : ℕ} (factorId : Uuid)
    (codes : Fin count → RecoveryCodeMaterial)
    (hguard : ∀ w, P.holds w → w.locks ⟨.mfaFactors, factorId⟩ = some t) :
    MeetsMfa svc t op P (replaceRecoveryCodes factorId codes) fun writes =>
      P.and (elsewhere t writes) := by
  apply Meets.bind Meets.forUpdate_held
  intro rows
  apply Meets.pure
  rintro w ⟨hw, hheld, -⟩
  refine ⟨hw, ?_, ?_⟩
  · intro write hmem
    rcases List.mem_append.mp hmem with hdelete | hinsert
    · obtain ⟨row, hrow, rfl⟩ := List.mem_map.mp hdelete
      exact (hheld row hrow).2
    · obtain ⟨i, rfl⟩ := List.mem_ofFn.mp hinsert
      exact ⟨_, rfl, hguard w hw⟩
  · intro f hmem
    rcases List.mem_append.mp hmem with hdelete | hinsert
    · obtain ⟨row, -, heq⟩ := List.mem_map.mp hdelete
      cases heq
    · obtain ⟨i, heq⟩ := List.mem_ofFn.mp hinsert
      cases heq

theorem evolves_session {s : AuthSession} (s' : AuthSession) (hid : s'.id = s.id)
    (huser : s'.userId = s.userId) (hrevoked : s'.revokedAt.isNone = true → s.revokedAt.isNone = true) :
    Row.Evolves (.session s) (.session s') where
  key := by simp [Row.key, hid]
  parent := by simp [Row.parent, huser]
  opened := hrevoked
  pending := id

theorem sessionForUpdate_meets (userId sessionId : Uuid) :
    MeetsMfa svc t op P (sessionForUpdate userId sessionId) fun session =>
      P.and (Assertion.heldRow discipline Note t (isSession userId sessionId)
        (session.map Row.session)) := by
  apply Meets.bind Meets.forUpdate_head
  intro rows
  apply Meets.pure
  rintro w ⟨hw, hheld⟩
  refine ⟨hw, ?_⟩
  intro r heq
  obtain ⟨session, hsession, rfl⟩ := Option.map_eq_some_iff.mp heq
  obtain ⟨row, hrow, hsome⟩ := Option.bind_eq_some_iff.mp hsession
  rw [Row.session?_eq_some] at hsome
  subst hsome
  exact hheld _ hrow

theorem markSessionSatisfied_meets (userId sessionId : Uuid) (now : ℤ) :
    MeetsMfa svc t op P (MfaService.markSessionSatisfied userId sessionId now) fun write =>
      P.and (elsewhere t [write]) := by
  apply Meets.bind (sessionForUpdate_meets userId sessionId)
  intro session
  cases session with
  | none => exact Meets.throw _
  | some session =>
    apply Meets.bind (Meets.raiseIf _ _)
    intro _
    apply Meets.pure
    rintro w ⟨⟨hw, hheld⟩, -⟩
    obtain ⟨-, hold, hlock⟩ := hheld _ rfl
    refine ⟨hw, ?_, ?_⟩
    · intro write hmem
      rw [List.mem_singleton.mp hmem]
      exact ⟨hlock, _, hold, evolves_session _ rfl rfl id⟩
    · intro f hmem
      cases List.mem_singleton.mp hmem

theorem isRequiredByRole_meets (userId : Uuid) :
    MeetsMfa svc t op P (isRequiredByRole userId) fun _ => P := by
  have hselect : MeetsMfa svc t op P (select (List.filter (isRequiringMembership userId))) fun _ =>
      P.and (Assertion.always discipline Note t True) := Meets.select fun _ _ => trivial
  apply Meets.bind hselect
  intro rows
  exact Meets.pure fun w hw => hw.1

theorem isOtherSession_iff {userId sessionId : Uuid} {row : Row} :
    isOtherSession userId sessionId row = true ↔ ∃ s, row = .session s ∧ s.userId = userId ∧
      s.id ≠ sessionId ∧ s.revokedAt = none := by
  cases row <;> simp [isOtherSession, and_assoc]

theorem revokeOtherSessions_meets (userId sessionId : Uuid) (now : ℤ) (reason : String) :
    MeetsMfa svc t op P (revokeOtherSessions userId sessionId now reason) fun writes =>
      P.and (elsewhere t writes) := by
  apply Meets.bind Meets.forUpdate_held
  intro rows
  apply Meets.pure
  rintro w ⟨hw, hheld, hprop⟩
  have hsession : ∀ write ∈ rows.map fun row => (.update (revoke now reason row) : Write Key Row),
      ∃ s, .session s ∈ rows ∧ write = .update (revoke now reason (.session s)) := by
    intro write hmem
    obtain ⟨row, hrow, rfl⟩ := List.mem_map.mp hmem
    obtain ⟨s, rfl, -⟩ := isOtherSession_iff.mp (hprop row hrow)
    exact ⟨s, hrow, rfl⟩
  refine ⟨hw, ?_, ?_⟩
  · intro write hmem
    obtain ⟨s, hs, rfl⟩ := hsession write hmem
    obtain ⟨hold, hlock⟩ := hheld _ hs
    exact ⟨hlock, _, hold, evolves_session _ rfl rfl (by simp)⟩
  · intro f hmem
    obtain ⟨s, -, heq⟩ := hsession _ hmem
    cases heq

theorem verifyTotpFactor_meets (factor : AuthMfaFactor) (code : String) (now : ℤ) :
    MeetsMfa svc t op P (svc.verifyTotpFactor factor code now) fun verified =>
      P.and (Assertion.always discipline Note t
        (verified.id = factor.id ∧ verified.userId = factor.userId)) := by
  apply Meets.bind (Meets.ask _)
  intro secret
  cases secret with
  | none => exact Meets.throw _
  | some secret =>
    cases hverify : verifyTotp svc.totpCodeForStep secret code now factor.lastUsedStep with
    | error message =>
      simp only [hverify]
      exact Meets.throw _
    | ok found =>
      simp only [hverify]
      split
      · exact Meets.pure fun w hw => ⟨hw, rfl, rfl⟩
      · exact Meets.throw _

/-! ## Units of work -/

theorem enroll_meets (userId : Uuid) (label : String) :
    MeetsMfa svc t (.enroll userId label) P (svc.enroll userId label) fun _ =>
      Assertion.always discipline Note t True := by
  apply Meets.bind (Meets.ask _)
  intro now
  apply Meets.bind (factorForUpdate_meets userId .active)
  intro active
  apply Meets.bind (Meets.raiseIf _ _)
  intro _
  apply Meets.bind (userEmail_meets userId)
  intro accountName
  cases accountName with
  | none => exact Meets.throw _
  | some accountName =>
    apply Meets.bind (Meets.raiseIf _ _)
    intro _
    refine Meets.bind (disablePendingFactors_meets userId now ?_) ?_
    · rintro w ⟨⟨_, hguarded⟩, _⟩
      exact hguarded
    intro writes
    apply Meets.bind (Meets.ask _)
    intro factorId
    apply Meets.bind (Meets.ask _)
    intro secret
    apply Meets.bind (Meets.ask _)
    intro encrypted
    apply Meets.bind (Meets.ask _)
    intro createdAt
    refine Meets.bind (Meets.commit ?_) ?_
    · rintro w ⟨⟨⟨_, hguarded⟩, _⟩, rows, rfl, ⟨-, hcomplete⟩, htame⟩
      constructor
      · intro write hmem
        rcases List.mem_append.mp hmem with hdisable | hinsert
        · exact htame write hdisable
        · rw [List.mem_singleton.mp hinsert]
          exact ⟨_, rfl, hguarded _ rfl⟩
      · refine ⟨now, rows, _, rfl, rfl, ?_⟩
        intro row hrow hpending
        obtain ⟨f, rfl, rfl, -⟩ := isFactor_iff.mp hpending
        exact (hcomplete _ hrow rfl hpending).1
    intro _
    apply Meets.bind (Meets.raiseIf _ _)
    intro _
    exact Meets.pure fun _ _ => trivial

theorem enrolless_cons {f : AuthMfaFactor} {writes : List (Write Key Row)} (h : Enrolless writes) :
    Enrolless (.update (.factor f) :: writes) := by
  intro g hmem
  rcases List.mem_cons.mp hmem with heq | hrest
  · cases heq
  · exact h g hrest

theorem enrolless_append {writes rest : List (Write Key Row)} (h : Enrolless writes)
    (h' : Enrolless rest) : Enrolless (writes ++ rest) := by
  intro f hmem
  rcases List.mem_append.mp hmem with hfirst | hrest
  · exact h f hfirst
  · exact h' f hrest

theorem confirmEnrollment_meets (userId sessionId : Uuid) (code : String) :
    MeetsMfa svc t (.confirm userId sessionId code) P (svc.confirmEnrollment userId sessionId code)
      fun _ => Assertion.always discipline Note t True := by
  apply Meets.bind (Meets.ask _)
  intro now
  apply Meets.bind (Meets.ask _)
  intro codes
  apply Meets.bind (factorForUpdate_meets userId .pending)
  intro factor
  cases factor with
  | none => exact Meets.throw _
  | some factor =>
    apply Meets.bind (verifyTotpFactor_meets factor code now)
    intro verified
    refine Meets.bind (replaceRecoveryCodes_meets factor.id codes ?_) ?_
    · rintro w ⟨⟨_, hheld⟩, _⟩
      exact (hheld _ rfl).2.2
    intro replaced
    apply Meets.bind (markSessionSatisfied_meets userId sessionId now)
    intro session
    refine Meets.bind (Meets.commit ?_) fun _ => Meets.pure fun _ _ => trivial
    rintro w ⟨⟨⟨⟨_, hheld⟩, hid, huser⟩, htame, hreplaced⟩, htame', hsession⟩
    obtain ⟨hpending, hold, hlock⟩ := hheld _ rfl
    obtain ⟨_, heq, -, hstatus⟩ := isFactor_iff.mp hpending
    cases heq
    constructor
    · intro write hmem
      rw [List.cons_append, List.mem_cons, List.mem_append] at hmem
      rcases hmem with rfl | hcodes | hlast
      · refine ⟨?_, _, hold, ?_, ?_, ?_, ?_⟩
        · simpa [schema, Row.key, hid] using hlock
        · simp [Row.key, hid]
        · simp [Row.parent, huser]
        · simp [Row.isOpen, hstatus]
        · simp [Row.isPending]
      · exact htame write hcodes
      · exact htame' write hlast
    · exact enrolless_append (enrolless_cons hreplaced) hsession

theorem disable_meets (userId sessionId : Uuid) :
    MeetsMfa svc t (.disable userId sessionId) P (svc.disable userId sessionId) fun _ =>
      Assertion.always discipline Note t True := by
  apply Meets.bind (Meets.ask _)
  intro now
  apply Meets.bind (sessionForUpdate_meets userId sessionId)
  intro session
  apply Meets.bind (Meets.raiseIf _ _)
  intro _
  apply Meets.bind (isRequiredByRole_meets userId)
  intro required
  apply Meets.bind (Meets.raiseIf _ _)
  intro _
  apply Meets.bind (factorForUpdate_meets userId .active)
  intro factor
  cases factor with
  | none => exact Meets.throw _
  | some factor =>
    refine Meets.bind (replaceRecoveryCodes_meets factor.id _ ?_) ?_
    · rintro w ⟨_, hheld⟩
      exact (hheld _ rfl).2.2
    intro replaced
    apply Meets.bind (revokeOtherSessions_meets userId sessionId now "mfa_disabled")
    intro revoked
    refine (Meets.commit ?_).post fun _ _ _ => trivial
    rintro w ⟨⟨⟨_, hheld⟩, htame, hreplaced⟩, htame', hrevoked⟩
    obtain ⟨-, hold, hlock⟩ := hheld _ rfl
    constructor
    · intro write hmem
      rw [List.cons_append, List.mem_cons, List.mem_append] at hmem
      rcases hmem with rfl | hcodes | hsessions
      · exact ⟨hlock, _, hold, evolves_disable _ rfl rfl rfl⟩
      · exact htame write hcodes
      · exact htame' write hsessions
    · exact enrolless_append (enrolless_cons hreplaced) hrevoked

theorem body_implemented (svc : MfaService) :
    (contract discipline promise).Implemented
      (machine schema fun op => unitOfWork (body svc op)) := by
  apply implemented_of_meets
  intro t op
  cases op with
  | enroll userId label => exact Meets.bind (enroll_meets userId label) fun _ => Meets.pure fun _ h => h
  | confirm userId sessionId code =>
    exact Meets.bind (confirmEnrollment_meets userId sessionId code) fun _ =>
      Meets.pure fun _ h => h
  | disable userId sessionId =>
    exact Meets.bind (disable_meets userId sessionId) fun _ => Meets.pure fun _ h => h

/-! ## Every run -/

abbrev Enrolments : Type := Units Op Answer MfaServiceError Outcome schema Note

abbrev Step : Type := Interaction.Event Op (Chance Answer)

def mfaMachine (svc : MfaService) : Machine Op (Command Key Row Note Question)
    (Reply Key Row Note Answer) (Except (Raised MfaServiceError) Outcome) (Chance Answer)
    (World schema Note) :=
  machine schema fun op => unitOfWork (body svc op)

theorem live_of_untouched {writes : List (Write Key Row)} {db db' : schema.Database}
    (hflush : schema.flush writes db = some db') {f : AuthMfaFactor} (h : Live db' f) :
    (∃ write ∈ writes, write.row? = some (.factor f)) ∨
      Live db f ∧ ∀ write ∈ writes, ¬ write.Touches schema (Row.factor f).key := by
  rcases Schema.mem_flush hflush h.1 with hwritten | ⟨hold, hkept⟩
  · exact .inl hwritten
  · exact .inr ⟨⟨hold, h.2⟩, hkept⟩

theorem oneLive_enrols {userId : Uuid} {writes : List (Write Key Row)} {w : World schema Note}
    {db : schema.Database} (h : OneLive w.db) (henrols : Enrols userId writes w)
    (hnone : ∀ f, .factor f ∈ w.db.1 → f.userId = userId → f.status ≠ .active)
    (hflush : schema.flush writes w.db = some db) : OneLive db := by
  obtain ⟨now, pending, factor, rfl, huser, hpending⟩ := henrols
  -- a live factor is the new one, or it is of another user and was there before
  have hcases : ∀ f, Live db f → f = factor ∨ Live w.db f ∧ f.userId ≠ userId := by
    intro f hf
    rcases live_of_untouched hflush hf with ⟨write, hmem, hwritten⟩ | ⟨hold, hkept⟩
    · rcases List.mem_append.mp hmem with hdisable | hinsert
      · obtain ⟨row, -, rfl⟩ := List.mem_map.mp hdisable
        have hrow : disablePending now row = .factor f := Option.some.inj hwritten
        cases row with
        | factor g =>
          simp only [disablePending, Row.factor.injEq] at hrow
          exact absurd (hrow ▸ rfl) hf.2
        | _ => cases hrow
      · rw [List.mem_singleton.mp hinsert] at hwritten
        cases hwritten
        exact .inl rfl
    · refine .inr ⟨hold, ?_⟩
      intro hsame
      have hstatus : f.status = .pending := by
        have hactive := hnone f hold.1 hsame
        have hlive := hold.2
        cases hcase : f.status with
        | pending => rfl
        | active => exact absurd hcase hactive
        | disabled => exact absurd hcase hlive
      have hmem := hpending (.factor f) hold.1 (isFactor_iff.mpr ⟨f, rfl, hsame, hstatus⟩)
      exact hkept _ (List.mem_append_left _ (List.mem_map_of_mem hmem)) rfl
  intro f f' hf hf' hsame
  rcases hcases f hf with rfl | ⟨hold, hother⟩
  · rcases hcases f' hf' with rfl | ⟨_, hother'⟩
    · rfl
    · exact absurd (hsame.symm.trans huser) hother'
  · rcases hcases f' hf' with rfl | ⟨hold', _⟩
    · exact absurd (hsame.trans huser) hother
    · exact h f f' hold hold' hsame

/-- Without an insertion, a live factor has been one before. -/
theorem oneLive_enrolless {t : ℕ} {writes : List (Write Key Row)} {w : World schema Note}
    {db : schema.Database} (h : OneLive w.db) (htame : ∀ write ∈ writes, Tame discipline t w write)
    (hnone : Enrolless writes) (hflush : schema.flush writes w.db = some db) : OneLive db := by
  have hbefore : ∀ f, Live db f → ∃ g, Live w.db g ∧ g.id = f.id ∧ g.userId = f.userId := by
    intro f hf
    rcases live_of_untouched hflush hf with ⟨write, hmem, hwritten⟩ | ⟨hold, -⟩
    · have hwrite := htame write hmem
      cases write with
      | insert row =>
        cases hwritten
        exact absurd hmem (hnone f)
      | delete k => cases hwritten
      | update row =>
        cases hwritten
        obtain ⟨-, old, hold, hevolves⟩ := hwrite
        have hkey := hevolves.key
        have hparent := hevolves.parent
        have hopen := hevolves.opened (by simpa [Row.isOpen] using hf.2)
        cases old with
        | factor g =>
          refine ⟨g, ⟨hold, by simpa [Row.isOpen] using hopen⟩, ?_, ?_⟩
          · simpa [Row.key, eq_comm] using hkey
          · simpa [Row.parent, eq_comm] using hparent
        | _ => simp [Row.key] at hkey
    · exact ⟨f, hold, rfl, rfl⟩
  intro f f' hf hf' hsame
  obtain ⟨g, hg, hid, huser⟩ := hbefore f hf
  obtain ⟨g', hg', hid', huser'⟩ := hbefore f' hf'
  have hgg := h g g' hg hg' (huser.trans (hsame.trans huser'.symm))
  have hkey : (Row.factor f).key = (Row.factor f').key := by
    simp only [Row.key, Key.mk.injEq, true_and]
    rw [← hid, ← hid', hgg]
  have hrow := List.inj_on_of_nodup_map (schema.nodup db.2) hf.1 hf'.1 hkey
  exact Row.factor.inj hrow

/-- No enrolment commits while its user has an active factor. -/
def Unconfirmed (ev : Step) (cfg : Enrolments) : Prop :=
  ∀ t e, ev = .run t e → ∀ userId label writes note k,
    cfg.threads t = some (.enroll userId label, .call (.commit writes note) k) →
    ∀ f, .factor f ∈ cfg.shared.db.1 → f.userId = userId → f.status ≠ .active

theorem oneLive_reaches (svc : MfaService) {db₀ : schema.Database} {cfg : Enrolments}
    (hstart : OneLive db₀)
    (h : (mfaMachine svc).Reaches Unconfirmed (Machine.init (World.start Note db₀)) cfg) :
    OneLive cfg.shared.db := by
  apply reaches_committed (body_implemented svc) (I := fun db _ => OneLive db) hstart _ h
  intro cfg t e op writes note k db _ hthread hok hcommits ih
  cases op with
  | enroll userId label =>
    exact oneLive_enrols ih hcommits.allowed (hok t e rfl userId label writes note k hthread)
      hcommits.flush
  | confirm userId sessionId code =>
    exact oneLive_enrolless ih hcommits.tame hcommits.allowed hcommits.flush
  | disable userId sessionId =>
    exact oneLive_enrolless ih hcommits.tame hcommits.allowed hcommits.flush

/-- A user has one active factor at most. -/
def OneActive (db : schema.Database) : Prop :=
  ∀ f f', .factor f ∈ db.1 → .factor f' ∈ db.1 → f.status = .active → f'.status = .active →
    f.userId = f'.userId → f = f'

/-- As long as no confirmation comes between the check of an enrolment and its commit, a user has
one active factor at most. -/
theorem one_active_factor (svc : MfaService) {db₀ : schema.Database} {cfg : Enrolments}
    (hstart : OneLive db₀)
    (h : (mfaMachine svc).Reaches Unconfirmed (Machine.init (World.start Note db₀)) cfg) :
    OneActive cfg.shared.db := by
  intro f f' hf hf' hactive hactive' huser
  have hlive : Live cfg.shared.db f := ⟨hf, by simp [hactive]⟩
  have hlive' : Live cfg.shared.db f' := ⟨hf', by simp [hactive']⟩
  exact oneLive_reaches svc hstart h f f' hlive hlive' huser

/-- `Unconfirmed`, computed. -/
def unconfirmedCheck (ev : Step) (cfg : Enrolments) : Bool :=
  match ev with
  | .start .. => true
  | .run t _ =>
    match cfg.threads t with
    | some (.enroll userId _, .call (.commit ..) _) =>
      cfg.shared.db.1.all fun row => !isFactor userId .active row
    | _ => true

theorem unconfirmed_of_check (ev : Step) (cfg : Enrolments) (h : unconfirmedCheck ev cfg = true) :
    Unconfirmed ev cfg := by
  rintro t e rfl userId label writes note k hthread f hf rfl hactive
  simp only [unconfirmedCheck, hthread, List.all_eq_true, Bool.not_eq_true'] at h
  have hnone := h _ hf
  simp [isFactor, hactive] at hnone

namespace Sample

def service : MfaService where
  totpCodeForStep := fun _ _ => "000000"
  encodeTotpSecret := fun _ => "AAAA"
  quote := id
  recoveryCodeCount := 6
  issuer_given := by decide
  count_range := by decide
  ttl_range := by decide

/-- Random material is told apart by `n`. -/
def chance (n : ℕ) : Chance Answer where
  answer
    | .clock => minute
    | .createdAt => (n : ℤ)
    | .uuid => n
    | .totpSecret => List.replicate 20 0
    | .recoveryCodes _ => fun i =>
      ⟨10 * n + i, "raw", String.ofList (List.replicate (10 * n + i) 'a')⟩
    | .encrypt secret .. => ⟨secret, "v1"⟩
    | .decrypt encrypted .. => some encrypted.ciphertext

def user : IdentityUser := ⟨1, "user@example.org", "hash", .active, none, 0, none⟩

def session : AuthSession where
  id := 5
  userId := 1
  organizationId := none
  refreshFamilyId := 6
  authenticatedAt := 0
  mfaSatisfiedAt := none
  lastSeenAt := none
  expiresAt := 60 * minute

def database : schema.Database := ⟨[.user user, .session session], by decide⟩

theorem database_oneLive : OneLive database := by
  intro f f' hf
  simp [Live, database] at hf

def start : Enrolments := Machine.init (World.start Note database)

/-- One enrolment and its confirmation. -/
def confirmed : List Step :=
  .start 0 (.enroll 1 "A") :: List.replicate 12 (.run 0 (chance 10)) ++
    .start 2 (.confirm 1 5 "000000") :: List.replicate 11 (.run 2 (chance 20))

theorem confirmed_runs :
    ((mfaMachine service).runIf unconfirmedCheck confirmed start).isSome = true := by
  decide +kernel

def afterConfirmed : Enrolments :=
  ((mfaMachine service).runIf unconfirmedCheck confirmed start).get confirmed_runs

/-- The factor is active, and the only one. -/
theorem confirmed_one_active :
    afterConfirmed.shared.db.1.any (isFactor 1 .active) = true ∧
      OneActive afterConfirmed.shared.db :=
  ⟨by decide +kernel, one_active_factor service database_oneLive
    (Machine.runIf_reaches unconfirmed_of_check (Option.some_get confirmed_runs).symm)⟩

/-- Client 1 looks for an active factor before client 2 confirms the first one, and enrols a second
one afterwards, which client 3 confirms. -/
def overtaken : List Step :=
  .start 0 (.enroll 1 "A") :: List.replicate 12 (.run 0 (chance 10)) ++
    .start 1 (.enroll 1 "B") :: List.replicate 2 (.run 1 (chance 11)) ++
    .start 2 (.confirm 1 5 "000000") :: List.replicate 11 (.run 2 (chance 20)) ++
    List.replicate 10 (.run 1 (chance 11)) ++
    .start 3 (.confirm 1 5 "000000") :: List.replicate 11 (.run 3 (chance 30))

theorem overtaken_runs : ((mfaMachine service).run overtaken start).isSome = true := by
  decide +kernel

def afterOvertaken : Enrolments := ((mfaMachine service).run overtaken start).get overtaken_runs

theorem overtaken_two_active : ¬ OneActive afterOvertaken.shared.db := by
  intro h
  have htwo : ∃ f ∈ afterOvertaken.shared.db.1.filterMap Row.factor?,
      ∃ f' ∈ afterOvertaken.shared.db.1.filterMap Row.factor?,
        f.status = .active ∧ f'.status = .active ∧ f.userId = f'.userId ∧ f ≠ f' := by
    decide +kernel
  obtain ⟨f, hf, f', hf', hactive, hactive', huser, hne⟩ := htwo
  obtain ⟨row, hrow, hsome⟩ := List.mem_filterMap.mp hf
  obtain ⟨row', hrow', hsome'⟩ := List.mem_filterMap.mp hf'
  rw [Row.factor?_eq_some] at hsome hsome'
  subst hsome hsome'
  exact hne (h f f' hrow hrow' hactive hactive' huser)

end Sample

end MaestroKernel.Auth.Mfa
