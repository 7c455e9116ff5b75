import MaestroKernel.Auth.Families

/-! # Revocations are final

Every call that revokes sessions spares those that are revoked already, but for a logout and for the
answer to a reused token: these two write over the revocation of their session. -/

namespace MaestroKernel.Auth

open Transaction

/-! ## Rows -/

namespace Tables

variable {db db' : Tables}

/-- The revocations of `db` stand in `db'`. -/
def KeepsRevocations (db db' : Tables) : Prop :=
  ∀ s ∈ db.sessions, s.revokedAt.isSome = true → ∃ s' ∈ db'.sessions, s'.id = s.id ∧
    s'.revokedAt = s.revokedAt ∧ s'.revokeReason = s.revokeReason

theorem KeepsRevocations.trans {db'' : Tables} (h : db.KeepsRevocations db')
    (h' : db'.KeepsRevocations db'') : db.KeepsRevocations db'' := by
  intro s hs hrevoked
  obtain ⟨s', hs', hid, hat, hreason⟩ := h s hs hrevoked
  rw [← hat] at hrevoked
  obtain ⟨s'', hs'', hid', hat', hreason'⟩ := h' s' hs' hrevoked
  exact ⟨s'', hs'', hid'.trans hid, hat'.trans hat, hreason'.trans hreason⟩

theorem keepsRevocations_of_map {g : AuthSession → AuthSession} {added : List AuthSession}
    (hsessions : db'.sessions = db.sessions.map g ++ added)
    (hg : ∀ s ∈ db.sessions, s.revokedAt.isSome = true →
      (g s).id = s.id ∧ (g s).revokedAt = s.revokedAt ∧ (g s).revokeReason = s.revokeReason) :
    db.KeepsRevocations db' := by
  intro s hs hrevoked
  refine ⟨g s, ?_, hg s hs hrevoked⟩
  rw [hsessions]
  exact List.mem_append_left _ (List.mem_map_of_mem hs)

theorem keepsRevocations_of_same (h : db'.sessions = db.sessions) : db.KeepsRevocations db' :=
  fun s hs _ => ⟨s, h ▸ hs, rfl, rfl, rfl⟩

theorem revokeSessions_keepsRevocations (db : Tables) (selected : AuthSession → Bool)
    (revokedAt : ℤ) (reason : String) :
    db.KeepsRevocations (db.revokeSessions selected revokedAt reason) := by
  refine keepsRevocations_of_map (List.append_nil _).symm fun s _ hrevoked => ?_
  have hspared : ¬ (selected s && s.revokedAt.isNone) = true := by
    rw [← Option.not_isSome, hrevoked]
    simp
  rw [if_neg hspared]
  exact ⟨rfl, rfl, rfl⟩

theorem revokeFamily_keepsRevocations (hv : db.Valid) {session : AuthSession}
    (hmem : session ∈ db.sessions) (hopen : session.revokedAt = none) (revokedAt : ℤ)
    (reason : String) (reuse : Option AuthRefreshToken) :
    db.KeepsRevocations (db.revokeFamily session revokedAt reason reuse) := by
  refine keepsRevocations_of_map (List.append_nil _).symm fun s hs hrevoked => ?_
  have hother : s.id ≠ session.id := by
    intro hid
    rw [hv.session_unique hs hmem hid, hopen] at hrevoked
    cases hrevoked
  rw [if_neg hother]
  exact ⟨rfl, rfl, rfl⟩

theorem rotate_keepsRevocations (db : Tables) (previous : AuthRefreshToken) (session : AuthSession)
    (tokenId : Uuid) (tokenHash : String) (rotatedAt : ℤ) :
    db.KeepsRevocations (db.rotate previous session tokenId tokenHash rotatedAt) := by
  refine keepsRevocations_of_map (List.append_nil _).symm fun s _ _ => ?_
  split
  · exact ⟨rfl, rfl, rfl⟩
  · exact ⟨rfl, rfl, rfl⟩

end Tables

/-! ## Calls -/

namespace SessionService

variable {svc : SessionService} {draw : Draw} {db db' : Tables} {raw : String}

/-- The session of a refresh token has not been revoked. -/
def OpenSession (svc : SessionService) (raw : String) (db : Tables) : Prop :=
  ∀ previous session user, db.refreshPrincipals (svc.digest raw) = some (previous, session, user) →
    session.revokedAt = none

/-- The call is no logout from a revoked session, and does not reuse a token of one. -/
def SparesRevoked (svc : SessionService) (request : Request) (db : Tables) : Prop :=
  match request with
  | .logout raw => OpenSession svc raw db
  | .refresh raw => ∀ previous session user,
      db.refreshPrincipals (svc.digest raw) = some (previous, session, user) →
        previous.consumedAt.isSome = true → session.revokedAt = none
  | _ => True

theorem login_keepsRevocations {email password : String} {reply : Except SessionError IssuedSession}
    (h : svc.login email password draw db = .commit db' reply) : db.KeepsRevocations db' := by
  simp only [login] at h
  split at h
  · cases h
  split at h
  · cases h
  split at h
  · obtain ⟨rfl, -⟩ := Ending.commit.inj h
    split
    · exact Tables.keepsRevocations_of_same rfl
    · exact Tables.keepsRevocations_of_same rfl
  · obtain ⟨rfl, -⟩ := Ending.commit.inj h
    refine Tables.keepsRevocations_of_map (g := id) (by rw [List.map_id]; rfl) fun s _ _ => ?_
    exact ⟨rfl, rfl, rfl⟩

theorem refresh_ends {reply : Except SessionError IssuedSession}
    (h : svc.refresh raw draw db = .commit db' reply) :
    ∃ previous session user, db.refreshPrincipals (svc.digest raw) =
        some (previous, session, user) ∧
      (((previous.consumedAt.isSome = true ∨ session.revokedAt = none) ∧
          ∃ reason reuse, db' = db.revokeFamily session draw.now reason reuse) ∨
        db' = db.rotate previous session draw.tokenId (svc.digest draw.raw) draw.now) := by
  simp only [refresh] at h
  split at h
  · cases h
  split at h
  · cases h
  rename_i previous session user hfound
  refine ⟨previous, session, user, hfound, ?_⟩
  split at h
  · rename_i hconsumed
    obtain ⟨rfl, -⟩ := Ending.commit.inj h
    exact .inl ⟨.inl hconsumed, _, _, rfl⟩
  split at h
  · split at h
    · rename_i hopen
      obtain ⟨rfl, -⟩ := Ending.commit.inj h
      exact .inl ⟨.inr (Option.isNone_iff_eq_none.mp hopen), _, _, rfl⟩
    · cases h
  · obtain ⟨rfl, -⟩ := Ending.commit.inj h
    exact .inr rfl

theorem refresh_keepsRevocations {reply : Except SessionError IssuedSession} (hv : db.Valid)
    (hspares : SparesRevoked svc (.refresh raw) db)
    (h : svc.refresh raw draw db = .commit db' reply) : db.KeepsRevocations db' := by
  obtain ⟨previous, session, user, hfound, ⟨hends, reason, reuse, rfl⟩ | rfl⟩ := refresh_ends h
  · obtain ⟨-, -, hsession, -⟩ := Tables.of_refreshPrincipals hfound
    have hopen : session.revokedAt = none := hends.elim (hspares previous session user hfound) id
    exact Tables.revokeFamily_keepsRevocations hv hsession hopen draw.now reason reuse
  · exact db.rotate_keepsRevocations previous session _ _ draw.now

theorem logout_keepsRevocations {reply : Except SessionError Unit} (hv : db.Valid)
    (hspares : SparesRevoked svc (.logout raw) db)
    (h : svc.logout raw draw db = .commit db' reply) : db.KeepsRevocations db' := by
  simp only [logout] at h
  split at h
  · cases h
  split at h
  · obtain ⟨rfl, -⟩ := Ending.commit.inj h
    exact Tables.keepsRevocations_of_same rfl
  · rename_i previous session user hfound
    obtain ⟨rfl, -⟩ := Ending.commit.inj h
    obtain ⟨-, -, hsession, -⟩ := Tables.of_refreshPrincipals hfound
    exact Tables.revokeFamily_keepsRevocations hv hsession
      (hspares previous session user hfound) draw.now _ none

theorem revokeAllForUser_keepsRevocations (db : Tables) (userId : Uuid) (revokedAt : ℤ)
    (reason : String) : db.KeepsRevocations (db.revokeAllForUser userId revokedAt reason) :=
  Tables.revokeSessions_keepsRevocations (db.revokeTokens userId revokedAt) _ revokedAt reason

theorem logoutAll_keepsRevocations {reply : Except SessionError Unit}
    (h : svc.logoutAll raw draw db = .commit db' reply) : db.KeepsRevocations db' := by
  simp only [logoutAll] at h
  split at h
  · cases h
  split at h
  · obtain ⟨rfl, -⟩ := Ending.commit.inj h
    exact Tables.keepsRevocations_of_same rfl
  · obtain ⟨rfl, -⟩ := Ending.commit.inj h
    exact revokeAllForUser_keepsRevocations db _ draw.now _

theorem revokeSession_keepsRevocations {userId sessionId : Uuid} {reply : Except SessionError Unit}
    (hv : db.Valid) (h : revokeSession userId sessionId draw db = .commit db' reply) :
    db.KeepsRevocations db' := by
  simp only [revokeSession] at h
  split at h
  · obtain ⟨rfl, -⟩ := Ending.commit.inj h
    exact Tables.keepsRevocations_of_same rfl
  · rename_i session hfound
    split at h
    · rename_i hopen
      obtain ⟨rfl, -⟩ := Ending.commit.inj h
      exact Tables.revokeFamily_keepsRevocations hv (List.mem_of_find?_eq_some hfound)
        (Option.isNone_iff_eq_none.mp hopen) draw.now _ none
    · obtain ⟨rfl, -⟩ := Ending.commit.inj h
      exact Tables.keepsRevocations_of_same rfl

theorem work_keepsRevocations {request : Request}
    {reply : Except SessionError (Option IssuedSession)} (hv : db.Valid)
    (hspares : SparesRevoked svc request db)
    (h : svc.work (request, draw) db = .commit db' reply) : db.KeepsRevocations db' := by
  cases request with
  | login email password =>
    obtain ⟨r, hr, -⟩ := issuing_commit h
    exact login_keepsRevocations hr
  | refresh raw =>
    obtain ⟨r, hr, -⟩ := issuing_commit h
    exact refresh_keepsRevocations hv hspares hr
  | logout raw =>
    obtain ⟨r, hr⟩ := quietly_commit h
    exact logout_keepsRevocations hv hspares hr
  | logoutAll raw =>
    obtain ⟨r, hr⟩ := quietly_commit h
    exact logoutAll_keepsRevocations hr
  | revokeSession userId sessionId =>
    obtain ⟨r, hr⟩ := quietly_commit h
    exact revokeSession_keepsRevocations hv hr
  | register user | setUser user =>
    obtain ⟨rfl, -⟩ := Ending.commit.inj h
    exact Tables.keepsRevocations_of_same rfl
  | recover userId reason =>
    obtain ⟨rfl, -⟩ := Ending.commit.inj h
    exact revokeAllForUser_keepsRevocations db userId draw.now reason
  | revokeOtherSessions userId current reason =>
    obtain ⟨rfl, -⟩ := Ending.commit.inj h
    exact db.revokeSessions_keepsRevocations _ draw.now reason
  | satisfyMfa sessionId =>
    obtain ⟨rfl, -⟩ := Ending.commit.inj h
    refine Tables.keepsRevocations_of_map (List.append_nil _).symm fun s _ _ => ?_
    split
    · exact ⟨rfl, rfl, rfl⟩
    · exact ⟨rfl, rfl, rfl⟩

end SessionService

/-! ## Runs -/

/-- What is revoked in `a` is revoked alike in `b`, and its tokens open nothing there. -/
structure RevocationsFinal (svc : SessionService) (a b : (sessions svc).Database) : Prop where
  kept : a.1.KeepsRevocations b.1
  unusable : ∀ s ∈ a.1.sessions, s.revokedAt.isSome = true → ∀ token ∈ b.1.tokens,
    token.sessionId = s.id → ∀ raw, token.tokenHash = svc.digest raw → ∀ draw reply,
      ((sessions svc).respond (.refresh raw, draw) b).1 ≠ .ok reply

/-- The condition on one call of a run. -/
def Spares (svc : SessionService) (request : SessionService.Request × Draw)
    (db : (sessions svc).Database) : Prop :=
  SessionService.SparesRevoked svc request.1 db.1

/-- In every run whose calls spare the revoked sessions, a revocation is final. -/
theorem revocations_final (svc : SessionService) (a b : (sessions svc).Database)
    (h : (sessions svc).Reaches (Spares svc) a b) : RevocationsFinal svc a b := by
  have hany : (sessions svc).Reaches (sessions svc).Any a b :=
    h.weaken fun _ _ _ => trivial
  constructor
  case unusable =>
    intro s hs hrevoked token htoken hsession raw hhash draw reply
    exact refresh_fails_of_revoked hany hs hrevoked htoken hsession hhash reply
  case kept =>
    clear hany
    induction h with
    | refl => exact Tables.keepsRevocations_of_same rfl
    | @tail b request _ hspares ih =>
      refine ih.trans ?_
      rcases Service.respond_cases request b with hsame | ⟨tables, reply, hv, hwork, hrespond⟩
      · rw [hsame]
        exact Tables.keepsRevocations_of_same rfl
      · rw [hrespond]
        exact SessionService.work_keepsRevocations b.2 hspares hwork

namespace Replay

/-- A user logs in and out. -/
def loggedOut : (sessions svc).Database :=
  (sessions svc).run [(.register user, draw 0 ""), (.login "user" "password", draw 1 "first"),
    (.logout "first", draw 2 "")] empty

def again (request : SessionService.Request) : (sessions svc).Database :=
  ((sessions svc).respond (request, draw 3 "second") loggedOut).2

/-- The user closes all sessions a little later. -/
theorem final_after_logoutAll : RevocationsFinal svc loggedOut (again (.logoutAll "first")) :=
  revocations_final svc loggedOut _ (.single (.logoutAll "first", draw 3 "second") loggedOut trivial)

/-- A second logout with the same token moves the instant of the first one. -/
theorem logout_not_final : ¬ RevocationsFinal svc loggedOut (again (.logout "first")) := by
  intro h
  have hkept : ∀ s ∈ loggedOut.1.sessions, s.revokedAt.isSome = true →
      ∃ s' ∈ (again (.logout "first")).1.sessions, s'.id = s.id ∧
        s'.revokedAt = s.revokedAt ∧ s'.revokeReason = s.revokeReason := h.kept
  revert hkept
  decide +kernel

end Replay

end MaestroKernel.Auth
