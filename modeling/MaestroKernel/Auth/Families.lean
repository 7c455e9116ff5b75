import MaestroKernel.Auth.Session
import Mathlib.Data.List.Nodup

/-! # Refresh-token families

A rotation consumes the one live token of its session and adds its successor; every
other unit of work opens a session or marks rows. What a family keeps is proved of
these three moves. -/

namespace MaestroKernel.Auth

open Transaction

/-- A token that a refresh may rotate. -/
def AuthRefreshToken.Live (token : AuthRefreshToken) : Prop :=
  token.consumedAt = none ∧ token.revokedAt = none

/-- The row of a token after a unit of work that does not rotate it. -/
structure AuthRefreshToken.Marks (token token' : AuthRefreshToken) : Prop where
  id : token'.id = token.id
  sessionId : token'.sessionId = token.sessionId
  parentTokenId : token'.parentTokenId = token.parentTokenId
  tokenHash : token'.tokenHash = token.tokenHash
  expiresAt : token'.expiresAt = token.expiresAt
  consumedAt : token'.consumedAt = token.consumedAt
  revokedAt : token.revokedAt.isSome = true → token'.revokedAt.isSome = true

theorem AuthRefreshToken.Marks.refl (token : AuthRefreshToken) : token.Marks token :=
  ⟨rfl, rfl, rfl, rfl, rfl, rfl, fun h => h⟩

theorem AuthRefreshToken.Marks.live {token token' : AuthRefreshToken} (h : token.Marks token')
    (hl : token'.Live) : token.Live := by
  refine ⟨h.consumedAt.symm.trans hl.1, ?_⟩
  cases hr : token.revokedAt with
  | none => rfl
  | some r =>
    have hsome := h.revokedAt (by simp [hr])
    rw [hl.2] at hsome
    cases hsome

structure AuthSession.Marks (session session' : AuthSession) : Prop where
  id : session'.id = session.id
  userId : session'.userId = session.userId
  refreshFamilyId : session'.refreshFamilyId = session.refreshFamilyId
  expiresAt : session'.expiresAt = session.expiresAt
  revokedAt : session.revokedAt.isSome = true → session'.revokedAt.isSome = true

theorem AuthSession.Marks.refl (session : AuthSession) : session.Marks session :=
  ⟨rfl, rfl, rfl, rfl, fun h => h⟩

namespace Tables

variable {db db' : Tables}

/-- The three moves of a family. -/
inductive Step (db db' : Tables) : Prop where
  | marked (f : AuthRefreshToken → AuthRefreshToken) (g : AuthSession → AuthSession)
      (hf : ∀ token : AuthRefreshToken, token.Marks (f token))
      (hg : ∀ session : AuthSession, session.Marks (g session))
      (htokens : db'.tokens = db.tokens.map f) (hsessions : db'.sessions = db.sessions.map g)
  | opened (session : AuthSession) (token : AuthRefreshToken)
      (hsession : token.sessionId = session.id) (hexpires : token.expiresAt = session.expiresAt)
      (hparent : token.parentTokenId = none) (htokens : db'.tokens = db.tokens ++ [token])
      (hsessions : db'.sessions = db.sessions ++ [session])
  | rotated (previous : AuthRefreshToken) (session : AuthSession) (tokenId : Uuid)
      (tokenHash : String) (rotatedAt : ℤ) (hprevious : previous ∈ db.tokens)
      (hlive : previous.Live) (hsession : session ∈ db.sessions)
      (hid : session.id = previous.sessionId)
      (hdb : db' = db.rotate previous session tokenId tokenHash rotatedAt)

theorem Step.of_same (htokens : db'.tokens = db.tokens) (hsessions : db'.sessions = db.sessions) :
    db.Step db' :=
  .marked id id (fun t => .refl t) (fun s => .refl s) (by simpa using htokens)
    (by simpa using hsessions)

theorem Step.refl (db : Tables) : db.Step db := .of_same rfl rfl

/-! ## The moves of each unit of work -/

theorem revokeFamily_step (db : Tables) (session : AuthSession) (revokedAt : ℤ) (reason : String)
    (reuse : Option AuthRefreshToken) : db.Step (db.revokeFamily session revokedAt reason reuse) := by
  refine .marked _ _ (fun token => ?_) (fun s => ?_) rfl rfl
  · constructor <;> dsimp only <;> split <;> split <;> simp
  · split
    · exact ⟨rfl, rfl, rfl, rfl, by simp⟩
    · exact .refl s

theorem revokeSessions_marks (selected : AuthSession → Bool) (revokedAt : ℤ) (reason : String)
    (s : AuthSession) : s.Marks (if selected s && s.revokedAt.isNone then
      { s with revokedAt := some revokedAt, revokeReason := some reason } else s) := by
  split
  · exact ⟨rfl, rfl, rfl, rfl, by simp⟩
  · exact .refl s

theorem revokeSessions_step (db : Tables) (selected : AuthSession → Bool) (revokedAt : ℤ)
    (reason : String) : db.Step (db.revokeSessions selected revokedAt reason) :=
  .marked id _ (fun t => .refl t) (revokeSessions_marks selected revokedAt reason)
    (List.map_id _).symm rfl

theorem revokeAllForUser_step (db : Tables) (userId : Uuid) (revokedAt : ℤ) (reason : String) :
    db.Step (db.revokeAllForUser userId revokedAt reason) := by
  refine .marked _ _ (fun token => ?_) (revokeSessions_marks _ revokedAt reason) rfl rfl
  split
  · exact ⟨rfl, rfl, rfl, rfl, rfl, rfl, by simp⟩
  · exact .refl token

theorem of_refreshPrincipals {tokenHash : String} {token : AuthRefreshToken}
    {session : AuthSession} {user : IdentityUser}
    (h : db.refreshPrincipals tokenHash = some (token, session, user)) :
    token ∈ db.tokens ∧ token.tokenHash = tokenHash ∧ session ∈ db.sessions ∧
      session.id = token.sessionId := by
  simp only [refreshPrincipals, Option.bind_eq_some_iff, Option.map_eq_some_iff] at h
  obtain ⟨t, ht, s, hs, u, -, heq⟩ := h
  obtain ⟨rfl, rfl, rfl⟩ := by simpa using heq
  exact ⟨List.mem_of_find?_eq_some ht, by simpa using List.find?_some ht,
    List.mem_of_find?_eq_some hs, by simpa using List.find?_some hs⟩

end Tables

namespace SessionService

variable {svc : SessionService} {draw : Draw} {db db' : Tables}

theorem setUser_step (user : IdentityUser) : db.Step (db.setUser user) := .of_same rfl rfl

theorem login_step {email password : String} {reply : Except SessionError IssuedSession}
    (h : svc.login email password draw db = .commit db' reply) : db.Step db' := by
  simp only [login] at h
  split at h
  · cases h
  split at h
  · cases h
  split at h
  · obtain ⟨rfl, -⟩ := Ending.commit.inj h
    split
    · exact setUser_step _
    · exact .refl db
  · obtain ⟨rfl, -⟩ := Ending.commit.inj h
    exact .opened _ _ rfl rfl rfl rfl rfl

theorem refresh_cases {raw : String} {reply : Except SessionError IssuedSession}
    (h : svc.refresh raw draw db = .commit db' reply) :
    ∃ previous session user, db.refreshPrincipals (svc.digest raw) =
        some (previous, session, user) ∧
      ((∃ e, reply = .error e ∧ ∃ reason reuse,
          db' = db.revokeFamily session draw.now reason reuse) ∨
        (previous.Live ∧ session.revokedAt = none ∧ previous.expiresAt > draw.now ∧
          user.status = .active ∧
            db' = db.rotate previous session draw.tokenId (svc.digest draw.raw) draw.now)) := by
  simp only [refresh] at h
  split at h
  · cases h
  split at h
  · cases h
  rename_i previous session user hfound
  refine ⟨previous, session, user, hfound, ?_⟩
  split at h
  · obtain ⟨rfl, rfl⟩ := Ending.commit.inj h
    exact .inl ⟨_, rfl, _, _, rfl⟩
  · rename_i hconsumed
    split at h
    · split at h
      · obtain ⟨rfl, rfl⟩ := Ending.commit.inj h
        exact .inl ⟨_, rfl, _, _, rfl⟩
      · cases h
    · rename_i hvalid
      obtain ⟨rfl, -⟩ := Ending.commit.inj h
      simp only [refreshInvalid, Bool.or_eq_true, not_or, decide_eq_true_eq, Bool.not_eq_true,
        Option.isSome_eq_false_iff, Option.isNone_iff_eq_none, not_le, ne_eq, not_not] at hvalid
      obtain ⟨⟨⟨⟨hrevoked, hexpires⟩, hsession⟩, -⟩, hactive⟩ := hvalid
      exact .inr ⟨⟨by simpa using hconsumed, hrevoked⟩, hsession, hexpires, hactive, rfl⟩

theorem refresh_step {raw : String} {reply : Except SessionError IssuedSession}
    (h : svc.refresh raw draw db = .commit db' reply) : db.Step db' := by
  obtain ⟨previous, session, user, hfound, hcases⟩ := refresh_cases h
  obtain ⟨hprevious, -, hsession, hid⟩ := Tables.of_refreshPrincipals hfound
  rcases hcases with ⟨_, -, reason, reuse, rfl⟩ | ⟨hlive, -, -, -, rfl⟩
  · exact db.revokeFamily_step _ _ _ _
  · exact .rotated previous session _ _ _ hprevious hlive hsession hid rfl

theorem logout_step {raw : String} {reply : Except SessionError Unit}
    (h : svc.logout raw draw db = .commit db' reply) : db.Step db' := by
  simp only [logout] at h
  split at h
  · cases h
  split at h <;> obtain ⟨rfl, -⟩ := Ending.commit.inj h
  · exact .refl db
  · exact db.revokeFamily_step _ _ _ _

theorem logoutAll_step {raw : String} {reply : Except SessionError Unit}
    (h : svc.logoutAll raw draw db = .commit db' reply) : db.Step db' := by
  simp only [logoutAll] at h
  split at h
  · cases h
  split at h <;> obtain ⟨rfl, -⟩ := Ending.commit.inj h
  · exact .refl db
  · exact db.revokeAllForUser_step _ _ _

theorem revokeSession_step {userId sessionId : Uuid} {reply : Except SessionError Unit}
    (h : revokeSession userId sessionId draw db = .commit db' reply) : db.Step db' := by
  simp only [revokeSession] at h
  split at h
  · obtain ⟨rfl, -⟩ := Ending.commit.inj h
    exact .refl db
  · split at h <;> obtain ⟨rfl, -⟩ := Ending.commit.inj h
    · exact db.revokeFamily_step _ _ _ _
    · exact .refl db

theorem quietly_commit {u : UnitOfWork Unit} {reply : Except SessionError (Option IssuedSession)}
    (h : quietly u = .commit db' reply) : ∃ r, u = .commit db' r := by
  cases u with
  | rollback e => cases h
  | commit t r =>
    obtain ⟨rfl, -⟩ := Ending.commit.inj h
    exact ⟨r, rfl⟩

theorem issuing_commit {u : UnitOfWork IssuedSession}
    {reply : Except SessionError (Option IssuedSession)} (h : issuing u = .commit db' reply) :
    ∃ r, u = .commit db' r ∧ reply = r.map some := by
  cases u with
  | rollback e => cases h
  | commit t r =>
    obtain ⟨rfl, rfl⟩ := Ending.commit.inj h
    exact ⟨r, rfl, rfl⟩

theorem work_step {request : Request × Draw} {reply : Except SessionError (Option IssuedSession)}
    (h : svc.work request db = .commit db' reply) : db.Step db' := by
  obtain ⟨request, draw⟩ := request
  cases request with
  | login email password =>
    obtain ⟨r, hr, -⟩ := issuing_commit h
    exact login_step hr
  | refresh raw =>
    obtain ⟨r, hr, -⟩ := issuing_commit h
    exact refresh_step hr
  | logout raw =>
    obtain ⟨r, hr⟩ := quietly_commit h
    exact logout_step hr
  | logoutAll raw =>
    obtain ⟨r, hr⟩ := quietly_commit h
    exact logoutAll_step hr
  | revokeSession userId sessionId =>
    obtain ⟨r, hr⟩ := quietly_commit h
    exact revokeSession_step hr
  | register user | setUser user =>
    obtain ⟨rfl, -⟩ := Ending.commit.inj h
    exact .of_same rfl rfl
  | recover userId reason =>
    obtain ⟨rfl, -⟩ := Ending.commit.inj h
    exact db.revokeAllForUser_step _ _ _
  | revokeOtherSessions userId current reason =>
    obtain ⟨rfl, -⟩ := Ending.commit.inj h
    exact db.revokeSessions_step _ _ _
  | satisfyMfa sessionId =>
    obtain ⟨rfl, -⟩ := Ending.commit.inj h
    refine .marked id _ (fun t => .refl t) (fun s => ?_) (List.map_id _).symm rfl
    dsimp only
    split
    · exact ⟨rfl, rfl, rfl, rfl, fun h => h⟩
    · exact .refl s

end SessionService

/-! ## What a family keeps -/

namespace Tables

variable {db db' : Tables}

/-- The tokens of a session form one chain, whose last token at most is live. -/
structure Inv (db : Tables) : Prop where
  expiry : ∀ token ∈ db.tokens, ∀ session ∈ db.sessions, session.id = token.sessionId →
    token.expiresAt ≤ session.expiresAt
  live : ∀ t ∈ db.tokens, ∀ t' ∈ db.tokens, t.sessionId = t'.sessionId → t.Live → t'.Live → t = t'
  parent : ∀ t ∈ db.tokens, ∀ p, t.parentTokenId = some p →
    ∃ q ∈ db.tokens, q.id = p ∧ q.consumedAt.isSome = true
  child : ∀ t ∈ db.tokens, ∀ t' ∈ db.tokens, t.parentTokenId.isSome = true →
    t.parentTokenId = t'.parentTokenId → t = t'

theorem inv_of_no_tokens (h : db.tokens = []) : db.Inv := by
  constructor <;> simp [h]

theorem Valid.token_unique (hv : db.Valid) {t t' : AuthRefreshToken} (ht : t ∈ db.tokens)
    (ht' : t' ∈ db.tokens) (h : t.id = t'.id) : t = t' :=
  List.inj_on_of_nodup_map hv.token_id ht ht' h

theorem Valid.session_unique (hv : db.Valid) {s s' : AuthSession} (hs : s ∈ db.sessions)
    (hs' : s' ∈ db.sessions) (h : s.id = s'.id) : s = s' :=
  List.inj_on_of_nodup_map hv.session_id hs hs' h

theorem Valid.hash_unique (hv : db.Valid) {t t' : AuthRefreshToken} (ht : t ∈ db.tokens)
    (ht' : t' ∈ db.tokens) (h : t.tokenHash = t'.tokenHash) : t = t' :=
  List.inj_on_of_nodup_map hv.token_hash ht ht' h

theorem Valid.fresh_session (hv : db.Valid) (hv' : db'.Valid) {session : AuthSession}
    (hsessions : db'.sessions = db.sessions ++ [session]) {t : AuthRefreshToken}
    (ht : t ∈ db.tokens) : t.sessionId ≠ session.id := by
  intro he
  obtain ⟨s, hs, hid⟩ := hv.token_session t ht
  have hnodup := hv'.session_id
  rw [hsessions, List.map_append, List.nodup_append] at hnodup
  exact hnodup.2.2 s.id (List.mem_map_of_mem hs) session.id (by simp) (hid.trans he)

theorem Inv.marked (hi : db.Inv) {f : AuthRefreshToken → AuthRefreshToken}
    {g : AuthSession → AuthSession} (hf : ∀ token : AuthRefreshToken, token.Marks (f token))
    (hg : ∀ session : AuthSession, session.Marks (g session))
    (htokens : db'.tokens = db.tokens.map f) (hsessions : db'.sessions = db.sessions.map g) :
    db'.Inv where
  expiry := by
    simp only [htokens, hsessions, List.forall_mem_map]
    intro t ht s hs hid
    rw [(hf t).expiresAt, (hg s).expiresAt]
    exact hi.expiry t ht s hs (by rw [← (hg s).id, hid, (hf t).sessionId])
  live := by
    simp only [htokens, List.forall_mem_map]
    intro t ht t' ht' hsession hlive hlive'
    rw [(hf t).sessionId, (hf t').sessionId] at hsession
    rw [hi.live t ht t' ht' hsession ((hf t).live hlive) ((hf t').live hlive')]
  parent := by
    simp only [htokens, List.forall_mem_map]
    intro t ht p hp
    rw [(hf t).parentTokenId] at hp
    obtain ⟨q, hq, hid, hconsumed⟩ := hi.parent t ht p hp
    exact ⟨f q, List.mem_map_of_mem hq, (hf q).id.trans hid, by rw [(hf q).consumedAt, hconsumed]⟩
  child := by
    simp only [htokens, List.forall_mem_map]
    intro t ht t' ht' hsome heq
    rw [(hf t).parentTokenId] at hsome heq
    rw [(hf t').parentTokenId] at heq
    rw [hi.child t ht t' ht' hsome heq]

theorem Inv.opened (hi : db.Inv) (hv : db.Valid) (hv' : db'.Valid) {session : AuthSession}
    {token : AuthRefreshToken} (hsession : token.sessionId = session.id)
    (hexpires : token.expiresAt = session.expiresAt) (hparent : token.parentTokenId = none)
    (htokens : db'.tokens = db.tokens ++ [token])
    (hsessions : db'.sessions = db.sessions ++ [session]) : db'.Inv := by
  have hfresh : ∀ t ∈ db.tokens, t.sessionId ≠ session.id := fun t ht =>
    hv.fresh_session hv' hsessions ht
  constructor
  · intro t ht s hs hid
    simp only [htokens, hsessions, List.mem_append, List.mem_singleton] at ht hs
    rcases ht with ht | rfl <;> rcases hs with hs | rfl
    · exact hi.expiry t ht s hs hid
    · exact absurd hid.symm (hfresh t ht)
    · have hs' : s ∈ db'.sessions := by simp [hsessions, hs]
      have hmem : session ∈ db'.sessions := by simp [hsessions]
      rw [hv'.session_unique hs' hmem (hid.trans hsession), hexpires]
    · rw [hexpires]
  · intro t ht t' ht' hsame hlive hlive'
    simp only [htokens, List.mem_append, List.mem_singleton] at ht ht'
    rcases ht with ht | rfl <;> rcases ht' with ht' | rfl
    · exact hi.live t ht t' ht' hsame hlive hlive'
    · exact absurd (hsame.trans hsession) (hfresh t ht)
    · exact absurd (hsame.symm.trans hsession) (hfresh t' ht')
    · rfl
  · intro t ht p hp
    simp only [htokens, List.mem_append, List.mem_singleton] at ht ⊢
    rcases ht with ht | rfl
    · obtain ⟨q, hq, hrest⟩ := hi.parent t ht p hp
      exact ⟨q, .inl hq, hrest⟩
    · rw [hparent] at hp
      cases hp
  · intro t ht t' ht' hsome heq
    simp only [htokens, List.mem_append, List.mem_singleton] at ht ht'
    rcases ht with ht | rfl <;> rcases ht' with ht' | rfl
    · exact hi.child t ht t' ht' hsome heq
    · rw [heq, hparent] at hsome
      cases hsome
    · rw [hparent] at hsome
      cases hsome
    · rfl

theorem mem_rotate {previous t : AuthRefreshToken} {session : AuthSession} {tokenId : Uuid}
    {tokenHash : String} {rotatedAt : ℤ} :
    t ∈ (db.rotate previous session tokenId tokenHash rotatedAt).tokens ↔
      (t ∈ db.tokens ∧ t.id ≠ previous.id) ∨
        (∃ q ∈ db.tokens, q.id = previous.id ∧ t = { q with consumedAt := some rotatedAt }) ∨
          t = { id := tokenId, sessionId := previous.sessionId,
                parentTokenId := some previous.id, tokenHash := tokenHash, issuedAt := rotatedAt,
                expiresAt := session.expiresAt } := by
  simp only [rotate, List.mem_append, List.mem_map, List.mem_singleton, ← or_assoc]
  refine or_congr_left ⟨?_, ?_⟩
  · rintro ⟨q, hq, rfl⟩
    split
    · rename_i hid
      exact .inr ⟨q, hq, hid, rfl⟩
    · rename_i hid
      exact .inl ⟨hq, hid⟩
  · rintro (⟨ht, hid⟩ | ⟨q, hq, hid, rfl⟩)
    · exact ⟨t, ht, if_neg hid⟩
    · exact ⟨q, hq, if_pos hid⟩

theorem Inv.rotated (hi : db.Inv) (hv : db.Valid) {previous : AuthRefreshToken}
    {session : AuthSession} {tokenId : Uuid} {tokenHash : String} {rotatedAt : ℤ}
    (hprevious : previous ∈ db.tokens) (hlive : previous.Live) (hsession : session ∈ db.sessions)
    (hid : session.id = previous.sessionId) :
    (db.rotate previous session tokenId tokenHash rotatedAt).Inv := by
  -- The rotated token was the live one of its session, and had no child.
  have hold : ∀ t ∈ db.tokens, t.sessionId = previous.sessionId → t.Live → t.id = previous.id :=
    fun t ht hsame hl => congrArg AuthRefreshToken.id (hi.live t ht previous hprevious hsame hl hlive)
  have hnochild : ∀ t ∈ db.tokens, t.parentTokenId ≠ some previous.id := by
    intro t ht hp
    obtain ⟨q, hq, hqid, hconsumed⟩ := hi.parent t ht _ hp
    rw [hv.token_unique hq hprevious hqid, hlive.1] at hconsumed
    cases hconsumed
  have hsessions : ∀ {s}, s ∈ (db.rotate previous session tokenId tokenHash rotatedAt).sessions →
      ∃ s₀ ∈ db.sessions, s.id = s₀.id ∧ s.expiresAt = s₀.expiresAt := by
    intro s hs
    obtain ⟨s₀, hs₀, rfl⟩ := List.mem_map.mp hs
    refine ⟨s₀, hs₀, ?_⟩
    split <;> exact ⟨rfl, rfl⟩
  constructor
  · intro t ht s hs hsame
    obtain ⟨s₀, hs₀, hsid, hsexp⟩ := hsessions hs
    rw [hsexp]
    rw [hsid] at hsame
    rcases mem_rotate.mp ht with ⟨ht, -⟩ | ⟨q, hq, -, rfl⟩ | rfl
    · exact hi.expiry t ht s₀ hs₀ hsame
    · exact hi.expiry q hq s₀ hs₀ hsame
    · exact le_of_eq (congrArg AuthSession.expiresAt
        (hv.session_unique hsession hs₀ (hid.trans hsame.symm)))
  · intro t ht t' ht' hsame hl hl'
    rcases mem_rotate.mp ht with ⟨ht, hne⟩ | ⟨q, hq, -, rfl⟩ | rfl
    · rcases mem_rotate.mp ht' with ⟨ht', -⟩ | ⟨q, -, -, rfl⟩ | rfl
      · exact hi.live t ht t' ht' hsame hl hl'
      · cases hl'.1
      · exact absurd (hold t ht hsame hl) hne
    · cases hl.1
    · rcases mem_rotate.mp ht' with ⟨ht', hne⟩ | ⟨q, -, -, rfl⟩ | rfl
      · exact absurd (hold t' ht' hsame.symm hl') hne
      · cases hl'.1
      · rfl
  · intro t ht p hp
    -- A token that had a parent keeps it, and the parent stays consumed.
    have hkept : ∀ q ∈ db.tokens, q.consumedAt.isSome = true →
        ∃ q' ∈ (db.rotate previous session tokenId tokenHash rotatedAt).tokens,
          q'.id = q.id ∧ q'.consumedAt.isSome = true := by
      intro q hq hconsumed
      by_cases hqid : q.id = previous.id
      · exact ⟨_, mem_rotate.mpr (.inr (.inl ⟨q, hq, hqid, rfl⟩)), rfl, rfl⟩
      · exact ⟨q, mem_rotate.mpr (.inl ⟨hq, hqid⟩), rfl, hconsumed⟩
    rcases mem_rotate.mp ht with ⟨ht, -⟩ | ⟨t₀, ht₀, -, rfl⟩ | rfl
    · obtain ⟨q, hq, rfl, hconsumed⟩ := hi.parent t ht p hp
      exact hkept q hq hconsumed
    · obtain ⟨q, hq, rfl, hconsumed⟩ := hi.parent t₀ ht₀ p hp
      exact hkept q hq hconsumed
    · obtain rfl := Option.some.inj hp
      exact ⟨_, mem_rotate.mpr (.inr (.inl ⟨previous, hprevious, rfl, rfl⟩)), rfl, rfl⟩
  · intro t ht t' ht' hsome heq
    rcases mem_rotate.mp ht with ⟨ht, hne⟩ | ⟨q, hq, hqid, rfl⟩ | rfl
    · rcases mem_rotate.mp ht' with ⟨ht', -⟩ | ⟨q', hq', hqid', rfl⟩ | rfl
      · exact hi.child t ht t' ht' hsome heq
      · exact absurd (hqid' ▸ congrArg AuthRefreshToken.id (hi.child t ht q' hq' hsome heq)) hne
      · exact absurd heq (hnochild t ht)
    · rcases mem_rotate.mp ht' with ⟨ht', hne⟩ | ⟨q', hq', hqid', rfl⟩ | rfl
      · exact absurd (hqid ▸ (congrArg AuthRefreshToken.id (hi.child q hq t' ht' hsome heq)).symm) hne
      · rw [hv.token_unique hq hq' (hqid.trans hqid'.symm)]
      · exact absurd heq (hnochild q hq)
    · rcases mem_rotate.mp ht' with ⟨ht', -⟩ | ⟨q', hq', -, rfl⟩ | rfl
      · exact absurd heq.symm (hnochild t' ht')
      · exact absurd heq.symm (hnochild q' hq')
      · rfl

theorem Inv.step (hi : db.Inv) (hv : db.Valid) (hv' : db'.Valid) (h : db.Step db') : db'.Inv := by
  cases h with
  | marked f g hf hg htokens hsessions => exact hi.marked hf hg htokens hsessions
  | opened session token hsession hexpires hparent htokens hsessions =>
    exact hi.opened hv hv' hsession hexpires hparent htokens hsessions
  | rotated previous session tokenId tokenHash rotatedAt hprevious hlive hsession hid hdb =>
    subst hdb
    exact hi.rotated hv hprevious hlive hsession hid

/-- What no unit of work takes back. -/
structure Later (db db' : Tables) : Prop where
  token : ∀ t ∈ db.tokens, ∃ t' ∈ db'.tokens, t'.tokenHash = t.tokenHash ∧
    t'.sessionId = t.sessionId ∧ (t.consumedAt.isSome = true → t'.consumedAt.isSome = true)
  session : ∀ s ∈ db.sessions, ∃ s' ∈ db'.sessions, s'.id = s.id ∧
    (s.revokedAt.isSome = true → s'.revokedAt.isSome = true)

theorem Later.refl (db : Tables) : db.Later db :=
  ⟨fun t ht => ⟨t, ht, rfl, rfl, fun h => h⟩, fun s hs => ⟨s, hs, rfl, fun h => h⟩⟩

theorem Later.trans {db'' : Tables} (h : db.Later db') (h' : db'.Later db'') : db.Later db'' where
  token t ht := by
    obtain ⟨t', ht', hhash, hsession, hconsumed⟩ := h.token t ht
    obtain ⟨t'', ht'', hhash', hsession', hconsumed'⟩ := h'.token t' ht'
    exact ⟨t'', ht'', hhash'.trans hhash, hsession'.trans hsession, hconsumed' ∘ hconsumed⟩
  session s hs := by
    obtain ⟨s', hs', hid, hrevoked⟩ := h.session s hs
    obtain ⟨s'', hs'', hid', hrevoked'⟩ := h'.session s' hs'
    exact ⟨s'', hs'', hid'.trans hid, hrevoked' ∘ hrevoked⟩

theorem Step.later (h : db.Step db') : db.Later db' := by
  cases h with
  | marked f g hf hg htokens hsessions =>
    constructor
    · intro t ht
      exact ⟨f t, by rw [htokens]; exact List.mem_map_of_mem ht, (hf t).tokenHash,
        (hf t).sessionId, by rw [(hf t).consumedAt]; exact fun h => h⟩
    · intro s hs
      exact ⟨g s, by rw [hsessions]; exact List.mem_map_of_mem hs, (hg s).id, (hg s).revokedAt⟩
  | opened session token _ _ _ htokens hsessions =>
    constructor
    · intro t ht
      exact ⟨t, by simp [htokens, ht], rfl, rfl, fun h => h⟩
    · intro s hs
      exact ⟨s, by simp [hsessions, hs], rfl, fun h => h⟩
  | rotated previous session tokenId tokenHash rotatedAt _ _ _ _ hdb =>
    subst hdb
    constructor
    · intro t ht
      by_cases hid : t.id = previous.id
      · exact ⟨_, mem_rotate.mpr (.inr (.inl ⟨t, ht, hid, rfl⟩)), rfl, rfl, fun _ => rfl⟩
      · exact ⟨t, mem_rotate.mpr (.inl ⟨ht, hid⟩), rfl, rfl, fun h => h⟩
    · intro s hs
      refine ⟨_, List.mem_map_of_mem hs, ?_⟩
      split <;> exact ⟨rfl, fun h => h⟩

theorem Valid.marked (hv : db.Valid) {f : AuthRefreshToken → AuthRefreshToken}
    {g : AuthSession → AuthSession} (hf : ∀ token : AuthRefreshToken, token.Marks (f token))
    (hg : ∀ session : AuthSession, session.Marks (g session)) :
    Valid { db with tokens := db.tokens.map f, sessions := db.sessions.map g } where
  user_id := hv.user_id
  email := hv.email
  session_id := by
    simpa only [List.map_map, Function.comp_def, (hg _).id] using hv.session_id
  family := by
    simpa only [List.map_map, Function.comp_def, (hg _).refreshFamilyId] using hv.family
  token_id := by
    simpa only [List.map_map, Function.comp_def, (hf _).id] using hv.token_id
  token_hash := by
    simpa only [List.map_map, Function.comp_def, (hf _).tokenHash] using hv.token_hash
  session_user := by
    simp only [List.forall_mem_map, (hg _).userId]
    exact hv.session_user
  token_session := by
    simp only [List.forall_mem_map, (hf _).sessionId]
    intro t ht
    obtain ⟨s, hs, hid⟩ := hv.token_session t ht
    exact ⟨g s, List.mem_map_of_mem hs, (hg s).id.trans hid⟩

theorem Valid.refreshPrincipals (hv : db.Valid) {t : AuthRefreshToken} (ht : t ∈ db.tokens) :
    ∃ session user, db.refreshPrincipals t.tokenHash = some (t, session, user) ∧
      session ∈ db.sessions ∧ session.id = t.sessionId := by
  have htoken : db.tokens.find? (fun token => token.tokenHash = t.tokenHash) = some t := by
    obtain ⟨t', ht'⟩ := Option.isSome_iff_exists.mp
      (List.find?_isSome (p := fun token : AuthRefreshToken => token.tokenHash = t.tokenHash).mpr
        ⟨t, ht, by simp⟩)
    have hhash : t'.tokenHash = t.tokenHash := by simpa using List.find?_some ht'
    rw [ht', hv.hash_unique (List.mem_of_find?_eq_some ht') ht hhash]
  obtain ⟨s, hs, hid⟩ := hv.token_session t ht
  obtain ⟨s', hs'⟩ := Option.isSome_iff_exists.mp
    (List.find?_isSome (p := fun session : AuthSession => session.id = t.sessionId).mpr
      ⟨s, hs, by simpa using hid⟩)
  have hmem := List.mem_of_find?_eq_some hs'
  obtain ⟨u, hu, huid⟩ := hv.session_user s' hmem
  obtain ⟨u', hu'⟩ := Option.isSome_iff_exists.mp
    (List.find?_isSome (p := fun user : IdentityUser => user.id = s'.userId).mpr
      ⟨u, hu, by simpa using huid⟩)
  refine ⟨s', u', ?_, hmem, by simpa using List.find?_some hs'⟩
  simp [Tables.refreshPrincipals, htoken, hs', hu']

end Tables

/-! ## Every run of the service -/

section Runs

variable {svc : SessionService} {a b : (sessions svc).Database}

theorem inv_of_reaches (h : (sessions svc).Reaches (sessions svc).Any a b) (ha : a.1.Inv) :
    b.1.Inv := by
  induction h with
  | refl => exact ha
  | @tail b i _ _ ih =>
    rcases Service.respond_cases i b with hsame | ⟨tables, reply, hv, hwork, hrespond⟩
    · rwa [hsame]
    · rw [hrespond]
      exact ih.step b.2 hv (SessionService.work_step hwork)

theorem later_of_reaches (h : (sessions svc).Reaches (sessions svc).Any a b) : a.1.Later b.1 := by
  induction h with
  | refl => exact .refl _
  | @tail b i _ _ ih =>
    refine ih.trans ?_
    rcases Service.respond_cases i b with hsame | ⟨tables, reply, hv, hwork, hrespond⟩
    · rw [hsame]
      exact .refl _
    · rw [hrespond]
      exact (SessionService.work_step hwork).later

/-- What a refresh that returns has found. -/
theorem refresh_ok {raw : String} {draw : Draw} {r : Option IssuedSession}
    (h : ((sessions svc).respond (.refresh raw, draw) a).1 = .ok r) :
    ∃ previous ∈ a.1.tokens, ∃ session ∈ a.1.sessions, previous.tokenHash = svc.digest raw ∧
      session.id = previous.sessionId ∧ previous.Live ∧ session.revokedAt = none ∧
        ((sessions svc).respond (.refresh raw, draw) a).2.1 =
          a.1.rotate previous session draw.tokenId (svc.digest draw.raw) draw.now := by
  obtain ⟨tables, hv, hwork, hdb⟩ := Service.commit_of_ok h
  obtain ⟨reply, hrefresh, hreply⟩ := SessionService.issuing_commit hwork
  obtain ⟨previous, session, user, hfound, hcases⟩ := SessionService.refresh_cases hrefresh
  obtain ⟨hprevious, hhash, hsession, hid⟩ := Tables.of_refreshPrincipals hfound
  rcases hcases with ⟨e, rfl, -⟩ | ⟨hlive, hrevoked, -, -, rfl⟩
  · cases hreply
  · exact ⟨previous, hprevious, session, hsession, hhash, hid, hlive, hrevoked, by rw [hdb]⟩

theorem refresh_fails_of_revoked (h : (sessions svc).Reaches (sessions svc).Any a b)
    {s : AuthSession} (hs : s ∈ a.1.sessions) (hrevoked : s.revokedAt.isSome = true) {raw : String}
    {draw : Draw} {u : AuthRefreshToken} (hu : u ∈ b.1.tokens) (hsession : u.sessionId = s.id)
    (hhash : u.tokenHash = svc.digest raw) (r : Option IssuedSession) :
    ((sessions svc).respond (.refresh raw, draw) b).1 ≠ .ok r := by
  intro hok
  obtain ⟨previous, hprevious, session, hmem, hhash', hid, -, hnone, -⟩ := refresh_ok hok
  obtain rfl := b.2.hash_unique hprevious hu (hhash'.trans hhash.symm)
  obtain ⟨s', hs', hid', hrevoked'⟩ := (later_of_reaches h).session s hs
  have hsome := hrevoked' hrevoked
  rw [b.2.session_unique hs' hmem (hid'.trans (hsession.symm.trans hid.symm)), hnone] at hsome
  cases hsome

variable (svc) in
theorem refresh_of_consumed (draw : Draw) {raw : String} {t : AuthRefreshToken} (hraw : raw ≠ "")
    (ht : t ∈ a.1.tokens) (hhash : t.tokenHash = svc.digest raw)
    (hconsumed : t.consumedAt.isSome = true) :
    ∃ session ∈ a.1.sessions, ∃ reuse, session.id = t.sessionId ∧
      ((sessions svc).respond (.refresh raw, draw) a).1 = .error .refreshTokenReuse ∧
        ((sessions svc).respond (.refresh raw, draw) a).2.1 =
          a.1.revokeFamily session draw.now "refresh_token_reuse" reuse := by
  obtain ⟨session, user, hfound, hsession, hid⟩ := a.2.refreshPrincipals ht
  have hwork : (sessions svc).work (.refresh raw, draw) a.1 = .commit
      (a.1.revokeFamily session draw.now "refresh_token_reuse" (some t))
      (.error .refreshTokenReuse) := by
    have hrefresh : svc.refresh raw draw a.1 = .commit
        (a.1.revokeFamily session draw.now "refresh_token_reuse" (some t))
        (.error .refreshTokenReuse) := by
      simp only [SessionService.refresh, hraw, if_false, ← hhash, hfound, hconsumed, if_true]
    simp only [sessions, SessionService.work, hrefresh]
    rfl
  cases a.1.revokeFamily_step session draw.now "refresh_token_reuse" (some t) with
  | marked f g hf hg htokens hsessions =>
    have hv : (sessions svc).Valid
        (a.1.revokeFamily session draw.now "refresh_token_reuse" (some t)) := by
      have hmarked := a.2.marked hf hg
      rw [← htokens, ← hsessions] at hmarked
      exact hmarked
    rw [Service.respond_of_commit hwork hv]
    exact ⟨session, hsession, some t, hid, rfl, rfl⟩
  | opened s u _ _ _ htokens _ =>
    have hlength := congrArg List.length htokens
    simp [Tables.revokeFamily] at hlength
  | rotated _ _ _ _ _ _ _ _ _ hdb =>
    have hlength := congrArg (fun db : Tables => db.tokens.length) hdb
    simp [Tables.revokeFamily, Tables.rotate] at hlength

/-- The rules of refresh-token families. -/
structure FamilySafe (svc : SessionService) (db : (sessions svc).Database) : Prop where
  /-- A session has at most one token that is neither consumed nor revoked. -/
  one_live : ∀ t ∈ db.1.tokens, ∀ t' ∈ db.1.tokens, t.sessionId = t'.sessionId → t.Live → t'.Live →
    t = t'
  /-- A token does not outlive its session. -/
  expiry : ∀ t ∈ db.1.tokens, ∀ s ∈ db.1.sessions, s.id = t.sessionId → t.expiresAt ≤ s.expiresAt
  /-- A token has at most one successor. -/
  one_child : ∀ t ∈ db.1.tokens, ∀ t' ∈ db.1.tokens, t.parentTokenId.isSome = true →
    t.parentTokenId = t'.parentTokenId → t = t'
  /-- After a refresh returned, no refresh with the same token returns. -/
  rotated_once : ∀ raw draw r, ((sessions svc).respond (.refresh raw, draw) db).1 = .ok r →
    ∀ db', (sessions svc).Reaches (sessions svc).Any
        ((sessions svc).respond (.refresh raw, draw) db).2 db' →
      ∀ draw' r', ((sessions svc).respond (.refresh raw, draw') db').1 ≠ .ok r'
  /-- A refresh with a consumed token revokes the whole family, for ever. -/
  reuse : ∀ raw draw t, raw ≠ "" → t ∈ db.1.tokens → t.tokenHash = svc.digest raw →
    t.consumedAt.isSome = true →
      ((sessions svc).respond (.refresh raw, draw) db).1 = .error .refreshTokenReuse ∧
        (∃ s ∈ ((sessions svc).respond (.refresh raw, draw) db).2.1.sessions,
          s.id = t.sessionId ∧ s.revokedAt.isSome = true) ∧
        (∀ u ∈ ((sessions svc).respond (.refresh raw, draw) db).2.1.tokens,
          u.sessionId = t.sessionId → u.revokedAt.isSome = true) ∧
        ∀ db', (sessions svc).Reaches (sessions svc).Any
            ((sessions svc).respond (.refresh raw, draw) db).2 db' →
          ∀ raw' draw' u r, u ∈ db'.1.tokens → u.sessionId = t.sessionId →
            u.tokenHash = svc.digest raw' →
              ((sessions svc).respond (.refresh raw', draw') db').1 ≠ .ok r

theorem revokeFamily_session {db : Tables} {session : AuthSession} (hs : session ∈ db.sessions)
    (now : ℤ) (reason : String) (reuse : Option AuthRefreshToken) :
    ∃ s ∈ (db.revokeFamily session now reason reuse).sessions, s.id = session.id ∧
      s.revokedAt.isSome = true :=
  ⟨_, List.mem_map_of_mem hs, by simp, by simp⟩

theorem revokeFamily_token {db : Tables} {session : AuthSession} {now : ℤ} {reason : String}
    {reuse : Option AuthRefreshToken} {u : AuthRefreshToken}
    (hu : u ∈ (db.revokeFamily session now reason reuse).tokens)
    (hsession : u.sessionId = session.id) : u.revokedAt.isSome = true := by
  obtain ⟨t, -, rfl⟩ := List.mem_map.mp hu
  dsimp only at hsession ⊢
  generalize (if reuse.any fun reused => t.id = reused.id then
    { t with reuseDetectedAt := some now } else t) = t' at hsession ⊢
  by_cases hrevoked : t'.revokedAt.isSome = true
  · split
    · rfl
    · exact hrevoked
  · have hsame : t'.sessionId = session.id := by
      rw [← hsession]
      split <;> rfl
    have hnone : t'.revokedAt.isNone = true := by
      simpa using hrevoked
    rw [hsame, hnone]
    simp

theorem familySafe_of_inv {db : (sessions svc).Database} (hi : db.1.Inv) : FamilySafe svc db where
  one_live := hi.live
  expiry := hi.expiry
  one_child := hi.child
  rotated_once raw draw r hok db' hreach draw' r' hok' := by
    obtain ⟨t, ht, session, hsession, hhash, hid, -, -, hdb⟩ := refresh_ok hok
    -- The rotated token stays consumed, and a refresh that returns needs a live one.
    have hrotated : { t with consumedAt := some draw.now } ∈
        ((sessions svc).respond (.refresh raw, draw) db).2.1.tokens := by
      rw [hdb]
      exact Tables.mem_rotate.mpr (.inr (.inl ⟨t, ht, rfl, rfl⟩))
    obtain ⟨t', ht', hhash', -, hconsumed⟩ := (later_of_reaches hreach).token _ hrotated
    obtain ⟨u, hu, -, -, huhash, -, hlive, -⟩ := refresh_ok hok'
    have hsome := hconsumed rfl
    rw [db'.2.hash_unique ht' hu (hhash'.trans (hhash.trans huhash.symm)), hlive.1] at hsome
    cases hsome
  reuse raw draw t hraw ht hhash hconsumed := by
    obtain ⟨session, hsession, reuse, hid, hreply, hdb⟩ :=
      refresh_of_consumed svc draw hraw ht hhash hconsumed
    obtain ⟨s, hs, hsid, hrevoked⟩ :=
      revokeFamily_session hsession draw.now "refresh_token_reuse" reuse
    rw [← hdb] at hs
    refine ⟨hreply, ⟨s, hs, hsid.trans hid, hrevoked⟩, fun u hu hu' => ?_, ?_⟩
    · rw [hdb] at hu
      exact revokeFamily_token hu (hu'.trans hid.symm)
    · intro db' hreach raw' draw' u r hu husession huhash
      exact refresh_fails_of_revoked hreach hs hrevoked hu
        (husession.trans (hid.symm.trans hsid.symm)) huhash r

end Runs

namespace Replay

def svc : SessionService where
  accessTokenSeconds := 900
  refreshTokenTtl := 3600000000
  failedLoginLimit := 5
  lockoutDuration := 900000000
  normalizeEmail := some
  verifyPassword := fun hash password => ⟨hash = password, false⟩
  digest := fun raw => raw

def user : IdentityUser where
  id := 1
  emailNormalized := "user"
  passwordHash := "password"
  status := .active
  passwordChangedAt := none
  failedLoginCount := 0
  lockedUntil := none

def draw (n : ℕ) (raw : String) : Draw where
  now := n
  later := n
  last := n
  sessionId := n
  familyId := n
  tokenId := n
  raw := raw
  passwordHash := ""
  organizationId := none
  requiresMfa := false

/-- A user logs in and refreshes once. -/
def requests : List (SessionService.Request × Draw) :=
  [(.register user, draw 0 ""), (.login "user" "password", draw 1 "first"),
    (.refresh "first", draw 2 "second")]

def empty : (sessions svc).Database := ⟨⟨[], [], []⟩, by decide⟩

def consumed (db : (sessions svc).Database) : Bool :=
  db.1.tokens.any fun t => t.tokenHash = "first" && t.consumedAt.isSome

end Replay

/-- Every database that the service reaches from one without tokens is safe. -/
theorem families_safe (svc : SessionService) (start db : (sessions svc).Database)
    (hstart : start.1.tokens = []) (h : (sessions svc).Reaches (sessions svc).Any start db) :
    FamilySafe svc db :=
  familySafe_of_inv (inv_of_reaches h (Tables.inv_of_no_tokens hstart))

/-- The first token is replayed after its rotation. -/
theorem families_safe_replayed : ∃ db : (sessions Replay.svc).Database,
    (sessions Replay.svc).Reaches (sessions Replay.svc).Any Replay.empty db ∧
      (((sessions Replay.svc).respond (.refresh "first", Replay.draw 3 "third") db).1 matches
        .error .refreshTokenReuse) ∧ FamilySafe Replay.svc db := by
  have hreach := Service.reaches_run Replay.requests Replay.empty
  refine ⟨_, hreach, by decide +kernel, families_safe Replay.svc Replay.empty _ rfl hreach⟩

end MaestroKernel.Auth
