import MaestroKernel.Identity.Services

/-! # What a call does to tokens and addresses

Each committed call has one of a few effects on the tokens and on the recovery addresses, and what
the runs keep is proved by cases of these. -/

namespace MaestroKernel.Identity

open Auth (Uuid IdentityUserEmailAddress)
open Checked Services

def binding (address : IdentityUserEmailAddress) : Uuid × String :=
  (address.userId, address.emailNormalized)

/-- Everybody keeps the recovery address. -/
def KeepsAddresses (db db' : Tables) : Prop :=
  db'.emailAddresses.map binding = db.emailAddresses.map binding

inductive Effect (svc : Services) (db db' : Tables) : Call → Prop where
  | quiet {call} (hnoted : noted call db = []) (htokens : db'.actionTokens = db.actionTokens)
      (haddresses : KeepsAddresses db db') : Effect svc db db' call
  | opened {call} (token : AuthActionToken) (hnoted : noted call db = [])
      (hpurpose : token.purpose = verifyEmail)
      (htokens : db'.actionTokens = db.actionTokens ++ [token])
      (haddresses : KeepsAddresses db db') : Effect svc db db' call
  | consumed {call} (at_ : ℤ) (token : AuthActionToken) (hnoted : noted call db = [])
      (hmem : token ∈ db.actionTokens)
      (htokens : db'.actionTokens = (db.putToken (Tables.consume at_ token)).actionTokens)
      (haddresses : KeepsAddresses db db') : Effect svc db db' call
  | resent {call} (userId : Uuid) (at_ : ℤ) (token : AuthActionToken) (hnoted : noted call db = [])
      (hpurpose : token.purpose = verifyEmail)
      (htokens : db'.actionTokens = (db.updateTokens (Tables.isActiveVerification userId)
        (Tables.invalidate at_)).actionTokens ++ [token])
      (haddresses : KeepsAddresses db db') : Effect svc db db' call
  | issued {actor : Uuid} {stepUp : Bool} {draw : Draw} (address : IdentityUserEmailAddress)
      (hpending : db.pendingRecoveryEmail actor = some address)
      (htokens : db'.actionTokens = (db.updateTokens (Tables.isOutstanding actor)
        (Tables.consume draw.now)).actionTokens ++
          [svc.newToken draw actor verifyRecoveryEmail (draw.now + svc.recoveryEmailTtl) draw.now])
      (haddresses : db'.emailAddresses = db.emailAddresses) :
      Effect svc db db' (.issue actor stepUp, draw)
  | withdrawn {call} (userId : Uuid) (at_ : ℤ) (hnoted : noted call db = [])
      (htokens : db'.actionTokens = (db.updateTokens (Tables.isOutstanding userId)
        (Tables.consume at_)).actionTokens)
      (haddresses : KeepsAddresses db db') : Effect svc db db' call
  | replaced {actor : Uuid} {email : String} {stepUp : Bool} {draw : Draw} (emailNormalized : String)
      (hdone : ∃ r, perform svc (.setPending actor email stepUp, draw) db = .ok (db', .ok r))
      (hnormal : svc.normalizeEmail email = some emailNormalized)
      (htokens : db'.actionTokens = db.actionTokens)
      (haddresses : ∀ a' ∈ db'.emailAddresses, a'.userId = actor ∧ a'.emailNormalized = emailNormalized ∨
        a' ∈ db.emailAddresses ∧ a'.userId ≠ actor) :
      Effect svc db db' (.setPending actor email stepUp, draw)
  | recovered {requestId : Uuid} {raw : String} {draw : Draw} (userId : Uuid)
      (hdone : ∃ r, perform svc (.completeRecovery requestId raw, draw) db = .ok (db', .ok r))
      (hrequest : ∃ request, db.recoveryRequest requestId = some request ∧ request.userId = userId)
      (htokens : db'.actionTokens = (db.updateTokens (Tables.isActiveOf userId)
        (Tables.invalidate draw.now)).actionTokens)
      (haddresses : db'.emailAddresses = db.emailAddresses) :
      Effect svc db db' (.completeRecovery requestId raw, draw)

theorem KeepsAddresses.refl (db : Tables) : KeepsAddresses db db := rfl

theorem KeepsAddresses.put {db : Tables} {address current : IdentityUserEmailAddress}
    (hunique : (db.emailAddresses.map IdentityUserEmailAddress.id).Nodup)
    (hmem : current ∈ db.emailAddresses) (hid : address.id = current.id)
    (hbinding : binding address = binding current) : KeepsAddresses db (db.putAddress address) :=
  Table.map_put_of_agree hunique hmem hid hbinding

theorem Tables.mem_of_recoveryEmail {db : Tables} {userId : Uuid}
    {address : IdentityUserEmailAddress} (h : db.recoveryEmail userId = some address) :
    address ∈ db.emailAddresses ∧ address.userId = userId :=
  ⟨List.mem_of_find?_eq_some h, by simpa using List.find?_some h⟩

theorem Tables.mem_of_token {db : Tables} {purpose tokenHash : String} {token : AuthActionToken}
    (h : db.token purpose tokenHash = some token) :
    token ∈ db.actionTokens ∧ token.tokenHash = tokenHash ∧ token.purpose = purpose :=
  ⟨List.mem_of_find?_eq_some h, by simpa using List.find?_some h⟩

theorem Tables.mem_of_recoveryPrincipals {db : Tables} {tokenHash : String}
    {token : AuthActionToken} {address : IdentityUserEmailAddress}
    (h : db.recoveryPrincipals tokenHash = some (token, address)) :
    db.token verifyRecoveryEmail tokenHash = some token ∧
      db.recoveryEmail token.userId = some address := by
  obtain ⟨t, ht, h⟩ := Option.bind_eq_some_iff.mp h
  obtain ⟨a, ha, heq⟩ := Option.map_eq_some_iff.mp h
  cases heq
  exact ⟨ht, ha⟩

theorem Tables.token_of_emailPrincipals {db : Tables} {tokenHash : String}
    {token : AuthActionToken} {user : IdentityUser}
    (h : db.emailPrincipals tokenHash = some (token, user)) :
    db.token verifyEmail tokenHash = some token := by
  obtain ⟨t, ht, h⟩ := Option.bind_eq_some_iff.mp h
  obtain ⟨u, hu, heq⟩ := Option.map_eq_some_iff.mp h
  cases heq
  exact ht

section Effects

variable {svc : Services} {db db' : Tables} {draw : Draw} {reply : Except IdentityError Reply}

theorem register_effect {email passwordHash : String} {plan : Option (String × Option String)}
    (h : svc.register email passwordHash plan draw db = .ok (db', reply)) :
    Effect svc db db' (.register email passwordHash plan, draw) := by
  simp only [register, demand_bind_ok] at h
  obtain ⟨emailNormalized, -, h⟩ := h
  split at h
  · cases h
    exact .quiet rfl rfl (KeepsAddresses.refl _)
  · cases h
    exact .opened _ rfl rfl rfl (KeepsAddresses.refl _)

theorem verifyPrimary_effect {raw : String}
    (h : svc.verifyPrimary raw draw db = .ok (db', reply)) :
    Effect svc db db' (.verifyPrimary raw, draw) := by
  simp only [verifyPrimary, demand_bind_ok] at h
  obtain ⟨tokenHash, -, h⟩ := h
  split at h
  · cases h
    exact .quiet rfl rfl (KeepsAddresses.refl _)
  · rename_i token user hprincipals
    have hmem := (Tables.mem_of_token (Tables.token_of_emailPrincipals hprincipals)).1
    split at h
    · cases h
      exact .quiet rfl rfl (KeepsAddresses.refl _)
    · cases h
      refine .consumed draw.now token rfl hmem ?_ ?_
      · split <;> rfl
      · unfold KeepsAddresses
        split <;> rfl

theorem resend_effect {email : String} (h : svc.resend email draw db = .ok (db', reply)) :
    Effect svc db db' (.resend email, draw) := by
  simp only [resend, demand_bind_ok] at h
  obtain ⟨emailNormalized, -, h⟩ := h
  split at h
  · cases h
    exact .quiet rfl rfl (KeepsAddresses.refl _)
  · rename_i user _
    split at h
    · cases h
      exact .quiet rfl rfl (KeepsAddresses.refl _)
    · cases h
      exact .resent user.id draw.now _ rfl rfl rfl (KeepsAddresses.refl _)

theorem issue_effect {actor : Uuid} {stepUp : Bool}
    (h : svc.issue actor stepUp draw db = .ok (db', reply)) :
    Effect svc db db' (.issue actor stepUp, draw) := by
  simp only [issue, raiseIf_bind_ok, demand_bind_ok] at h
  obtain ⟨-, _, -, address, hpending, h⟩ := h
  cases h
  exact .issued address hpending rfl rfl

theorem verify_ok {raw : String} : svc.verify raw draw db = .ok (db', reply) ↔
    ∃ token address, (svc.digest raw verifyRecoveryEmail).bind (db.token verifyRecoveryEmail) =
        some token ∧ db.recoveryEmail token.userId = some address ∧
      token.consumedAt = none ∧ draw.now < token.expiresAt ∧ address.status = .pending ∧
      address.revokedAt = none ∧
      db' = (db.putToken (Tables.consume draw.now token)).putAddress { address with
        status := .verified, verifiedAt := some draw.now, revokedAt := none } ∧
      reply = .ok (.recoveryEmail ⟨address.userId, address.emailNormalized, .verified⟩) := by
  simp only [verify, raiseIf_bind_ok, demand_bind_ok]
  constructor
  · rintro ⟨tokenHash, hdigest, ⟨token, address⟩, hprincipals, hchecks, h⟩
    obtain ⟨htoken, haddress⟩ := Tables.mem_of_recoveryPrincipals hprincipals
    simp only [not_or, Option.not_isSome_iff_eq_none, not_le, not_not] at hchecks
    cases h
    exact ⟨token, address, by rw [hdigest, Option.bind_some, htoken], haddress, hchecks.1,
      hchecks.2.1, hchecks.2.2.1, hchecks.2.2.2, rfl, rfl⟩
  · rintro ⟨token, address, htoken, haddress, hconsumed, hexpires, hstatus, hrevoked, rfl, rfl⟩
    obtain ⟨tokenHash, hdigest, htoken⟩ := Option.bind_eq_some_iff.mp htoken
    refine ⟨tokenHash, hdigest, (token, address), ?_, ?_, rfl⟩
    · simp [Tables.recoveryPrincipals, htoken, haddress]
    · simp [hconsumed, hstatus, hrevoked, hexpires]

theorem verify_effect {raw : String} (hvalid : db.Valid)
    (h : svc.verify raw draw db = .ok (db', reply)) : Effect svc db db' (.verify raw, draw) := by
  obtain ⟨token, address, htoken, haddress, -, -, -, -, rfl, -⟩ := verify_ok.mp h
  obtain ⟨tokenHash, -, htoken⟩ := Option.bind_eq_some_iff.mp htoken
  refine .consumed draw.now token rfl (Tables.mem_of_token htoken).1 rfl ?_
  have hunique : ((db.putToken { token with consumedAt := some draw.now }).emailAddresses.map
      IdentityUserEmailAddress.id).Nodup := hvalid.address_id
  exact KeepsAddresses.put hunique (Tables.mem_of_recoveryEmail haddress).1 rfl rfl

theorem invalidateForUser_effect {actor : Uuid} {stepUp : Bool}
    (h : invalidateForUser actor stepUp draw db = .ok (db', reply)) :
    Effect svc db db' (.invalidateForUser actor stepUp, draw) := by
  simp only [invalidateForUser, raiseIf_bind_ok, demand_bind_ok] at h
  obtain ⟨-, _, -, h⟩ := h
  cases h
  exact .withdrawn actor draw.now rfl rfl (KeepsAddresses.refl _)

theorem setPending_effect {actor : Uuid} {email : String} {stepUp : Bool} (hvalid : db.Valid)
    (h : svc.setPending actor email stepUp draw db = .ok (db', reply)) :
    Effect svc db db' (.setPending actor email stepUp, draw) := by
  have hdone := h
  simp only [setPending, raiseIf_bind_ok, demand_bind_ok] at h
  obtain ⟨-, emailNormalized, hnormal, _, -, -, -, h⟩ := h
  split at h
  · rename_i hnone
    cases h
    refine .replaced emailNormalized ⟨_, hdone⟩ hnormal rfl ?_
    intro a' hmem
    rcases List.mem_append.mp hmem with hold | hnew
    · refine .inr ⟨hold, ?_⟩
      simpa using List.find?_eq_none.mp hnone a' hold
    · rw [List.mem_singleton.mp hnew]
      exact .inl ⟨rfl, rfl⟩
  · rename_i current hcurrent
    obtain ⟨hmem, huser⟩ := Tables.mem_of_recoveryEmail hcurrent
    cases h
    refine .replaced emailNormalized ⟨_, hdone⟩ hnormal rfl ?_
    intro a' hmem'
    rcases Table.mem_put_cases hmem' with rfl | ⟨hold, hne⟩
    · exact .inl ⟨huser, rfl⟩
    · refine .inr ⟨hold, ?_⟩
      intro hsame
      apply hne
      rw [List.inj_on_of_nodup_map hvalid.address_user hold hmem (hsame.trans huser.symm)]

theorem markVerified_effect {actor : Uuid} {email : String} (hvalid : db.Valid)
    (h : svc.markVerified actor email draw db = .ok (db', reply)) :
    Effect svc db db' (.markVerified actor email, draw) := by
  simp only [markVerified, raiseIf_bind_ok, demand_bind_ok] at h
  obtain ⟨_, -, _, -, current, hcurrent, -, h⟩ := h
  cases h
  exact .quiet rfl rfl
    (KeepsAddresses.put hvalid.address_id (Tables.mem_of_recoveryEmail hcurrent).1 rfl rfl)

theorem revoke_effect {actor : Uuid} {stepUp : Bool} (hvalid : db.Valid)
    (h : revoke actor stepUp draw db = .ok (db', reply)) :
    Effect svc db db' (.revoke actor stepUp, draw) := by
  simp only [revoke, raiseIf_bind_ok, demand_bind_ok] at h
  obtain ⟨-, _, -, current, hcurrent, -, h⟩ := h
  cases h
  exact .quiet rfl rfl
    (KeepsAddresses.put hvalid.address_id (Tables.mem_of_recoveryEmail hcurrent).1 rfl rfl)

theorem startRecovery_effect {login : String}
    (h : svc.startRecovery login draw db = .ok (db', reply)) :
    Effect svc db db' (.startRecovery login, draw) := by
  simp only [startRecovery, bind_ok] at h
  obtain ⟨_, -, _, -, found, -, h⟩ := h
  split at h
  · cases h
    exact .quiet rfl rfl (KeepsAddresses.refl _)
  · cases h
    exact .quiet rfl rfl (KeepsAddresses.refl _)

theorem verifyRecovery_effect {requestId : Uuid} {raw : String}
    (h : svc.verifyRecovery requestId raw draw db = .ok (db', reply)) :
    Effect svc db db' (.verifyRecovery requestId raw, draw) := by
  simp only [verifyRecovery, raiseIf_bind_ok, demand_bind_ok] at h
  obtain ⟨_, -, request, -, -, h⟩ := h
  split at h
  · cases h
    exact .quiet rfl rfl (KeepsAddresses.refl _)
  · split at h
    · cases h
      exact .quiet rfl rfl (KeepsAddresses.refl _)
    · cases h
      exact .quiet rfl rfl (KeepsAddresses.refl _)

theorem completeRecovery_effect {requestId : Uuid} {raw : String}
    (h : svc.completeRecovery requestId raw draw db = .ok (db', reply)) :
    Effect svc db db' (.completeRecovery requestId raw, draw) := by
  have hdone := h
  simp only [completeRecovery, raiseIf_bind_ok, demand_bind_ok] at h
  obtain ⟨_, -, _, -, request, hrequest, -, h⟩ := h
  split at h
  · cases h
    exact .quiet rfl rfl (KeepsAddresses.refl _)
  · simp only [raiseIf_bind_ok, demand_bind_ok] at h
    obtain ⟨-, user, huser, -, -, h⟩ := h
    have hid : user.id = request.userId := by simpa using List.find?_some huser
    cases h
    exact .recovered user.id ⟨_, hdone⟩ ⟨request, hrequest, hid.symm⟩ rfl rfl

theorem effect {call : Call} (hvalid : db.Valid) (h : perform svc call db = .ok (db', reply)) :
    Effect svc db db' call := by
  obtain ⟨request, draw⟩ := call
  cases request with
  | register => exact register_effect h
  | verifyPrimary => exact verifyPrimary_effect h
  | resend => exact resend_effect h
  | issue => exact issue_effect h
  | verify => exact verify_effect hvalid h
  | invalidateForUser => exact invalidateForUser_effect h
  | setPending => exact setPending_effect hvalid h
  | markVerified => exact markVerified_effect hvalid h
  | revoke => exact revoke_effect hvalid h
  | startRecovery => exact startRecovery_effect h
  | verifyRecovery => exact verifyRecovery_effect h
  | completeRecovery => exact completeRecovery_effect h
  | administer users authorities =>
    cases h
    exact .quiet rfl rfl (KeepsAddresses.refl _)

end Effects

end MaestroKernel.Identity
