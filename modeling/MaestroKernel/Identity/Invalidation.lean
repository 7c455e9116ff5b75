import MaestroKernel.Identity.Binding

/-! # A token that is no longer active

A resend and an account recovery write `invalidated_at`, a newer token of a recovery address writes
`consumed_at`, and a verification of a recovery address reads `consumed_at` only. -/

namespace MaestroKernel.Identity

open Auth (Uuid IdentityUserEmailAddress)
open Transaction Checked Services

/-- A token stays the same, save that it is consumed or invalidated. -/
structure Ages (token after : AuthActionToken) : Prop where
  id : after.id = token.id
  userId : after.userId = token.userId
  purpose : after.purpose = token.purpose
  tokenHash : after.tokenHash = token.tokenHash
  consumed : token.consumedAt.isSome = true → after.consumedAt.isSome = true
  invalidated : token.invalidatedAt.isSome = true → after.invalidatedAt.isSome = true

theorem Ages.refl (token : AuthActionToken) : Ages token token :=
  ⟨rfl, rfl, rfl, rfl, fun h => h, fun h => h⟩

theorem Ages.trans {a b c : AuthActionToken} (h : Ages a b) (h' : Ages b c) : Ages a c where
  id := h'.id.trans h.id
  userId := h'.userId.trans h.userId
  purpose := h'.purpose.trans h.purpose
  tokenHash := h'.tokenHash.trans h.tokenHash
  consumed := fun ha => h'.consumed (h.consumed ha)
  invalidated := fun ha => h'.invalidated (h.invalidated ha)

theorem ages_consume (at_ : ℤ) (token : AuthActionToken) :
    Ages token (Tables.consume at_ token) :=
  ⟨rfl, rfl, rfl, rfl, fun _ => rfl, fun h => h⟩

theorem ages_invalidate (at_ : ℤ) (token : AuthActionToken) :
    Ages token (Tables.invalidate at_ token) :=
  ⟨rfl, rfl, rfl, rfl, fun h => h, fun _ => rfl⟩

def Age (tokens tokens' : List AuthActionToken) : Prop :=
  ∀ token ∈ tokens, ∃ after ∈ tokens', Ages token after

section Age

variable {db db' : Tables} {tokens tokens' : List AuthActionToken} {token : AuthActionToken}

theorem Age.refl (tokens : List AuthActionToken) : Age tokens tokens :=
  fun token hmem => ⟨token, hmem, Ages.refl token⟩

theorem Age.append (h : Age tokens tokens') (token : AuthActionToken) :
    Age tokens (tokens' ++ [token]) := by
  intro t hmem
  obtain ⟨after, hafter, hages⟩ := h t hmem
  exact ⟨after, List.mem_append_left _ hafter, hages⟩

theorem age_update {selected : AuthActionToken → Bool} {f : AuthActionToken → AuthActionToken}
    (hf : ∀ token, Ages token (f token)) :
    Age db.actionTokens (db.updateTokens selected f).actionTokens := by
  intro token hmem
  refine ⟨_, List.mem_map_of_mem hmem, ?_⟩
  split
  · exact hf token
  · exact Ages.refl token

theorem age_put (hunique : (db.actionTokens.map fun t => t.id).Nodup)
    (hmem : token ∈ db.actionTokens) {after : AuthActionToken} (hages : Ages token after) :
    Age db.actionTokens (db.putToken after).actionTokens := by
  intro t ht
  by_cases hid : t.id = token.id
  · obtain rfl := List.inj_on_of_nodup_map hunique ht hmem hid
    exact ⟨after, Table.mem_put_self hmem hages.id, hages⟩
  · exact ⟨t, Table.mem_put_of_ne ht fun he => hid (he.trans hages.id), Ages.refl t⟩

theorem age_perform {svc : Services} {call : Call} {reply : Except IdentityError Reply}
    (hvalid : db.Valid) (h : perform svc call db = .ok (db', reply)) :
    Age db.actionTokens db'.actionTokens := by
  cases effect hvalid h with
  | quiet hnoted htokens haddresses =>
    rw [htokens]
    exact Age.refl _
  | opened token hnoted hpurpose htokens haddresses =>
    rw [htokens]
    exact (Age.refl _).append token
  | consumed at_ token hnoted hmem htokens haddresses =>
    rw [htokens]
    exact age_put hvalid.token_id hmem (ages_consume at_ token)
  | resent userId at_ token hnoted hpurpose htokens haddresses =>
    rw [htokens]
    exact (age_update (ages_invalidate at_)).append token
  | withdrawn userId at_ hnoted htokens haddresses =>
    rw [htokens]
    exact age_update (ages_consume at_)
  | issued address hpending htokens haddresses =>
    rw [htokens]
    exact (age_update (ages_consume _)).append _
  | replaced emailNormalized hdone hnormal htokens haddresses =>
    rw [htokens]
    exact Age.refl _
  | recovered userId hdone hrequest htokens haddresses =>
    rw [htokens]
    exact age_update (ages_invalidate _)

end Age

/-- Every token of a recovery address that is invalidated is consumed too. -/
def Plain (db : Tables) : Prop :=
  ∀ token ∈ db.actionTokens, token.purpose = verifyRecoveryEmail →
    token.invalidatedAt.isSome = true → token.consumedAt.isSome = true

/-- No account recovery completes for a user with an active token of a recovery address. -/
def unrecovered (svc : Services) (call : Call) (db : Tables) : Bool :=
  match perform svc call db with
  | .ok (_, .ok _) =>
    match call.1 with
    | .completeRecovery requestId _ => (db.recoveryRequest requestId).all fun request =>
      !db.actionTokens.any fun token =>
        Tables.isActiveOf request.userId token && token.purpose = verifyRecoveryEmail
    | _ => true
  | _ => true

section Plain

variable {svc : Services} {db db' : Tables} {call : Call}

theorem plain_update {selected : AuthActionToken → Bool} {f : AuthActionToken → AuthActionToken}
    (h : Plain db)
    (hf : ∀ token ∈ db.actionTokens, selected token = true →
      (f token).purpose = verifyRecoveryEmail → (f token).invalidatedAt.isSome = true →
        (f token).consumedAt.isSome = true) :
    Plain (db.updateTokens selected f) := by
  intro t hmem hpurpose hinvalidated
  rcases Tables.mem_updateTokens hmem with ⟨old, hold, hselected, rfl⟩ | ⟨hold, -⟩
  · exact hf old hold hselected hpurpose hinvalidated
  · exact h t hold hpurpose hinvalidated

theorem plain_append {token : AuthActionToken} (h : Plain db)
    (htokens : db'.actionTokens = db.actionTokens ++ [token])
    (hnew : token.purpose = verifyRecoveryEmail → token.invalidatedAt = none) : Plain db' := by
  intro t hmem hpurpose hinvalidated
  rw [htokens] at hmem
  rcases List.mem_append.mp hmem with hold | hlast
  · exact h t hold hpurpose hinvalidated
  · rw [List.mem_singleton.mp hlast] at hpurpose hinvalidated
    rw [hnew hpurpose] at hinvalidated
    cases hinvalidated

theorem Plain.congr (h : Plain db) (htokens : db'.actionTokens = db.actionTokens) : Plain db' := by
  intro t hmem
  rw [htokens] at hmem
  exact h t hmem

theorem plain_perform {reply : Except IdentityError Reply} (hvalid : db.Valid) (hplain : Plain db)
    (hok : unrecovered svc call db = true) (h : perform svc call db = .ok (db', reply)) :
    Plain db' := by
  cases effect hvalid h with
  | quiet hnoted htokens haddresses => exact hplain.congr htokens
  | opened token hnoted hpurpose htokens haddresses =>
    refine plain_append hplain htokens ?_
    intro hother
    exact absurd (hpurpose.symm.trans hother) (by decide)
  | consumed at_ token hnoted hmem htokens haddresses =>
    refine Plain.congr ?_ htokens
    intro t ht hpurpose hinvalidated
    rcases Table.mem_put_cases ht with rfl | ⟨hold, -⟩
    · rfl
    · exact hplain t hold hpurpose hinvalidated
  | resent userId at_ token hnoted hpurpose htokens haddresses =>
    refine plain_append (plain_update hplain ?_) htokens ?_
    · intro old _ hselected hold
      have hprimary : old.purpose = verifyEmail := by
        simp only [Tables.isActiveVerification, Bool.and_eq_true, decide_eq_true_eq] at hselected
        exact hselected.1.2
      exact absurd (hprimary.symm.trans hold) (by decide)
    · intro hother
      exact absurd (hpurpose.symm.trans hother) (by decide)
  | withdrawn userId at_ hnoted htokens haddresses =>
    exact (plain_update hplain fun _ _ _ _ _ => rfl).congr htokens
  | issued address hpending htokens haddresses =>
    exact plain_append (plain_update hplain fun _ _ _ _ _ => rfl) htokens fun _ => rfl
  | replaced emailNormalized hdone hnormal htokens haddresses => exact hplain.congr htokens
  | @recovered requestId raw draw userId hdone hrequest htokens haddresses =>
    obtain ⟨r, hdone⟩ := hdone
    obtain ⟨request, hfound, rfl⟩ := hrequest
    refine (plain_update hplain ?_).congr htokens
    intro old hold hselected hpurpose _
    simp only [unrecovered, hdone, hfound, Option.all_some, Bool.not_eq_true',
      List.any_eq_false] at hok
    exact absurd (Bool.and_eq_true_iff.mpr ⟨hselected, decide_eq_true hpurpose⟩) (hok old hold)

end Plain

/-! ## Every run -/

/-- What the calls are checked against. -/
def Unrecovered (svc : Services) (call : Call) (w : (identities svc).Database) : Prop :=
  unrecovered svc call w.1.db = true

instance (svc : Services) (call : Call) (w : (identities svc).Database) :
    Decidable (Unrecovered svc call w) :=
  inferInstanceAs (Decidable (_ = true))

variable {svc : Services} {start mid final : (identities svc).Database}

theorem age_reaches {ok : Call → (identities svc).Database → Prop}
    (h : (identities svc).Reaches ok start mid) :
    Age start.1.db.actionTokens mid.1.db.actionTokens := by
  apply h.invariant (P := fun w => Age start.1.db.actionTokens w.db.actionTokens) (Age.refl _)
  intro call w w' reply _ ih hwork _ token hmem
  obtain ⟨db', hperform, rfl⟩ := work_eq_commit.mp hwork
  obtain ⟨between, hbetween, hages⟩ := ih token hmem
  obtain ⟨after, hafter, hages'⟩ := age_perform w.2 hperform between hbetween
  exact ⟨after, hafter, hages.trans hages'⟩

theorem plain_reaches (hstart : Plain start.1.db)
    (h : (identities svc).Reaches (Unrecovered svc) start mid) : Plain mid.1.db := by
  apply h.invariant (P := fun w => Plain w.db) hstart
  intro call w w' reply hok ih hwork _
  obtain ⟨db', hperform, rfl⟩ := work_eq_commit.mp hwork
  exact plain_perform w.2 ih hok hperform

/-- The token has been consumed or invalidated. -/
def Dead (token : AuthActionToken) : Prop :=
  token.consumedAt.isSome = true ∨ token.invalidatedAt.isSome = true

instance (token : AuthActionToken) : Decidable (Dead token) := inferInstanceAs (Decidable (_ ∨ _))

/-- A call with the token: it changes nothing, and for a recovery address it is refused. -/
def Useless (svc : Services) (token : AuthActionToken) (w : (identities svc).Database) : Prop :=
  ∀ raw draw, svc.digest raw token.purpose = some token.tokenHash →
    (token.purpose = verifyRecoveryEmail →
      (identities svc).respond (.verify raw, draw) w = (.error verificationUnavailable, w)) ∧
    (token.purpose = verifyEmail →
      (identities svc).respond (.verifyPrimary raw, draw) w = (.ok .processed, w))

theorem token_of_mem {db : Tables} {token : AuthActionToken} (hvalid : db.Valid)
    (hmem : token ∈ db.actionTokens) : db.token token.purpose token.tokenHash = some token := by
  cases hfound : db.token token.purpose token.tokenHash with
  | none => exact absurd (List.find?_eq_none.mp hfound token hmem) (by simp)
  | some found =>
    obtain ⟨hfound, hhash, -⟩ := Tables.mem_of_token hfound
    rw [List.inj_on_of_nodup_map hvalid.token_hash hfound hmem hhash]

theorem verify_refused {w : (identities svc).Database} {token : AuthActionToken} {raw : String}
    {draw : Draw} (hmem : token ∈ w.1.db.actionTokens)
    (hdigest : svc.digest raw verifyRecoveryEmail = some token.tokenHash)
    (hpurpose : token.purpose = verifyRecoveryEmail) (hconsumed : token.consumedAt.isSome = true) :
    (identities svc).respond (.verify raw, draw) w = (.error verificationUnavailable, w) := by
  apply Service.respond_of_rollback
  apply work_eq_rollback.mpr
  have htoken : w.1.db.token verifyRecoveryEmail token.tokenHash = some token := by
    have hfound := token_of_mem w.2 hmem
    rwa [hpurpose] at hfound
  simp only [perform, verify, hdigest, demand_some_bind]
  cases haddress : w.1.db.recoveryEmail token.userId with
  | none =>
    have hnone : w.1.db.recoveryPrincipals token.tokenHash = none := by
      simp [Tables.recoveryPrincipals, htoken, haddress]
    rw [hnone, demand_none_bind]
  | some address =>
    have hsome : w.1.db.recoveryPrincipals token.tokenHash = some (token, address) := by
      simp [Tables.recoveryPrincipals, htoken, haddress]
    rw [hsome, demand_some_bind]
    exact raiseIf_bind_of_pos (.inl hconsumed) _ _

theorem verifyPrimary_idle {w : (identities svc).Database} {token : AuthActionToken} {raw : String}
    {draw : Draw} (hmem : token ∈ w.1.db.actionTokens)
    (hdigest : svc.digest raw verifyEmail = some token.tokenHash)
    (hpurpose : token.purpose = verifyEmail) (hdead : Dead token) :
    (identities svc).respond (.verifyPrimary raw, draw) w = (.ok .processed, w) := by
  have hperform : perform svc (.verifyPrimary raw, draw) w.1.db = .ok (w.1.db, .ok .processed) := by
    have htoken : w.1.db.token verifyEmail token.tokenHash = some token := by
      have hfound := token_of_mem w.2 hmem
      rwa [hpurpose] at hfound
    simp only [perform, verifyPrimary, hdigest, demand_some_bind]
    cases huser : w.1.db.users.find? fun user => user.id = token.userId with
    | none =>
      have hnone : w.1.db.emailPrincipals token.tokenHash = none := by
        simp only [Tables.emailPrincipals, htoken, Option.bind_some, huser, Option.map_none]
      rw [hnone]
      rfl
    | some user =>
      have hsome : w.1.db.emailPrincipals token.tokenHash = some (token, user) := by
        simp only [Tables.emailPrincipals, htoken, Option.bind_some, huser, Option.map_some]
      have hclosed : token.consumedAt.isSome = true ∨ token.invalidatedAt.isSome = true ∨
          token.expiresAt ≤ draw.now ∨
            (user.status ≠ .pendingVerification ∧ user.status ≠ .active) := by
        rcases hdead with h | h
        · exact .inl h
        · exact .inr (.inl h)
      rw [hsome]
      dsimp only
      rw [if_pos hclosed]
      rfl
  have hsame : (⟨w.1.db, w.1.issues ++ noted (.verifyPrimary raw, draw) w.1.db⟩ : World) = w.1 := by
    simp [noted]
  have hwork : work svc (.verifyPrimary raw, draw) w.1 = .commit w.1 (.ok .processed) :=
    work_eq_commit.mpr ⟨w.1.db, hperform, hsame.symm⟩
  exact Service.respond_of_commit hwork w.2

/-- As long as no account is recovered whose user has an active token of a recovery address, no
call verifies anything with a token after it has been consumed or invalidated. -/
theorem dead_token_useless (svc : Services) {start mid final : (identities svc).Database}
    (hstart : Plain start.1.db) (hmid : (identities svc).Reaches (Unrecovered svc) start mid)
    (hfinal : (identities svc).Reaches (Unrecovered svc) mid final) {token : AuthActionToken}
    (hmem : token ∈ mid.1.db.actionTokens) (hdead : Dead token) : Useless svc token final := by
  intro raw draw hdigest
  obtain ⟨after, hafter, hages⟩ := age_reaches hfinal token hmem
  rw [← hages.tokenHash, ← hages.purpose] at hdigest
  rw [← hages.purpose]
  constructor
  · intro hpurpose
    rw [hpurpose] at hdigest
    have hconsumed : after.consumedAt.isSome = true := by
      rcases hdead with hconsumed | hinvalidated
      · exact hages.consumed hconsumed
      · exact plain_reaches hstart (hmid.trans hfinal) after hafter hpurpose
          (hages.invalidated hinvalidated)
    exact verify_refused hafter hdigest hpurpose hconsumed
  · intro hpurpose
    rw [hpurpose] at hdigest
    have hclosed : Dead after := hdead.imp hages.consumed hages.invalidated
    exact verifyPrimary_idle hafter hdigest hpurpose hclosed

namespace Sample

/-- A second token for the address, which consumes the first one. -/
def reissued : List Call := issued ++ [(.issue 1 true, draw 3)]

def afterReissued : (identities services).Database := (identities services).run reissued database

def firstToken : AuthActionToken :=
  { services.newToken (draw 2) 1 verifyRecoveryEmail (2 * second + services.recoveryEmailTtl)
      (2 * second) with consumedAt := some (3 * second) }

/-- The next calls are an invalidation and a revocation of the address. -/
def later : List Call := [(.invalidateForUser 1 true, draw 4), (.revoke 1 true, draw 5)]

theorem reissued_first_useless :
    firstToken ∈ afterReissued.1.db.actionTokens ∧
      Useless services firstToken ((identities services).run later afterReissued) := by
  have hmem : firstToken ∈ afterReissued.1.db.actionTokens := by decide +kernel
  exact ⟨hmem, dead_token_useless services (fun token h hpurpose =>
      absurd hpurpose (database_without_tokens token h))
    (Service.reaches_of_along reissued database (by decide +kernel))
    (Service.reaches_of_along later afterReissued (by decide +kernel)) hmem (by decide)⟩

/-- The account is recovered over its verified address, while a token for a new address is out. -/
def recovered : List Call :=
  [(.setPending 1 "first@example.org" true, draw 1), (.issue 1 true, draw 2),
    (.verify (draw 2).raw, draw 3), (.startRecovery "admin@example.org", draw 4),
    (.setPending 1 "second@example.org" true, draw 5), (.issue 1 true, draw 6),
    (.verifyRecovery 4 (draw 4).raw, draw 7), (.completeRecovery 4 (draw 7).raw, draw 8)]

def afterRecovered : (identities services).Database := (identities services).run recovered database

def invalidatedToken : AuthActionToken :=
  { services.newToken (draw 6) 1 verifyRecoveryEmail (6 * second + services.recoveryEmailTtl)
      (6 * second) with invalidatedAt := some (8 * second) }

/-- The recovery has invalidated the token, and the new address is verified with it. -/
theorem recovered_token_verifies :
    (identities services).Reaches (identities services).Any database afterRecovered ∧
      invalidatedToken ∈ afterRecovered.1.db.actionTokens ∧ Dead invalidatedToken ∧
      ¬ Useless services invalidatedToken afterRecovered := by
  refine ⟨Service.reaches_run recovered database, by decide +kernel, by decide, ?_⟩
  intro h
  have hrefused := (h (draw 6).raw (draw 9) (by decide +kernel)).1 rfl
  have hverified : ((identities services).respond (.verify (draw 6).raw, draw 9) afterRecovered).1 =
      .ok (.recoveryEmail ⟨1, "second@example.org", .verified⟩) := by
    decide +kernel
  rw [hrefused] at hverified
  cases hverified

end Sample

end MaestroKernel.Identity
