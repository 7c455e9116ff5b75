import MaestroKernel.Identity.Effects

/-! # A recovery address is verified by its own token

A verification looks up the recovery address of the user of the token, whatever address the user
had when the token was issued. What ties the two together is that nothing replaces the address
while a token of the user can still be consumed. -/

namespace MaestroKernel.Identity

open Auth (Uuid IdentityUserEmailAddress)
open Transaction Checked Services

/-- The last token that was issued for a user. -/
def newest (issues : List Issue) (userId : Uuid) : Option Issue :=
  (issues.filter fun issue => issue.userId = userId).getLast?

/-- A token of a recovery address that is not consumed is the newest of its user, and the user
still has the address that it was issued for. -/
def Bound (w : World) : Prop :=
  ∀ token ∈ w.db.actionTokens, token.purpose = verifyRecoveryEmail → token.consumedAt = none →
    token.invalidatedAt = none ∧ ∃ address,
      newest w.issues token.userId = some ⟨token.id, token.userId, address⟩ ∧
      ∀ pair ∈ w.db.emailAddresses.map binding, pair.1 = token.userId → pair.2 = address

section Tokens

variable {db : Tables} {userId : Uuid} {token t : AuthActionToken}
  {selected : AuthActionToken → Bool} {f : AuthActionToken → AuthActionToken}

theorem Tables.mem_updateTokens (h : t ∈ (db.updateTokens selected f).actionTokens) :
    (∃ old ∈ db.actionTokens, selected old = true ∧ t = f old) ∨
      t ∈ db.actionTokens ∧ selected t = false := by
  obtain ⟨old, hold, rfl⟩ := List.mem_map.mp h
  by_cases hselected : selected old = true
  · rw [if_pos hselected]
    exact .inl ⟨old, hold, hselected, rfl⟩
  · rw [if_neg hselected]
    exact .inr ⟨hold, by simpa using hselected⟩

theorem isOutstanding_iff : Tables.isOutstanding userId token = true ↔
    token.userId = userId ∧ token.purpose = verifyRecoveryEmail ∧ token.consumedAt = none := by
  simp [Tables.isOutstanding, and_assoc]

end Tokens

/-- No token of a recovery address that can be consumed comes up. -/
def NoNewTokens (tokens tokens' : List AuthActionToken) : Prop :=
  ∀ token ∈ tokens', token.purpose = verifyRecoveryEmail → token.consumedAt = none →
    token ∈ tokens

section Kept

variable {db db' : Tables} {tokens tokens' : List AuthActionToken} {issues : List Issue}

theorem NoNewTokens.append (h : NoNewTokens tokens tokens') {token : AuthActionToken}
    (hpurpose : token.purpose = verifyEmail) : NoNewTokens tokens (tokens' ++ [token]) := by
  intro t hmem ht hconsumed
  rcases List.mem_append.mp hmem with hold | hnew
  · exact h t hold ht hconsumed
  · rw [List.mem_singleton.mp hnew, hpurpose] at ht
    exact absurd ht (by decide)

theorem noNewTokens_update {selected : AuthActionToken → Bool}
    {f : AuthActionToken → AuthActionToken}
    (h : ∀ token ∈ db.actionTokens, selected token = true →
      (f token).purpose = verifyRecoveryEmail → (f token).consumedAt ≠ none) :
    NoNewTokens db.actionTokens (db.updateTokens selected f).actionTokens := by
  intro t hmem hpurpose hconsumed
  rcases Tables.mem_updateTokens hmem with ⟨old, hold, hselected, rfl⟩ | ⟨hold, -⟩
  · exact absurd hconsumed (h old hold hselected hpurpose)
  · exact hold

theorem noNewTokens_put {token : AuthActionToken} (at_ : ℤ) :
    NoNewTokens db.actionTokens (db.putToken (Tables.consume at_ token)).actionTokens := by
  intro t hmem _ hconsumed
  rcases Table.mem_put_cases hmem with rfl | ⟨hold, -⟩
  · cases hconsumed
  · exact hold

theorem Bound.keep (h : Bound ⟨db, issues⟩) (htokens : NoNewTokens db.actionTokens db'.actionTokens)
    (haddresses : KeepsAddresses db db') : Bound ⟨db', issues ++ []⟩ := by
  intro token hmem hpurpose hconsumed
  obtain ⟨hinvalidated, address, hnewest, hpairs⟩ :=
    h token (htokens token hmem hpurpose hconsumed) hpurpose hconsumed
  rw [List.append_nil]
  refine ⟨hinvalidated, address, hnewest, ?_⟩
  rw [haddresses]
  exact hpairs

theorem newest_append_self (issue : Issue) :
    newest (issues ++ [issue]) issue.userId = some issue := by
  simp [newest]

theorem newest_append_of_ne {issue : Issue} {userId : Uuid} (h : issue.userId ≠ userId) :
    newest (issues ++ [issue]) userId = newest issues userId := by
  simp [newest, List.filter_append, h]

theorem Tables.mem_of_pending {userId : Uuid} {address : IdentityUserEmailAddress}
    (h : db.pendingRecoveryEmail userId = some address) :
    address ∈ db.emailAddresses ∧ address.userId = userId := by
  have hfound : address.userId = userId ∧ address.status = .pending := by
    simpa using List.find?_some h
  exact ⟨List.mem_of_find?_eq_some h, hfound.1⟩

theorem Bound.issue {svc : Services} {actor : Uuid} {draw : Draw}
    {address : IdentityUserEmailAddress} (hvalid : db.Valid) (h : Bound ⟨db, issues⟩)
    (hpending : db.pendingRecoveryEmail actor = some address)
    (htokens : db'.actionTokens = (db.updateTokens (Tables.isOutstanding actor)
      (Tables.consume draw.now)).actionTokens ++
        [svc.newToken draw actor verifyRecoveryEmail (draw.now + svc.recoveryEmailTtl) draw.now])
    (haddresses : db'.emailAddresses = db.emailAddresses) :
    Bound ⟨db', issues ++ [⟨draw.actionTokenId, actor, address.emailNormalized⟩]⟩ := by
  obtain ⟨hmem, huser⟩ := Tables.mem_of_pending hpending
  intro token htoken hpurpose hconsumed
  dsimp only at htoken
  rw [htokens] at htoken
  rcases List.mem_append.mp htoken with hold | hnew
  · rcases Tables.mem_updateTokens hold with ⟨old, -, -, rfl⟩ | ⟨hold, hother⟩
    · cases hconsumed
    · obtain ⟨hinvalidated, bound, hnewest, hpairs⟩ := h token hold hpurpose hconsumed
      have hne : actor ≠ token.userId := by
        intro hsame
        have : Tables.isOutstanding actor token = true :=
          isOutstanding_iff.mpr ⟨hsame.symm, hpurpose, hconsumed⟩
        rw [hother] at this
        cases this
      refine ⟨hinvalidated, bound, ?_, ?_⟩
      · rw [newest_append_of_ne hne]
        exact hnewest
      · rw [haddresses]
        exact hpairs
  · rw [List.mem_singleton.mp hnew]
    refine ⟨rfl, address.emailNormalized, newest_append_self _, ?_⟩
    intro pair hpair hsame
    dsimp only at hpair
    rw [haddresses] at hpair
    obtain ⟨a, ha, rfl⟩ := List.mem_map.mp hpair
    -- a user has one recovery address
    rw [List.inj_on_of_nodup_map hvalid.address_user ha hmem (hsame.trans huser.symm)]
    rfl

theorem Bound.replace {actor : Uuid} {emailNormalized : String} (h : Bound ⟨db, issues⟩)
    (htokens : db'.actionTokens = db.actionTokens)
    (haddresses : ∀ a' ∈ db'.emailAddresses,
      a'.userId = actor ∧ a'.emailNormalized = emailNormalized ∨
        a' ∈ db.emailAddresses ∧ a'.userId ≠ actor)
    (hsame : (∃ token ∈ db.actionTokens, Tables.isOutstanding actor token = true) →
      ∃ a ∈ db.emailAddresses, a.userId = actor ∧ a.emailNormalized = emailNormalized) :
    Bound ⟨db', issues ++ []⟩ := by
  intro token hmem hpurpose hconsumed
  dsimp only at hmem
  rw [htokens] at hmem
  obtain ⟨hinvalidated, address, hnewest, hpairs⟩ := h token hmem hpurpose hconsumed
  rw [List.append_nil]
  refine ⟨hinvalidated, address, hnewest, ?_⟩
  intro pair hpair huser
  obtain ⟨a', ha', rfl⟩ := List.mem_map.mp hpair
  rcases haddresses a' ha' with ⟨hactor, hemail⟩ | ⟨hold, -⟩
  · have htoken : token.userId = actor := huser.symm.trans hactor
    obtain ⟨a, ha, hauser, haemail⟩ :=
      hsame ⟨token, hmem, isOutstanding_iff.mpr ⟨htoken, hpurpose, hconsumed⟩⟩
    have hbound := hpairs _ (List.mem_map_of_mem ha) (hauser.trans htoken.symm)
    exact hemail.trans (haemail.symm.trans hbound)
  · exact hpairs _ (List.mem_map_of_mem hold) huser

end Kept

/-! ## Every run -/

/-- The user has a token of the recovery address that can be consumed. -/
def hasOutstanding (db : Tables) (userId : Uuid) : Bool :=
  db.actionTokens.any (Tables.isOutstanding userId)

/-- While a token of the user can be consumed, the recovery address is not replaced by another one,
and the account is not recovered. -/
def undisturbed (svc : Services) (call : Call) (db : Tables) : Bool :=
  match perform svc call db with
  | .ok (_, .ok _) =>
    match call.1 with
    | .setPending actor email _ => !hasOutstanding db actor ||
        db.emailAddresses.any fun a =>
          a.userId = actor && svc.normalizeEmail email = some a.emailNormalized
    | .completeRecovery requestId _ => (db.recoveryRequest requestId).all fun request =>
      !hasOutstanding db request.userId
    | _ => true
  | _ => true

theorem bound_perform {svc : Services} {call : Call} {db db' : Tables} {issues : List Issue}
    {reply : Except IdentityError Reply} (hvalid : db.Valid) (h : Bound ⟨db, issues⟩)
    (hok : undisturbed svc call db = true) (hperform : perform svc call db = .ok (db', reply)) :
    Bound ⟨db', issues ++ noted call db⟩ := by
  cases effect hvalid hperform with
  | quiet hnoted htokens haddresses =>
    rw [hnoted]
    refine h.keep ?_ haddresses
    rw [htokens]
    exact fun _ hmem _ _ => hmem
  | opened token hnoted hpurpose htokens haddresses =>
    rw [hnoted]
    refine h.keep ?_ haddresses
    rw [htokens]
    exact NoNewTokens.append (fun _ hmem _ _ => hmem) hpurpose
  | consumed at_ token hnoted hmem htokens haddresses =>
    rw [hnoted]
    refine h.keep ?_ haddresses
    rw [htokens]
    exact noNewTokens_put at_
  | resent userId at_ token hnoted hpurpose htokens haddresses =>
    rw [hnoted]
    refine h.keep ?_ haddresses
    rw [htokens]
    refine NoNewTokens.append (noNewTokens_update ?_) hpurpose
    intro old _ hselected hold
    have hprimary : old.purpose = verifyEmail := by
      simp only [Tables.isActiveVerification, Bool.and_eq_true, decide_eq_true_eq] at hselected
      exact hselected.1.2
    exact absurd (hprimary.symm.trans hold) (by decide)
  | withdrawn userId at_ hnoted htokens haddresses =>
    rw [hnoted]
    refine h.keep ?_ haddresses
    rw [htokens]
    exact noNewTokens_update fun _ _ _ _ => Option.some_ne_none _
  | issued address hpending htokens haddresses =>
    rw [noted_issue hpending]
    exact h.issue hvalid hpending htokens haddresses
  | @replaced actor email stepUp draw emailNormalized hdone hnormal htokens haddresses =>
    obtain ⟨r, hdone⟩ := hdone
    refine h.replace htokens haddresses ?_
    rintro ⟨token, hmem, houtstanding⟩
    have hany : hasOutstanding db actor = true := List.any_eq_true.mpr ⟨token, hmem, houtstanding⟩
    simp only [undisturbed, hdone, hany, hnormal, Bool.not_true, Bool.false_or, List.any_eq_true,
      Bool.and_eq_true, decide_eq_true_eq, Option.some.injEq] at hok
    obtain ⟨a, ha, huser, hemail⟩ := hok
    exact ⟨a, ha, huser, hemail.symm⟩
  | @recovered requestId raw draw userId hdone hrequest htokens haddresses =>
    obtain ⟨r, hdone⟩ := hdone
    obtain ⟨request, hfound, rfl⟩ := hrequest
    refine h.keep ?_ (congrArg _ haddresses)
    rw [htokens]
    apply noNewTokens_update
    intro old hold hselected hpurpose hconsumed
    simp only [undisturbed, hdone, hfound, Option.all_some, Bool.not_eq_true', hasOutstanding,
      List.any_eq_false] at hok
    apply hok old hold
    simp only [Tables.isActiveOf, Bool.and_eq_true, decide_eq_true_eq] at hselected
    exact isOutstanding_iff.mpr ⟨hselected.1, hpurpose, hconsumed⟩

/-- What the calls are checked against. -/
def Undisturbed (svc : Services) (call : Call) (w : (identities svc).Database) : Prop :=
  undisturbed svc call w.1.db = true

instance (svc : Services) (call : Call) (w : (identities svc).Database) :
    Decidable (Undisturbed svc call w) :=
  inferInstanceAs (Decidable (_ = true))

theorem bound_reaches {svc : Services} {start w : (identities svc).Database}
    (hstart : Bound start.1) (h : (identities svc).Reaches (Undisturbed svc) start w) :
    Bound w.1 := by
  induction h with
  | refl => exact hstart
  | @tail w call _ hok ih =>
    rcases Service.respond_cases call w with hsame | ⟨w', reply, hv, hwork, hrespond⟩
    · rw [hsame]
      exact ih
    · rw [hrespond]
      obtain ⟨db', hperform, rfl⟩ := work_eq_commit.mp hwork
      exact bound_perform w.2 ih hok hperform

/-- The presented token was issued for the address, is the newest of the user, and has not been
consumed or invalidated and not expired. -/
def OwnToken (svc : Services) (raw : String) (now : ℤ) (w : World) (userId : Uuid)
    (address : String) : Prop :=
  ∃ token ∈ w.db.actionTokens, svc.digest raw verifyRecoveryEmail = some token.tokenHash ∧
    token.purpose = verifyRecoveryEmail ∧
    newest w.issues userId = some ⟨token.id, userId, address⟩ ∧
    token.consumedAt = none ∧ token.invalidatedAt = none ∧ now < token.expiresAt

/-- A row of a recovery address that a call has written is verified by it. -/
def Marks (svc : Services) (call : Call) (w : (identities svc).Database)
    (address : IdentityUserEmailAddress) : Prop :=
  address ∈ ((identities svc).respond call w).2.1.db.emailAddresses ∧
    address ∉ w.1.db.emailAddresses ∧ address.status = .verified

instance (svc : Services) (raw : String) (now : ℤ) (w : World) (userId : Uuid)
    (address : String) : Decidable (OwnToken svc raw now w userId address) :=
  inferInstanceAs (Decidable (∃ token ∈ w.db.actionTokens, _))

instance (svc : Services) (call : Call) (w : (identities svc).Database)
    (address : IdentityUserEmailAddress) : Decidable (Marks svc call w address) :=
  inferInstanceAs (Decidable (_ ∧ _ ∧ _))

/-- As long as no recovery address is replaced while a token for it can be consumed, a recovery
address is verified by its own token. -/
theorem verified_by_own_token (svc : Services) {start w : (identities svc).Database}
    (hstart : ∀ token ∈ start.1.db.actionTokens, token.purpose ≠ verifyRecoveryEmail)
    (h : (identities svc).Reaches (Undisturbed svc) start w) {raw : String} {draw : Draw}
    {address : IdentityUserEmailAddress} (hmarks : Marks svc (.verify raw, draw) w address) :
    OwnToken svc raw draw.now w.1 address.userId address.emailNormalized := by
  have hbound := bound_reaches (fun token hmem hpurpose => absurd hpurpose (hstart token hmem)) h
  obtain ⟨hafter, hbefore, -⟩ := hmarks
  rcases Service.respond_cases (S := identities svc) (.verify raw, draw) w with
    hsame | ⟨w', reply, hv, hwork, hrespond⟩
  · rw [hsame] at hafter
    exact absurd hafter hbefore
  · rw [hrespond] at hafter
    obtain ⟨db', hperform, rfl⟩ := work_eq_commit.mp hwork
    obtain ⟨token, current, htoken, hcurrent, hconsumed, hexpires, -, -, rfl, -⟩ :=
      verify_ok.mp hperform
    obtain ⟨tokenHash, hdigest, htoken⟩ := Option.bind_eq_some_iff.mp htoken
    obtain ⟨hmem, rfl, hpurpose⟩ := Tables.mem_of_token htoken
    obtain ⟨hrow, huser⟩ := Tables.mem_of_recoveryEmail hcurrent
    obtain ⟨hinvalidated, bound, hnewest, hpairs⟩ := hbound token hmem hpurpose hconsumed
    -- the only row that was not there before is the one that is marked
    rcases Table.mem_put_cases hafter with rfl | ⟨hold, -⟩
    · have hemail : current.emailNormalized = bound :=
        hpairs _ (List.mem_map_of_mem hrow) huser
      refine ⟨token, hmem, hdigest, hpurpose, ?_, hconsumed, hinvalidated, hexpires⟩
      dsimp only
      rw [huser, hemail]
      exact hnewest
    · exact absurd hold hbefore

namespace Sample

def services : Services where
  normalizeEmail := some
  hmac := fun purpose raw => purpose ++ raw
  recoveryEmailTtl := 60 * 60 * second
  verificationTtl := 30 * 60 * second
  completionTtl := 15 * 60 * second
  maxAttempts := 5
  ttl_positive := by decide
  attempts_positive := by decide

/-- The random material is told apart by `n`. -/
def draw (n : ℕ) : Draw where
  now := n * second
  databaseNow := n * second
  userId := n
  actionTokenId := n
  outboxId := n
  addressId := n
  requestId := n
  raw := String.ofList (List.replicate n 'a')
  payloadCiphertext := []
  payloadKeyVersion := "v1"
  passwordHash := some "changed"
  externalRevocation := true

def admin : IdentityUser :=
  ⟨⟨1, "admin@example.org", "hash", .active, none, 0, none⟩, some 0⟩

def database : (identities services).Database :=
  ⟨⟨⟨[admin], [⟨1, "platform_admin", .active⟩], [], [], [], [], []⟩, []⟩, by decide +kernel⟩

theorem database_without_tokens :
    ∀ token ∈ database.1.db.actionTokens, token.purpose ≠ verifyRecoveryEmail := by
  decide +kernel

/-- An address, and a token for it. -/
def issued : List Call :=
  [(.setPending 1 "first@example.org" true, draw 1), (.issue 1 true, draw 2)]

def afterIssued : (identities services).Database := (identities services).run issued database

theorem issued_verified_by_own_token :
    Marks services (.verify (draw 2).raw, draw 3) afterIssued
        ⟨1, 1, "first@example.org", .verified, some (3 * second), none⟩ ∧
      OwnToken services (draw 2).raw (draw 3).now afterIssued.1 1 "first@example.org" := by
  have hmarks : Marks services (.verify (draw 2).raw, draw 3) afterIssued
      ⟨1, 1, "first@example.org", .verified, some (3 * second), none⟩ := by
    decide +kernel
  exact ⟨hmarks, verified_by_own_token services database_without_tokens
    (Service.reaches_of_along issued database (by decide +kernel)) hmarks⟩

/-- The address is replaced by another one after the token has been sent to it. -/
def replaced : List Call := issued ++ [(.setPending 1 "second@example.org" true, draw 3)]

def afterReplaced : (identities services).Database := (identities services).run replaced database

theorem replaced_verified_by_other_token :
    (identities services).Reaches (identities services).Any database afterReplaced ∧
      Marks services (.verify (draw 2).raw, draw 4) afterReplaced
        ⟨1, 1, "second@example.org", .verified, some (4 * second), none⟩ ∧
      ¬ OwnToken services (draw 2).raw (draw 4).now afterReplaced.1 1 "second@example.org" :=
  ⟨Service.reaches_run replaced database, by decide +kernel⟩

end Sample

end MaestroKernel.Identity
