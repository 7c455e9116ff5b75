import MaestroKernel.Auth.Rows
import MaestroKernel.Library.Licences
import Mathlib.Data.List.ProdSigma

/-! # Who owns an address

A registration looks for its address among the primary addresses only. The administration of
recovery addresses looks among both kinds, and commits later. Of the rows of a registration the user
and the token are here. -/

namespace MaestroKernel.Auth.Addresses

open Interaction RowLocks

inductive AddressError where
  | valueError (message : String)
  | recoveryEmailDenied (message : String)
  | recoveryEmailConflict (message : String)

/-- What the services ask of their surroundings; the authorities are rows of another table. -/
inductive Question where
  | clock
  | uuid
  | passwordHash (password : String)
  | verificationHash
  | isPlatformAdmin (userId : Uuid)

def Answer : Question → Type
  | .clock => ℤ
  | .uuid => Uuid
  | .passwordHash _ => String
  | .verificationHash => String
  | .isPlatformAdmin _ => Bool

inductive Note where
  | registered (userId : Uuid)
  | setPending (userId : Uuid)
  | revoked (userId : Uuid)

structure RecoveryEmailReceipt where
  userId : Uuid
  emailNormalized : String
  status : EmailStatus

inductive Outcome where
  | accepted
  | recoveryEmail (receipt : RecoveryEmailReceipt)

abbrev AddressWork (α : Type) : Type := Work Key Row Note Answer AddressError α

def raiseError (e : AddressError) {α : Type} : AddressWork α := throw (.raised e)

def clock : AddressWork ℤ := ask Question.clock

def newId : AddressWork Uuid := ask Question.uuid

def hashPassword (password : String) : AddressWork String := ask (Question.passwordHash password)

/-- The digest of a new token. -/
def generateToken : AddressWork String := ask Question.verificationHash

def isPlatformAdmin (userId : Uuid) : AddressWork Bool := ask (Question.isPlatformAdmin userId)

def isPrimary (email : String) : Row → Bool
  | .user user => user.emailNormalized = email
  | _ => false

def isActiveUser (userId : Uuid) : Row → Bool
  | .user user => user.id = userId && user.status = .active
  | _ => false

def isLiveRecovery (email : String) : Row → Bool
  | .emailAddress address => address.emailNormalized = email && address.status ≠ .revoked
  | _ => false

def isRecoveryOf (userId : Uuid) : Row → Bool
  | .emailAddress address => address.userId = userId
  | _ => false

def emailAddress? : Row → Option IdentityUserEmailAddress
  | .emailAddress address => some address
  | _ => none

def emailExists (email : String) : AddressWork Bool := do
  let rows ← select (List.filter (isPrimary email))
  pure !rows.isEmpty

def platformAdminUser (userId : Uuid) : AddressWork (Option IdentityUser) := do
  let admin ← isPlatformAdmin userId
  let rows ← select (List.filter (isActiveUser userId))
  pure (if admin then rows.head?.bind Row.user? else none)

def emailOwner (email : String) : AddressWork (Option Uuid) := do
  let primary ← select (List.filter (isPrimary email))
  match primary.head?.bind Row.user? with
  | some user => pure (some user.id)
  | none => do
      let rows ← select (List.filter (isLiveRecovery email))
      pure ((rows.head?.bind emailAddress?).map IdentityUserEmailAddress.userId)

def recoveryEmailForUpdate (userId : Uuid) : AddressWork (Option IdentityUserEmailAddress) := do
  let rows ← forUpdate Row.key (List.filter (isRecoveryOf userId)) (isRecoveryOf userId)
  pure (rows.head?.bind emailAddress?)

/-- The rows of `eligible_principal_by_login`. -/
def eligiblePrincipals (rows : List Row) (login : String) :
    List (IdentityUser × IdentityUserEmailAddress) :=
  (rows.filterMap Row.user? ×ˢ rows.filterMap emailAddress?).filter fun (user, address) =>
    address.userId = user.id && (user.emailNormalized = login || address.emailNormalized = login) &&
      user.status = .active && address.status = .verified && address.verifiedAt.isSome &&
      address.revokedAt.isNone

/-! ## The services -/

def stepUpRequired : AddressError := .recoveryEmailDenied "Recent MFA step-up is required."

def adminRequired : AddressError :=
  .recoveryEmailDenied "Active platform administrator authority is required."

def invalidEmail : AddressError := .valueError "email has an invalid structure."

section Services

variable (normalizeEmail : String → Option String)

/-- The rest of the command has been checked. The service answers a violated constraint like an
accepted registration. -/
def register (email password : String) : AddressWork Outcome :=
  match normalizeEmail email with
  | none => raiseError invalidEmail
  | some emailNormalized => do
      let passwordHash ← hashPassword password
      let tokenHash ← generateToken
      let now ← clock
      let userId ← newId
      let tokenId ← newId
      if ← emailExists emailNormalized then
        pure .accepted
      else do
        commit [.insert (.user ⟨userId, emailNormalized, passwordHash, .pendingVerification,
            none, 0, none⟩),
          .insert (.actionToken
            { id := tokenId, userId := userId, purpose := "verify_email", tokenHash := tokenHash
              expiresAt := now + 24 * 60 * 60 * 1000000 })] (.registered userId)
        pure .accepted

def setPending (actorUserId : Uuid) (recoveryEmail : String) (recentStepUp : Bool) :
    AddressWork Outcome := do
  raiseIf (!recentStepUp) stepUpRequired
  match normalizeEmail recoveryEmail with
  | none => raiseError invalidEmail
  | some emailNormalized => do
      match ← platformAdminUser actorUserId with
      | none => raiseError adminRequired
      | some actor => do
          raiseIf (actor.emailNormalized = emailNormalized)
            (.recoveryEmailConflict "Recovery email must differ from the primary email.")
          let owner ← emailOwner emailNormalized
          raiseIf (owner.any fun owner => owner ≠ actorUserId)
            (.recoveryEmailConflict "Recovery email is already owned by another identity.")
          let receipt := Outcome.recoveryEmail ⟨actorUserId, emailNormalized, .pending⟩
          match ← recoveryEmailForUpdate actorUserId with
          | none => do
              let addressId ← newId
              commit [.insert (.emailAddress
                ⟨addressId, actorUserId, emailNormalized, .pending, none, none⟩)]
                (.setPending actorUserId)
              pure receipt
          | some current => do
              commit [.update (.emailAddress { current with
                emailNormalized := emailNormalized
                status := .pending
                verifiedAt := none
                revokedAt := none })] (.setPending actorUserId)
              pure receipt

def revoke (actorUserId : Uuid) (recentStepUp : Bool) : AddressWork Outcome := do
  raiseIf (!recentStepUp) stepUpRequired
  let now ← clock
  match ← platformAdminUser actorUserId with
  | none => raiseError adminRequired
  | some _ => do
      match ← recoveryEmailForUpdate actorUserId with
      | none => raiseError (.recoveryEmailDenied "Active recovery email is unavailable.")
      | some current => do
          raiseIf (current.status = .revoked)
            (.recoveryEmailDenied "Active recovery email is unavailable.")
          commit [.update (.emailAddress { current with status := .revoked, revokedAt := some now })]
            (.revoked actorUserId)
          pure (.recoveryEmail ⟨actorUserId, current.emailNormalized, .revoked⟩)

inductive Op where
  | register (email password : String)
  | setPending (actorUserId : Uuid) (recoveryEmail : String) (recentStepUp : Bool)
  | revoke (actorUserId : Uuid) (recentStepUp : Bool)

def body : Op → AddressWork Outcome
  | .register email password => register normalizeEmail email password
  | .setPending actor email stepUp => setPending normalizeEmail actor email stepUp
  | .revoke actor stepUp => revoke actor stepUp

abbrev addressMachine : Machine Op (Command Key Row Note Question) (Reply Key Row Note Answer)
    (Except (Raised AddressError) Outcome) (Chance Answer) (World schema Note) :=
  machine schema fun op => unitOfWork (body normalizeEmail op)

end Services

abbrev Calls : Type := Units Op Answer AddressError Outcome schema Note

abbrev Step : Type := Interaction.Event Op (Chance Answer)

/-! ## One owner -/

/-- No pending or verified recovery address of an identity is the primary one of another. -/
def OneOwner (rows : List Row) : Prop :=
  ∀ (user : IdentityUser) (address : IdentityUserEmailAddress),
    .user user ∈ rows → .emailAddress address ∈ rows → address.status ≠ .revoked →
    address.emailNormalized = user.emailNormalized → address.userId = user.id

theorem row_of_unique {rows : List Row} (hvalid : schema.Valid rows) {a b : Row} (ha : a ∈ rows)
    (hb : b ∈ rows) {x : Unique} (hxa : x ∈ a.uniques) (hxb : x ∈ b.uniques) : a = b := by
  by_contra hne
  have hpairs := (List.nodup_flatMap.mp hvalid.2).2
  have hsymm : Std.Symm (Function.onFun List.Disjoint Row.uniques) :=
    ⟨fun _ _ h _ hx hy => h hy hx⟩
  exact hpairs.forall ha hb hne hxa hxb

theorem emailAddress?_eq_some {row : Row} {address : IdentityUserEmailAddress} :
    emailAddress? row = some address ↔ row = .emailAddress address := by
  cases row <;> simp [emailAddress?]

theorem mem_users {rows : List Row} {user : IdentityUser} :
    user ∈ rows.filterMap Row.user? ↔ .user user ∈ rows := by
  simp [List.mem_filterMap, Row.user?_eq_some]

theorem mem_addresses {rows : List Row} {address : IdentityUserEmailAddress} :
    address ∈ rows.filterMap emailAddress? ↔ .emailAddress address ∈ rows := by
  simp [List.mem_filterMap, emailAddress?_eq_some]

theorem nodup_filterMap {α : Type} {rows : List Row} (hvalid : schema.Valid rows)
    {f : Row → Option α} (hf : ∀ a b x, f a = some x → f b = some x → a = b) :
    (rows.filterMap f).Nodup := by
  have hrows : rows.Nodup := (schema.nodup hvalid).of_map
  exact hrows.filterMap fun a b x ha hb => hf a b x ha hb

theorem eligible_le_one {rows : List Row} (hvalid : schema.Valid rows) (h : OneOwner rows)
    (login : String) : (eligiblePrincipals rows login).length ≤ 1 := by
  have hnodup : (eligiblePrincipals rows login).Nodup := by
    apply List.Nodup.filter
    apply List.Nodup.product
    · exact nodup_filterMap hvalid fun a b x ha hb =>
        (Row.user?_eq_some.mp ha).trans (Row.user?_eq_some.mp hb).symm
    · exact nodup_filterMap hvalid fun a b x ha hb =>
        (emailAddress?_eq_some.mp ha).trans (emailAddress?_eq_some.mp hb).symm
  -- the address that is looked up decides about the user
  have howner : ∀ p ∈ eligiblePrincipals rows login, ∀ q ∈ eligiblePrincipals rows login,
      p.1.id = q.1.id := by
    rintro ⟨u, a⟩ hp ⟨v, b⟩ hq
    simp only [eligiblePrincipals, List.mem_filter, List.mem_product, mem_users, mem_addresses,
      Bool.and_eq_true, Bool.or_eq_true, decide_eq_true_eq] at hp hq
    obtain ⟨⟨hu, ha⟩, ⟨⟨⟨⟨hau, hlogin⟩, -⟩, hverified⟩, -⟩, -⟩ := hp
    obtain ⟨⟨hv, hb⟩, ⟨⟨⟨⟨hbv, hlogin'⟩, -⟩, hverified'⟩, -⟩, -⟩ := hq
    dsimp only at hau hbv ⊢
    have hlive : a.status ≠ .revoked := by simp [hverified]
    have hlive' : b.status ≠ .revoked := by simp [hverified']
    rcases hlogin with hlogin | hlogin
    · rcases hlogin' with hlogin' | hlogin'
      · have hsame := row_of_unique hvalid hu hv (x := .email login)
          (by simp [Row.uniques, hlogin]) (by simp [Row.uniques, hlogin'])
        cases hsame
        rfl
      · exact (h u b hu hb hlive' (hlogin'.trans hlogin.symm)).symm.trans hbv
    · rcases hlogin' with hlogin' | hlogin'
      · exact hau.symm.trans (h v a hv ha hlive (hlogin.trans hlogin'.symm))
      · have hsame := row_of_unique hvalid ha hb (x := .recoveryEmail login)
          (by simp [Row.uniques, hlogin]) (by simp [Row.uniques, hlogin'])
        cases hsame
        exact hau.symm.trans hbv
  have hone : ∀ p ∈ eligiblePrincipals rows login, ∀ q ∈ eligiblePrincipals rows login,
      p = q := by
    rintro ⟨u, a⟩ hp ⟨v, b⟩ hq
    have hid := howner _ hp _ hq
    simp only [eligiblePrincipals, List.mem_filter, List.mem_product, mem_users, mem_addresses,
      Bool.and_eq_true, Bool.or_eq_true, decide_eq_true_eq] at hp hq
    obtain ⟨⟨hu, ha⟩, ⟨⟨⟨⟨hau, -⟩, -⟩, -⟩, -⟩, -⟩ := hp
    obtain ⟨⟨hv, hb⟩, ⟨⟨⟨⟨hbv, -⟩, -⟩, -⟩, -⟩, -⟩ := hq
    dsimp only at hau hbv hid
    have huser := List.inj_on_of_nodup_map (schema.nodup hvalid) hu hv
      (by simp [schema, Row.key, hid])
    have haddress := row_of_unique hvalid ha hb (x := .recoveryUser u.id)
      (by simp [Row.uniques, hau]) (by simp [Row.uniques, hbv, hid])
    cases huser
    cases haddress
    rfl
  match heq : eligiblePrincipals rows login with
  | [] => simp
  | [_] => simp
  | p :: q :: rest =>
    rw [heq] at hnodup hone
    have hsame := hone p List.mem_cons_self q (List.mem_cons_of_mem _ List.mem_cons_self)
    subst hsame
    simp at hnodup

/-! ## What the calls write -/

section Licences

variable (normalizeEmail : String → Option String)

/-- What the commits of a call write; a new recovery address relies on nobody registering it. -/
def licence : Op → Licence schema Note
  | .register email _ => .free schema fun writes _ => ∀ write ∈ writes,
      (∀ user, write.row? = some (.user user) →
        normalizeEmail email = some user.emailNormalized) ∧
      ∀ address, write.row? ≠ some (.emailAddress address)
  | .setPending actor email _ =>
    { Rely := fun w w' => ∀ user : IdentityUser, .user user ∈ w'.db.1 →
        normalizeEmail email = some user.emailNormalized → .user user ∈ w.db.1
      Allows := fun writes _ w =>
        (∀ write ∈ writes, ∀ row, write.row? = some row → ∃ address,
          row = .emailAddress address ∧ address.userId = actor ∧
            normalizeEmail email = some address.emailNormalized) ∧
        ∀ user : IdentityUser, .user user ∈ w.db.1 →
          normalizeEmail email = some user.emailNormalized → user.id = actor
      same := fun hdb _ hmem _ => hdb ▸ hmem
      trans := fun h h' _ hmem hemail => h _ (h' _ hmem hemail) hemail }
  | .revoke _ _ => .free schema fun writes _ => ∀ write ∈ writes, ∀ row,
      write.row? = some row → ∃ address, row = .emailAddress address ∧ address.status = .revoked

variable {normalizeEmail} {t : ℕ} {op : Op} {P : (licence normalizeEmail op).Fact}

abbrev CompliesAddress (normalizeEmail : String → Option String) (t : ℕ) (op : Op) {β : Type}
    (P : (licence normalizeEmail op).Fact) (p : AddressWork β)
    (Q : β → (licence normalizeEmail op).Fact) : Prop :=
  Complies (fun op => unitOfWork (body normalizeEmail op)) t op P p Q

theorem selectAny_complies (q : List Row → List Row) :
    CompliesAddress normalizeEmail t op P (select q) fun _ => P.and (.always _ True) :=
  Complies.select fun _ _ => trivial

theorem platformAdminUser_complies (userId : Uuid) :
    CompliesAddress normalizeEmail t op P (platformAdminUser userId) fun _ => P := by
  apply Complies.bind (Complies.ask _)
  intro admin
  apply Complies.bind (selectAny_complies _)
  intro rows
  exact Complies.pure fun _ hw => hw.1

theorem recoveryEmailForUpdate_complies (userId : Uuid) :
    CompliesAddress normalizeEmail t op P (recoveryEmailForUpdate userId) fun found =>
      P.and (.always _ (∀ address, found = some address → address.userId = userId)) := by
  apply Complies.bind Complies.forUpdate
  intro rows
  apply Complies.pure
  rintro w ⟨hw, hrows⟩
  refine ⟨hw, ?_⟩
  intro address hfound
  obtain ⟨row, hrow, haddress⟩ := Option.bind_eq_some_iff.mp hfound
  rw [emailAddress?_eq_some] at haddress
  subst haddress
  simpa [isRecoveryOf] using hrows _ (List.mem_of_head? hrow)

theorem register_complies (email password : String) :
    ∃ Q, CompliesAddress normalizeEmail t (.register email password) (.always _ True)
      (register normalizeEmail email password) Q := by
  refine ⟨fun _ => .always _ True, ?_⟩
  cases hnormal : normalizeEmail email with
  | none =>
    simp only [register, hnormal]
    exact Complies.throw _
  | some emailNormalized =>
    simp only [register, hnormal]
    apply Complies.bind (Complies.ask _)
    intro passwordHash
    apply Complies.bind (Complies.ask _)
    intro tokenHash
    apply Complies.bind (Complies.ask _)
    intro now
    apply Complies.bind (Complies.ask _)
    intro userId
    apply Complies.bind (Complies.ask _)
    intro tokenId
    have hexists : CompliesAddress normalizeEmail t (.register email password) (.always _ True)
        (emailExists emailNormalized) fun _ => .always _ True :=
      Complies.bind (selectAny_complies _) fun _ => Complies.pure fun _ _ => trivial
    apply Complies.bind hexists
    intro found
    cases found with
    | true => exact Complies.pure fun _ _ => trivial
    | false =>
      refine Complies.bind (Complies.commit ?_) fun _ => Complies.pure fun _ _ => trivial
      intro w _ write hmem
      simp only [List.mem_cons, List.not_mem_nil, or_false] at hmem
      rcases hmem with rfl | rfl
      · refine ⟨?_, fun _ hrow => (by cases hrow)⟩
        intro user hrow
        cases hrow
        exact hnormal
      · exact ⟨fun _ hrow => (by cases hrow), fun _ hrow => by cases hrow⟩

variable {actor : Uuid} {email emailNormalized : String} {stepUp : Bool}

/-- The owner of a primary address is known, and stays it. -/
def ownerKnown (actor : Uuid) (email : String) (stepUp : Bool) (owner : Option Uuid) :
    (licence normalizeEmail (.setPending actor email stepUp)).Fact where
  holds := fun w => ∀ user : IdentityUser, .user user ∈ w.db.1 →
    normalizeEmail email = some user.emailNormalized → owner = some user.id
  stable := fun _ _ hr h user hmem hemail => h user (hr user hmem hemail) hemail

def primaryKnown (actor : Uuid) (email : String) (stepUp : Bool) (rows : List Row) :
    (licence normalizeEmail (.setPending actor email stepUp)).Fact where
  holds := fun w => ∀ user : IdentityUser, .user user ∈ w.db.1 →
    normalizeEmail email = some user.emailNormalized → rows.head?.bind Row.user? = some user
  stable := fun _ _ hr h user hmem hemail => h user (hr user hmem hemail) hemail

theorem head_of_primary {rows : List Row} (hvalid : schema.Valid rows) {user : IdentityUser}
    (hmem : .user user ∈ rows) :
    (rows.filter (isPrimary user.emailNormalized)).head?.bind Row.user? = some user := by
  have hfound : Row.user user ∈ rows.filter (isPrimary user.emailNormalized) :=
    List.mem_filter.mpr ⟨hmem, by simp [isPrimary]⟩
  obtain ⟨first, rest, heq⟩ := List.exists_cons_of_ne_nil (List.ne_nil_of_mem hfound)
  have hfirst : first ∈ rows.filter (isPrimary user.emailNormalized) := by
    rw [heq]
    exact List.mem_cons_self
  obtain ⟨hrow, hprimary⟩ := List.mem_filter.mp hfirst
  have hsame : first = .user user := by
    cases first with
    | user other =>
      exact row_of_unique hvalid hrow hmem (x := .email user.emailNormalized)
        (by simpa [Row.uniques, isPrimary, eq_comm] using hprimary) (by simp [Row.uniques])
    | _ => simp [isPrimary] at hprimary
  rw [heq, hsame]
  rfl

theorem emailOwner_complies {P : (licence normalizeEmail (.setPending actor email stepUp)).Fact}
    (hnormal : normalizeEmail email = some emailNormalized) :
    CompliesAddress normalizeEmail t (.setPending actor email stepUp) P (emailOwner emailNormalized)
      fun owner => P.and (ownerKnown actor email stepUp owner) := by
  have hprimary : CompliesAddress normalizeEmail t (.setPending actor email stepUp) P
      (select (List.filter (isPrimary emailNormalized))) fun rows =>
        P.and (primaryKnown actor email stepUp rows) := by
    apply Complies.select
    intro w _ user hmem hemail
    obtain rfl := Option.some.inj (hnormal.symm.trans hemail)
    exact head_of_primary w.db.2 hmem
  apply Complies.bind hprimary
  intro rows
  cases hhead : rows.head?.bind Row.user? with
  | some found =>
    dsimp only
    apply Complies.pure
    rintro w ⟨hw, hknown⟩
    refine ⟨hw, ?_⟩
    intro user hmem hemail
    have hsame := hhead.symm.trans (hknown user hmem hemail)
    rw [Option.some.inj hsame]
  | none =>
    dsimp only
    refine Complies.bind (selectAny_complies _) ?_
    intro addresses
    apply Complies.pure
    rintro w ⟨⟨hw, hknown⟩, -⟩
    refine ⟨hw, ?_⟩
    intro user hmem hemail
    have hsome := hhead.symm.trans (hknown user hmem hemail)
    cases hsome

theorem setPending_complies (actor : Uuid) (email : String) (stepUp : Bool) :
    ∃ Q, CompliesAddress normalizeEmail t (.setPending actor email stepUp) (.always _ True)
      (setPending normalizeEmail actor email stepUp) Q := by
  refine ⟨fun _ => .always _ True, ?_⟩
  apply Complies.bind (Complies.raiseIf _ _)
  intro _
  cases hnormal : normalizeEmail email with
  | none => exact Complies.throw _
  | some emailNormalized =>
    dsimp only
    apply Complies.bind (platformAdminUser_complies actor)
    intro admin
    cases admin with
    | none => exact Complies.throw _
    | some admin =>
      apply Complies.bind (Complies.raiseIf _ _)
      intro _
      apply Complies.bind (emailOwner_complies hnormal)
      intro owner
      apply Complies.bind (Complies.raiseIf _ _)
      intro _
      apply Complies.bind (recoveryEmailForUpdate_complies actor)
      intro current
      -- the owner that was found is the actor or nobody
      have howner : ∀ w, (((((Licence.Fact.always
          (licence normalizeEmail (.setPending actor email stepUp)) True).and
          (.always _ ((!stepUp) = false))).and (.always _
            (decide (admin.emailNormalized = emailNormalized) = false))).and
          (ownerKnown actor email stepUp owner)).and (.always _
            ((owner.any fun owner => owner ≠ actor) = false))).holds w →
          ∀ user, .user user ∈ w.db.1 → normalizeEmail email = some user.emailNormalized →
            user.id = actor := by
        rintro w ⟨⟨_, hknown⟩, hnobody⟩ user hmem hemail
        have hfound := hknown user hmem hemail
        rw [hfound] at hnobody
        simpa [Licence.Fact.always] using hnobody
      cases current with
      | none =>
        apply Complies.bind (Complies.ask _)
        intro addressId
        refine Complies.bind (Complies.commit ?_) fun _ => Complies.pure fun _ _ => trivial
        rintro w ⟨hw, -⟩
        refine ⟨?_, howner w hw⟩
        intro write hmem row hrow
        rw [List.mem_singleton.mp hmem] at hrow
        cases hrow
        exact ⟨_, rfl, rfl, hnormal⟩
      | some current =>
        refine Complies.bind (Complies.commit ?_) fun _ => Complies.pure fun _ _ => trivial
        rintro w ⟨hw, hcurrent⟩
        refine ⟨?_, howner w hw⟩
        intro write hmem row hrow
        rw [List.mem_singleton.mp hmem] at hrow
        cases hrow
        exact ⟨_, rfl, hcurrent current rfl, hnormal⟩

theorem revoke_complies (actor : Uuid) (stepUp : Bool) :
    ∃ Q, CompliesAddress normalizeEmail t (.revoke actor stepUp) (.always _ True)
      (revoke actor stepUp) Q := by
  refine ⟨fun _ => .always _ True, ?_⟩
  apply Complies.bind (Complies.raiseIf _ _)
  intro _
  apply Complies.bind (Complies.ask _)
  intro now
  apply Complies.bind (platformAdminUser_complies actor)
  intro admin
  cases admin with
  | none => exact Complies.throw _
  | some admin =>
    apply Complies.bind (recoveryEmailForUpdate_complies actor)
    intro current
    cases current with
    | none => exact Complies.throw _
    | some current =>
      apply Complies.bind (Complies.raiseIf _ _)
      intro _
      refine Complies.bind (Complies.commit ?_) fun _ => Complies.pure fun _ _ => trivial
      intro w _ write hmem row hrow
      rw [List.mem_singleton.mp hmem] at hrow
      cases hrow
      exact ⟨_, rfl, rfl⟩

theorem body_complies (t : ℕ) (op : Op) :
    ∃ Q, CompliesAddress normalizeEmail t op (.always _ True) (body normalizeEmail op) Q := by
  cases op with
  | register email password => exact register_complies email password
  | setPending actor email stepUp => exact setPending_complies actor email stepUp
  | revoke actor stepUp => exact revoke_complies actor stepUp

end Licences

/-! ## Every run -/

section Runs

variable {normalizeEmail : String → Option String}

/-- A registration is committed while its address is no pending or verified recovery address and is
not being made one. -/
def Unclaimed (normalizeEmail : String → Option String) (ev : Step) (cfg : Calls) : Prop :=
  ∀ t e, ev = .run t e → ∀ email password writes note k,
    cfg.threads t = some (.register email password, .call (.commit writes note) k) →
    ∀ address, normalizeEmail email = some address →
      (∀ a : IdentityUserEmailAddress, .emailAddress a ∈ cfg.shared.db.1 →
        a.emailNormalized = address → a.status = .revoked) ∧
      ∀ u actor other stepUp c k',
        cfg.threads u = some (.setPending actor other stepUp, .call c k') →
        normalizeEmail other ≠ some address

/-- A user that a commit leaves was there, or is the one that a registration inserts. -/
theorem user_of_flush {op : Op} {writes : List (Write Key Row)} {note : Note}
    {w : World schema Note} {db : schema.Database}
    (hallows : (licence normalizeEmail op).Allows writes note w)
    (hflush : schema.flush writes w.db = some db) {user : IdentityUser}
    (hmem : .user user ∈ db.1) : .user user ∈ w.db.1 ∨
      ∃ email password, op = .register email password ∧
        normalizeEmail email = some user.emailNormalized := by
  rcases Schema.mem_flush hflush hmem with ⟨write, hwrite, hrow⟩ | ⟨hold, -⟩
  · cases op with
    | register email password => exact .inr ⟨email, password, rfl, (hallows write hwrite).1 user hrow⟩
    | setPending actor email stepUp =>
      obtain ⟨_, heq, -⟩ := hallows.1 write hwrite _ hrow
      cases heq
    | revoke actor stepUp =>
      obtain ⟨_, heq, -⟩ := hallows write hwrite _ hrow
      cases heq
  · exact .inl hold

/-- An address that a commit leaves was there, or is revoked now, or is the one that has been set,
which nobody else has as the primary one. -/
theorem address_of_flush {op : Op} {writes : List (Write Key Row)} {note : Note}
    {w : World schema Note} {db : schema.Database}
    (hallows : (licence normalizeEmail op).Allows writes note w)
    (hflush : schema.flush writes w.db = some db) {address : IdentityUserEmailAddress}
    (hmem : .emailAddress address ∈ db.1) : .emailAddress address ∈ w.db.1 ∨
      address.status = .revoked ∨
      (∀ email password, op ≠ .register email password) ∧ ∀ user : IdentityUser,
        .user user ∈ w.db.1 → address.emailNormalized = user.emailNormalized →
          address.userId = user.id := by
  rcases Schema.mem_flush hflush hmem with ⟨write, hwrite, hrow⟩ | ⟨hold, -⟩
  · cases op with
    | register email password => exact absurd hrow ((hallows write hwrite).2 address)
    | setPending actor email stepUp =>
      obtain ⟨_, heq, huser, hemail⟩ := hallows.1 write hwrite _ hrow
      cases heq
      refine .inr (.inr ⟨fun _ _ h => (by cases h), ?_⟩)
      intro user huser' hsame
      rw [hsame] at hemail
      exact huser.trans (hallows.2 user huser' hemail).symm
    | revoke actor stepUp =>
      obtain ⟨_, heq, hstatus⟩ := hallows write hwrite _ hrow
      cases heq
      exact .inr (.inl hstatus)
  · exact .inl hold

/-- As long as no registration is committed whose address an identity has, or is setting, as its
recovery address, an address belongs to one identity, and a lookup by it finds one at most. -/
theorem one_owner (normalizeEmail : String → Option String) {db₀ : schema.Database} {cfg : Calls}
    (hstart : OneOwner db₀.1)
    (h : (addressMachine normalizeEmail).Reaches (Unclaimed normalizeEmail)
      (Machine.init (World.start Note db₀)) cfg) :
    OneOwner cfg.shared.db.1 ∧
      ∀ login, (eligiblePrincipals cfg.shared.db.1 login).length ≤ 1 := by
  suffices howner : OneOwner cfg.shared.db.1 from
    ⟨howner, fun login => eligible_le_one cfg.shared.db.2 howner login⟩
  refine reaches_licensed (L := licence normalizeEmail) (I := fun db => OneOwner db.1) hstart
    body_complies ?_ ?_ h
  · intro cfg next t e op writes note k hok hthread hallows hflush u op' c k' _ hu
    cases op' with
    | register email password => trivial
    | revoke actor stepUp => trivial
    | setPending actor other stepUp =>
      intro user hmem hother
      rcases user_of_flush hallows hflush hmem with hold | ⟨email, password, rfl, hemail⟩
      · exact hold
      · have hclaimed := hok t e rfl email password writes note k hthread _ hemail
        exact absurd hother (hclaimed.2 u actor other stepUp c k' hu)
  · intro cfg t e op writes note k db hok hthread hallows hflush ih user address huser haddress
      hlive hsame
    rcases user_of_flush hallows hflush huser with hold | ⟨email, password, rfl, hemail⟩
    · rcases address_of_flush hallows hflush haddress with hbefore | hrevoked | ⟨-, hset⟩
      · exact ih user address hold hbefore hlive hsame
      · exact absurd hrevoked hlive
      · exact hset user hold hsame
    · rcases address_of_flush hallows hflush haddress with hbefore | hrevoked | ⟨hother, -⟩
      · have hclaimed := hok t e rfl email password writes note k hthread _ hemail
        exact absurd (hclaimed.1 address hbefore hsame) hlive
      · exact absurd hrevoked hlive
      · exact absurd rfl (hother email password)

end Runs

namespace Sample

def recoveryEmail : String := "recovery@example.org"

def admin : IdentityUser := ⟨1, "admin@example.org", "hash", .active, none, 0, none⟩

def database : schema.Database := ⟨[.user admin], by decide⟩

theorem database_oneOwner : OneOwner database.1 := by
  intro user address _ haddress
  simp [database] at haddress

def start : Calls := Machine.init (World.start Note database)

/-- The ids and digests are told apart by `n`. -/
def chance (n : ℕ) : Chance Answer where
  answer
    | .clock => (0 : ℤ)
    | .uuid => n
    | .passwordHash _ => "hash"
    | .verificationHash => String.ofList (List.replicate n 'a')
    | .isPlatformAdmin userId => decide (userId = 1)

def Separate : Op → Prop
  | .register email _ => email ≠ recoveryEmail
  | .setPending _ email _ => email = recoveryEmail
  | .revoke _ _ => True

instance : DecidablePred Separate := fun op =>
  match op with
  | .register _ _ => inferInstanceAs (Decidable (_ ≠ _))
  | .setPending _ _ _ => inferInstanceAs (Decidable (_ = _))
  | .revoke _ _ => .isTrue trivial

def separateCheck (ev : Step) (cfg : Calls) : Bool :=
  match ev with
  | .start _ op => Separate op
  | .run t _ =>
    match cfg.threads t with
    | some (.register email _, .call (.commit ..) _) =>
      cfg.shared.db.1.all fun row => !isLiveRecovery email row
    | _ => true

theorem unclaimed_of_separate (ev : Step) (cfg : Calls)
    (h : separateCheck ev cfg = true ∧ ∀ t op p, cfg.threads t = some (op, p) → Separate op) :
    Unclaimed some ev cfg := by
  rintro t e rfl email password writes note k hthread address hemail
  obtain rfl := Option.some.inj hemail
  obtain ⟨hcheck, hstarted⟩ := h
  constructor
  · intro a hmem hsame
    simp only [separateCheck, hthread, List.all_eq_true, Bool.not_eq_true'] at hcheck
    have hlive := hcheck _ hmem
    simpa [isLiveRecovery, hsame] using hlive
  · intro u actor other stepUp c k' hu hother
    have hregister : email ≠ recoveryEmail := hstarted t _ _ hthread
    have hset : other = recoveryEmail := hstarted u _ _ hu
    exact hregister ((Option.some.inj hother).symm.trans hset)

/-- A recovery address is set while somebody registers. -/
def overlapping : List Step :=
  .start 0 (.setPending 1 recoveryEmail true) :: List.replicate 4 (.run 0 (chance 5)) ++
    .start 1 (.register "user@example.org" "password") :: List.replicate 8 (.run 1 (chance 6)) ++
    List.replicate 5 (.run 0 (chance 5))

theorem overlapping_runs :
    ((addressMachine some).runIf separateCheck overlapping start).isSome = true := by
  decide +kernel

def afterOverlapping : Calls :=
  ((addressMachine some).runIf separateCheck overlapping start).get overlapping_runs

theorem overlapping_one_owner :
    afterOverlapping.shared.db.1.any (isLiveRecovery recoveryEmail) = true ∧
      OneOwner afterOverlapping.shared.db.1 ∧
      ∀ login, (eligiblePrincipals afterOverlapping.shared.db.1 login).length ≤ 1 := by
  refine ⟨by decide +kernel, one_owner some database_oneOwner ?_⟩
  have hreach : (addressMachine some).Reaches (fun ev cfg => separateCheck ev cfg = true) start
      afterOverlapping :=
    Machine.runIf_reaches (fun _ _ h => h) (Option.some_get overlapping_runs).symm
  have hstarts : ∀ t op cfg, separateCheck (.start t op) cfg = true → Separate op :=
    fun _ _ _ h => of_decide_eq_true h
  exact (hreach.with_started hstarts).weaken unclaimed_of_separate

/-- Somebody registers the recovery address of the administrator. -/
def registered : List Step :=
  .start 0 (.setPending 1 recoveryEmail true) :: List.replicate 9 (.run 0 (chance 5)) ++
    .start 1 (.register recoveryEmail "password") :: List.replicate 8 (.run 1 (chance 6))

theorem registered_runs : ((addressMachine some).run registered start).isSome = true := by
  decide +kernel

def afterRegistered : Calls := ((addressMachine some).run registered start).get registered_runs

theorem registered_two_owners :
    (addressMachine some).Reaches (fun _ _ => True) start afterRegistered ∧
      ¬ OneOwner afterRegistered.shared.db.1 := by
  refine ⟨Machine.run_reaches (Option.some_get registered_runs).symm, ?_⟩
  intro h
  have htwo : ∃ user ∈ afterRegistered.shared.db.1.filterMap Row.user?,
      ∃ address ∈ afterRegistered.shared.db.1.filterMap emailAddress?,
        address.status ≠ .revoked ∧ address.emailNormalized = user.emailNormalized ∧
          address.userId ≠ user.id := by
    decide +kernel
  obtain ⟨user, huser, address, haddress, hlive, hsame, hne⟩ := htwo
  exact hne (h user address (mem_users.mp huser) (mem_addresses.mp haddress) hlive hsame)

end Sample

end MaestroKernel.Auth.Addresses
