import MaestroKernel.Auth.Families
import MaestroKernel.Library.First
import MaestroKernel.Library.Histories

/-! # The lockout

While an account is locked, a login fails and writes nothing, whatever the password. The counter of
the account bounds the wrong guesses that are made otherwise: each one raises it, a lockout starts
where it reaches the limit, and only a login with the right password resets it. -/

namespace MaestroKernel.Auth

open Transaction
open Histories (Along after total)

/-! ## Users -/

namespace Tables

variable {db db' : Tables} {user user' : IdentityUser} {account : String}

theorem Valid.setUser (hv : db.Valid) (hmem : user ∈ db.users) (hid : user'.id = user.id)
    (hemail : user'.emailNormalized = user.emailNormalized) : (db.setUser user').Valid := by
  have hsame : ∀ u ∈ db.users, (if u.id = user'.id then user' else u).id = u.id ∧
      (if u.id = user'.id then user' else u).emailNormalized = u.emailNormalized := by
    intro u hu
    split
    · rename_i heq
      obtain rfl := List.inj_on_of_nodup_map hv.user_id hu hmem (heq.trans hid)
      exact ⟨hid, hemail⟩
    · exact ⟨rfl, rfl⟩
  have hids : (db.setUser user').users.map IdentityUser.id = db.users.map IdentityUser.id := by
    rw [Tables.setUser, List.map_map]
    exact List.map_congr_left fun u hu => (hsame u hu).1
  have hemails : (db.setUser user').users.map IdentityUser.emailNormalized =
      db.users.map IdentityUser.emailNormalized := by
    rw [Tables.setUser, List.map_map]
    exact List.map_congr_left fun u hu => (hsame u hu).2
  refine { hv with user_id := ?_, email := ?_, session_user := ?_ }
  · rw [hids]
    exact hv.user_id
  · rw [hemails]
    exact hv.email
  · intro session hsession
    obtain ⟨u, hu, howner⟩ := hv.session_user session hsession
    refine ⟨_, List.mem_map_of_mem hu, ?_⟩
    rw [(hsame u hu).1]
    exact howner

theorem of_userForLogin (h : db.userForLogin account = some user) :
    user ∈ db.users ∧ user.emailNormalized = account :=
  ⟨List.mem_of_find?_eq_some h, by simpa using List.find?_some h⟩

/-- Only the account of the user that is written is found changed. -/
theorem userForLogin_setUser (hv : db.Valid) (hmem : user ∈ db.users) (hid : user'.id = user.id)
    (hemail : user'.emailNormalized = user.emailNormalized) :
    (db.setUser user').userForLogin account =
      if user.emailNormalized = account then some user' else db.userForLogin account := by
  have hv' := hv.setUser hmem hid hemail
  split
  · rename_i haccount
    have hmem' : user' ∈ (db.setUser user').users :=
      List.mem_map.mpr ⟨user, hmem, if_pos hid.symm⟩
    rw [← haccount, ← hemail]
    exact First.find?_key hv'.email hmem'
  · rename_i haccount
    cases hfound : db.userForLogin account with
    | none =>
      rw [userForLogin, List.find?_eq_none] at hfound ⊢
      refine List.forall_mem_map.mpr fun u hu => ?_
      split
      · simpa [hemail] using haccount
      · exact hfound u hu
    | some u =>
      obtain ⟨hu, rfl⟩ := of_userForLogin hfound
      have hother : u.id ≠ user'.id := by
        intro heq
        obtain rfl := List.inj_on_of_nodup_map hv.user_id hu hmem (heq.trans hid)
        exact haccount rfl
      exact First.find?_key hv'.email (List.mem_map.mpr ⟨u, hu, if_neg hother⟩)

end Tables

/-- A login with what its call draws. -/
structure Attempt where
  email : String
  password : String
  draw : Draw

section

variable {svc : SessionService}

def Attempt.respond (a : Attempt) (db : (sessions svc).Database) :
    Except SessionError (Option IssuedSession) × (sessions svc).Database :=
  (sessions svc).respond (.login a.email a.password, a.draw) db

def Attempt.next (db : (sessions svc).Database) (a : Attempt) : (sessions svc).Database :=
  (a.respond db).2

def Attempt.target (account : String) (db : (sessions svc).Database) (a : Attempt) :
    Option IdentityUser :=
  if svc.normalizeEmail a.email = some account then db.1.userForLogin account else none

/-- A wrong password for an account that is not locked, so that the comparison counts. -/
def Attempt.isWrong (account : String) (db : (sessions svc).Database) (a : Attempt) : Bool :=
  (a.target account db).any fun user =>
    !(svc.verifyPassword user.passwordHash a.password).valid &&
      !SessionService.lockedAt user a.draw.now

/-- The right password for an active account that is not locked. -/
def Attempt.isAccepted (account : String) (db : (sessions svc).Database) (a : Attempt) : Bool :=
  (a.target account db).any fun user =>
    (svc.verifyPassword user.passwordHash a.password).valid && user.status = .active &&
      !SessionService.lockedAt user a.draw.now

/-- A wrong password after which the account is locked from its instant on. -/
def Attempt.beginsLockout (account : String) (db : (sessions svc).Database) (a : Attempt) : Bool :=
  a.isWrong account db && ((a.next db).1.userForLogin account).any fun user =>
    user.lockedUntil = some (a.draw.now + svc.lockoutDuration)

/-! ## What a login does -/

variable {account : String} {db : (sessions svc).Database} {a : Attempt} {user : IdentityUser}

theorem login_of_wrong {email password : String} {draw : Draw} {tables : Tables}
    (hemail : svc.normalizeEmail email = some account)
    (huser : tables.userForLogin account = some user)
    (hvalid : (svc.verifyPassword user.passwordHash password).valid = false)
    (hlocked : SessionService.lockedAt user draw.now = false) :
    svc.login email password draw tables =
      .commit (tables.setUser (svc.countFailure user draw.now))
        (.error .invalidSessionCredentials) := by
  simp [SessionService.login, hemail, huser, hvalid, hlocked]

theorem login_of_locked {email : String} {draw : Draw} {tables : Tables}
    (hemail : svc.normalizeEmail email = some account)
    (huser : tables.userForLogin account = some user)
    (hlocked : SessionService.lockedAt user draw.now = true) (password : String) :
    svc.login email password draw tables = .commit tables (.error .invalidSessionCredentials) := by
  simp [SessionService.login, hemail, huser, hlocked]

theorem login_of_inactive {email password : String} {draw : Draw} {tables : Tables}
    (hemail : svc.normalizeEmail email = some account)
    (huser : tables.userForLogin account = some user)
    (hvalid : (svc.verifyPassword user.passwordHash password).valid = true)
    (hstatus : user.status ≠ .active) :
    svc.login email password draw tables = .commit tables (.error .invalidSessionCredentials) := by
  simp [SessionService.login, hemail, huser, hvalid, hstatus]

theorem users_of_login {email password : String} {draw : Draw} {tables tables' : Tables}
    {reply : Except SessionError IssuedSession}
    (h : svc.login email password draw tables = .commit tables' reply) :
    tables'.users = tables.users ∨ ∃ user user' : IdentityUser,
      svc.normalizeEmail email = some user.emailNormalized ∧ user ∈ tables.users ∧
        user'.id = user.id ∧ user'.emailNormalized = user.emailNormalized ∧
          tables'.users = (tables.setUser user').users := by
  simp only [SessionService.login] at h
  split at h
  · cases h
  rename_i normalized hemail
  split at h
  · cases h
  rename_i user hfound
  obtain ⟨hmem, rfl⟩ := Tables.of_userForLogin hfound
  split at h
  · obtain ⟨rfl, -⟩ := Ending.commit.inj h
    split
    · exact .inr ⟨user, svc.countFailure user draw.now, hemail, hmem, rfl, rfl, rfl⟩
    · exact .inl rfl
  · obtain ⟨rfl, -⟩ := Ending.commit.inj h
    exact .inr ⟨user, SessionService.resetFailures user _ draw, hemail, hmem, rfl, rfl, rfl⟩

theorem respond_of_login {email password : String} {draw : Draw} {tables : Tables}
    {e : SessionError} (hlogin : svc.login email password draw db.1 = .commit tables (.error e))
    (hvalid : tables.Valid) :
    (sessions svc).respond (.login email password, draw) db = (.error e, ⟨tables, hvalid⟩) := by
  refine Service.respond_of_commit ?_ hvalid
  change SessionService.issuing (svc.login email password draw db.1) = _
  rw [hlogin]
  rfl

theorem target_eq_some (h : a.target account db = some user) :
    svc.normalizeEmail a.email = some account ∧ db.1.userForLogin account = some user := by
  rw [Attempt.target] at h
  split at h
  · rename_i hemail
    exact ⟨hemail, h⟩
  · cases h

theorem userForLogin_of_untargeted (h : a.target account db = none) :
    (a.next db).1.userForLogin account = db.1.userForLogin account := by
  rw [Attempt.next, Attempt.respond]
  rcases Service.respond_cases (S := sessions svc) (.login a.email a.password, a.draw) db with
    hsame | ⟨tables, reply, hv, hwork, hrespond⟩
  · rw [hsame]
  rw [hrespond]
  obtain ⟨r, hlogin, -⟩ := SessionService.issuing_commit hwork
  rcases users_of_login hlogin with husers | ⟨user, user', hemail, hmem, hid, hsame, husers⟩
  · rw [Tables.userForLogin, husers]
    rfl
  · have hother : user.emailNormalized ≠ account := by
      intro haccount
      rw [haccount] at hemail
      rw [Attempt.target, if_pos hemail, Tables.userForLogin, List.find?_eq_none] at h
      exact h user hmem (by simpa using haccount)
    rw [Tables.userForLogin, husers]
    exact (Tables.userForLogin_setUser db.2 hmem hid hsame).trans (if_neg hother)

theorem next_of_target (h : a.target account db = some user) :
    (a.isAccepted account db = true) ∨
      (a.isWrong account db = false ∧ a.next db = db) ∨
        (a.isWrong account db = true ∧ (a.next db).1.userForLogin account =
          some (svc.countFailure user a.draw.now)) := by
  obtain ⟨hemail, huser⟩ := target_eq_some h
  obtain ⟨hmem, haccount⟩ := Tables.of_userForLogin huser
  rw [Attempt.isAccepted, Attempt.isWrong, h, Option.any_some, Option.any_some]
  cases hlocked : SessionService.lockedAt user a.draw.now with
  | true =>
    refine .inr (.inl ⟨by simp, ?_⟩)
    exact congrArg Prod.snd (respond_of_login (login_of_locked hemail huser hlocked a.password) db.2)
  | false =>
    cases hvalid : (svc.verifyPassword user.passwordHash a.password).valid with
    | false =>
      refine .inr (.inr ⟨by simp, ?_⟩)
      have hset : (db.1.setUser (svc.countFailure user a.draw.now)).Valid :=
        db.2.setUser hmem rfl rfl
      rw [Attempt.next, Attempt.respond,
        respond_of_login (login_of_wrong hemail huser hvalid hlocked) hset]
      have hfound : (db.1.setUser (svc.countFailure user a.draw.now)).userForLogin account = _ :=
        Tables.userForLogin_setUser db.2 hmem rfl rfl
      exact hfound.trans (if_pos haccount)
    | true =>
      by_cases hstatus : user.status = .active
      · exact .inl (by simp [hstatus])
      · refine .inr (.inl ⟨by simp, ?_⟩)
        exact congrArg Prod.snd
          (respond_of_login (login_of_inactive hemail huser hvalid hstatus) db.2)

/-! ## Counting -/

/-- The failures that stand against the account, below the limit. -/
def failures (account : String) (db : (sessions svc).Database) : ℕ :=
  ((db.1.userForLogin account).map fun user =>
    min user.failedLoginCount (svc.failedLoginLimit - 1)).getD 0

theorem failures_le (account : String) (db : (sessions svc).Database) :
    failures account db ≤ svc.failedLoginLimit - 1 := by
  rw [failures]
  cases db.1.userForLogin account with
  | none => exact Nat.zero_le _
  | some user => exact Nat.min_le_right _ _

theorem failures_step (account : String) (db : (sessions svc).Database) (a : Attempt) :
    failures account db + (a.isWrong account db).toNat ≤
      failures account (a.next db) + ((a.beginsLockout account db).toNat +
        (svc.failedLoginLimit - 1) * (a.isAccepted account db).toNat) := by
  cases htarget : a.target account db with
  | none =>
    have hsame : failures account (a.next db) = failures account db := by
      rw [failures, failures, userForLogin_of_untargeted htarget]
    have hwrong : a.isWrong account db = false := by
      rw [Attempt.isWrong, htarget]
      rfl
    rw [hsame, hwrong]
    exact Nat.le_add_right _ _
  | some user =>
    obtain ⟨-, huser⟩ := target_eq_some htarget
    rcases next_of_target htarget with haccepted | ⟨hwrong, hnext⟩ | ⟨hwrong, hnext⟩
    · have hright : a.isWrong account db = false := by
        rw [Attempt.isAccepted, htarget, Option.any_some] at haccepted
        rw [Attempt.isWrong, htarget, Option.any_some]
        simp only [Bool.and_eq_true] at haccepted
        rw [haccepted.1.1]
        rfl
      have hle := failures_le account db
      rw [hright, haccepted, Bool.toNat_true, Bool.toNat_false, Nat.mul_one]
      omega
    · rw [hwrong, hnext]
      exact Nat.le_add_right _ _
    · have hbefore : failures account db =
          min user.failedLoginCount (svc.failedLoginLimit - 1) := by
        rw [failures, huser]
        rfl
      have hafter : failures account (a.next db) =
          min (user.failedLoginCount + 1) (svc.failedLoginLimit - 1) := by
        rw [failures, hnext]
        rfl
      rw [hbefore, hafter, hwrong, Attempt.beginsLockout, hwrong, hnext, Option.any_some,
        SessionService.countFailure]
      by_cases hlimit : svc.failedLoginLimit ≤ user.failedLoginCount + 1
      · simp only [hlimit, if_true, decide_true, Bool.and_true, Bool.toNat_true]
        omega
      · simp only [hlimit, if_false, Bool.toNat_true]
        omega

/-- The bound, with all that a start in the middle of a run can bring. -/
theorem wrong_le (account : String) (start : (sessions svc).Database) (attempts : List Attempt) :
    total Attempt.next (fun db a => (a.isWrong account db).toNat) start attempts ≤
      total Attempt.next (fun db a => (a.beginsLockout account db).toNat) start attempts +
        (svc.failedLoginLimit - 1) *
          total Attempt.next (fun db a => (a.isAccepted account db).toNat) start attempts +
        (svc.failedLoginLimit - 1) := by
  have hpaid : failures account start +
      total Attempt.next (fun db a => (a.isWrong account db).toNat) start attempts ≤
        failures account (after Attempt.next start attempts) +
          total Attempt.next (fun db a => (a.beginsLockout account db).toNat +
            (svc.failedLoginLimit - 1) * (a.isAccepted account db).toNat) start attempts :=
    Histories.total_le_of_potential (failures_step account)
  rw [Histories.total_add, Histories.total_mul] at hpaid
  have hend := failures_le account (after Attempt.next start attempts)
  omega

/-- While the account is locked, every password has the same reply and leaves everything. -/
def LocksOut (svc : SessionService) (account : String) (db : (sessions svc).Database)
    (a : Attempt) : Prop :=
  ∀ user, a.target account db = some user → SessionService.lockedAt user a.draw.now = true →
    ∀ password, { a with password := password }.respond db =
      (.error .invalidSessionCredentials, db)

theorem locksOut (account : String) (db : (sessions svc).Database) (a : Attempt) :
    LocksOut svc account db a := by
  intro user htarget hlocked password
  obtain ⟨hemail, huser⟩ := target_eq_some htarget
  exact respond_of_login (login_of_locked hemail huser hlocked password) db.2

/-- In any consecutive attempts, the wrong guesses that count are bounded by the lockouts that begin
and the logins that are accepted meanwhile. -/
theorem lockout_bounds_guesses (svc : SessionService) (hlimit : 0 < svc.failedLoginLimit)
    (account : String) (start : (sessions svc).Database) (attempts : List Attempt) :
    Along Attempt.next (LocksOut svc account) start attempts ∧
      total Attempt.next (fun db a => (a.isWrong account db).toNat) start attempts ≤
        svc.failedLoginLimit *
            total Attempt.next (fun db a => (a.beginsLockout account db).toNat) start attempts +
          svc.failedLoginLimit *
            total Attempt.next (fun db a => (a.isAccepted account db).toNat) start attempts +
          svc.failedLoginLimit := by
  refine ⟨Histories.along_of_forall (locksOut account), ?_⟩
  have hle := wrong_le account start attempts
  have hlockouts : total Attempt.next (fun db a => (a.beginsLockout account db).toNat) start
      attempts ≤ svc.failedLoginLimit *
        total Attempt.next (fun db a => (a.beginsLockout account db).toNat) start attempts :=
    Nat.le_mul_of_pos_left _ hlimit
  have haccepted : (svc.failedLoginLimit - 1) *
        total Attempt.next (fun db a => (a.isAccepted account db).toNat) start attempts ≤
      svc.failedLoginLimit *
        total Attempt.next (fun db a => (a.isAccepted account db).toNat) start attempts :=
    Nat.mul_le_mul_right _ (Nat.sub_le _ _)
  omega

end

namespace Replay

def registered : (sessions svc).Database := (sessions svc).run [(.register user, draw 0 "")] empty

def attempt (password : String) (n : ℕ) : Attempt := ⟨"user", password, draw n (toString n)⟩

/-- Four wrong guesses around each login of the user. -/
def guesses : List Attempt :=
  [attempt "a" 1, attempt "b" 2, attempt "c" 3, attempt "d" 4, attempt "password" 5,
    attempt "e" 6, attempt "f" 7, attempt "g" 8, attempt "h" 9]

theorem guesses_bounded :
    Along Attempt.next (LocksOut svc "user") registered guesses ∧
      total Attempt.next (fun db a => (a.isWrong "user" db).toNat) registered guesses ≤
        svc.failedLoginLimit *
            total Attempt.next (fun db a => (a.beginsLockout "user" db).toNat) registered guesses +
          svc.failedLoginLimit *
            total Attempt.next (fun db a => (a.isAccepted "user" db).toNat) registered guesses +
          svc.failedLoginLimit :=
  lockout_bounds_guesses svc (by decide) "user" registered guesses

/-- No lockout begins, and more wrong guesses are compared than the limit. -/
theorem guesses_exceed_limit :
    ¬ total Attempt.next (fun db a => (a.isWrong "user" db).toNat) registered guesses ≤
      svc.failedLoginLimit *
          total Attempt.next (fun db a => (a.beginsLockout "user" db).toNat) registered guesses +
        svc.failedLoginLimit := by
  decide +kernel

end Replay

end MaestroKernel.Auth
