import MaestroKernel.Auth.Factors

/-! # What a call does to the rows of the second factor

Each call is read once: what it has checked, and the rows that it commits. A factor keeps its id, its
user and its label; its last used step changes only where a code is accepted. -/

namespace MaestroKernel.Auth.Factors

open Checked Transaction
open Durable (isBlank)
open Mfa (MfaServiceError TOTP_PERIOD_SECONDS TotpVerification matchStep verifyTotp)

variable {env : Platform} {t t' : Tables} {userId sessionId : Uuid} {draw : Draw}
  {reply : Except Failure Reply} {factor : AuthMfaFactor} {status : MfaFactorStatus}

namespace Tables

theorem of_factor? (h : t.factor? userId status = some factor) :
    factor ∈ t.factors ∧ factor.userId = userId ∧ factor.status = status := by
  have hmem := List.mem_of_mem_head? h
  simpa [List.mem_insertionSort, List.mem_filter] using hmem

theorem factor?_eq_none : t.factor? userId status = none ↔
    ∀ factor ∈ t.factors, factor.userId = userId → factor.status ≠ status := by
  rw [factor?, List.head?_eq_none_iff, List.eq_nil_iff_length_eq_zero, List.length_insertionSort,
    List.length_eq_zero_iff, List.filter_eq_nil_iff]
  simp

theorem Valid.find?_factor (hv : t.Valid) (hmem : factor ∈ t.factors) :
    t.factors.find? (fun other => other.id = factor.id) = some factor :=
  First.find?_key hv.factor_id hmem

theorem of_session? {session : AuthSession} (h : t.session? userId sessionId = some session) :
    session ∈ t.sessions ∧ session.id = sessionId ∧ session.userId = userId := by
  have hkey := List.find?_some h
  simp only [Bool.and_eq_true, decide_eq_true_eq] at hkey
  exact ⟨List.mem_of_find?_eq_some h, hkey⟩

theorem of_unusedCode? {factorId : Uuid} {codeHash : String} {code : AuthMfaRecoveryCode}
    (h : t.unusedCode? factorId codeHash = some code) :
    code ∈ t.codes ∧ code.factorId = factorId ∧ code.usedAt = none := by
  have hkey := List.find?_some h
  simp only [Bool.and_eq_true, decide_eq_true_eq, Option.isNone_iff_eq_none] at hkey
  exact ⟨List.mem_of_find?_eq_some h, hkey.1.1, hkey.2⟩

end Tables

/-! ## Codes -/

/-- The step is close to the instant. -/
def InWindow (now : ℤ) (step : ℕ) : Prop :=
  now / (TOTP_PERIOD_SECONDS * 1000000) - 1 ≤ step ∧
    (step : ℤ) ≤ now / (TOTP_PERIOD_SECONDS * 1000000) + 1

/-- No step from this one on has been used. -/
def Unused (factor : AuthMfaFactor) (step : ℕ) : Prop :=
  ∀ used, factor.lastUsedStep = some used → used < step

theorem matchStep_accepted {codeForStep : List UInt8 → ℕ → String} {secret : List UInt8}
    {code : String} {lastUsedStep : Option ℕ} {steps : List ℤ} {found : TotpVerification} {step : ℕ}
    (h : matchStep codeForStep secret code lastUsedStep steps = .ok found)
    (hstep : acceptedStep found = some step) :
    (step : ℤ) ∈ steps ∧ codeForStep secret step = code ∧
      ∀ used, lastUsedStep = some used → used < step := by
  induction steps with
  | nil =>
    obtain rfl := Except.ok.inj h
    cases hstep
  | cons next steps ih =>
    rw [matchStep] at h
    by_cases hnegative : next < 0
    · rw [if_pos hnegative] at h
      exact (ih h).imp_left (List.mem_cons_of_mem next)
    rw [if_neg hnegative] at h
    split at h
    · cases h
    split at h
    · rename_i hcode
      split at h
      · obtain rfl := Except.ok.inj h
        cases hstep
      · rename_i hunused
        obtain rfl := Except.ok.inj h
        obtain rfl := Option.some.inj hstep
        refine ⟨?_, hcode, fun used hused => ?_⟩
        · rw [Int.toNat_of_nonneg (not_lt.mp hnegative)]
          exact List.mem_cons_self
        · rw [hused] at hunused
          simpa using hunused
    · exact (ih h).imp_left (List.mem_cons_of_mem next)

theorem verifyTotp_accepted {codeForStep : List UInt8 → ℕ → String} {secret : List UInt8}
    {code : String} {now : ℤ} {lastUsedStep : Option ℕ} {found : TotpVerification} {step : ℕ}
    (h : verifyTotp codeForStep secret code now lastUsedStep = .ok found)
    (hstep : acceptedStep found = some step) :
    InWindow now step ∧ codeForStep secret step = code ∧
      ∀ used, lastUsedStep = some used → used < step := by
  rw [verifyTotp] at h
  split at h
  · obtain rfl := Except.ok.inj h
    cases hstep
  split at h
  · cases h
  obtain ⟨hmem, hcode, hunused⟩ := matchStep_accepted h hstep
  refine ⟨?_, hcode, hunused⟩
  simp only [List.mem_cons, List.not_mem_nil, or_false] at hmem
  rw [InWindow]
  omega

/-- A step that `_verify_totp_factor` accepts. -/
structure Accepts (env : Platform) (factor : AuthMfaFactor) (code : String) (now : ℤ) (step : ℕ) :
    Prop where
  window : InWindow now step
  unused : Unused factor step
  code : ∃ secret, env.decrypt ⟨factor.secretCiphertext, factor.secretKeyVersion⟩ factor.id
    factor.userId = some secret ∧ env.totpCodeForStep secret step = code

theorem accepts_of_ok {code : String} {now : ℤ} {step : ℕ}
    (h : verifyTotpFactor env factor code now = .ok step) : Accepts env factor code now step := by
  simp only [verifyTotpFactor, bind_ok, mapError_eq_ok, demand_eq_ok] at h
  obtain ⟨secret, hsecret, found, hfound, hstep⟩ := h
  obtain ⟨hwindow, hcode, hunused⟩ := verifyTotp_accepted hfound hstep
  exact ⟨hwindow, hunused, secret, hsecret, hcode⟩

/-! ## Calls that commit -/

/-- An open session of the user, which is marked. -/
structure Marked (userId sessionId : Uuid) (now : ℤ) (t t' : Tables) (session : AuthSession) :
    Prop where
  found : t.session? userId sessionId = some session
  opened : session.revokedAt = none
  unexpired : now < session.expiresAt
  tables : t' = t.setSession { session with mfaSatisfiedAt := some now }

theorem marked_of_ok {now : ℤ} (h : markSessionSatisfied userId sessionId now t = .ok t') :
    ∃ session, Marked userId sessionId now t t' session := by
  simp only [markSessionSatisfied, demand_bind_ok, raiseIf_bind_ok, pure_ok] at h
  obtain ⟨session, hfound, hopen, rfl⟩ := h
  push Not at hopen
  exact ⟨session, hfound, hopen.1, hopen.2, rfl⟩

/-- The row that an enrolment adds. -/
def pendingFactor (userId : Uuid) (label : String) (draw : Draw) : AuthMfaFactor where
  id := draw.factorId
  userId := userId
  label := label
  status := .pending
  secretCiphertext := draw.encrypted.ciphertext
  secretKeyVersion := draw.encrypted.keyVersion
  createdAt := draw.createdAt

def enrolledTables (userId : Uuid) (label : String) (draw : Draw) (t : Tables) : Tables :=
  { t.disableFactors userId [.pending] draw.now with
    factors := (t.disableFactors userId [.pending] draw.now).factors ++
      [pendingFactor userId label draw] }

/-- What an enrolment replies after its commit. -/
def enrolledReply (env : Platform) (user : IdentityUser) (draw : Draw) : Except Failure Reply :=
  if isBlank user.emailNormalized then .error (.mfa (.valueError "account_name and issuer are required."))
  else .ok (.enrolled ⟨env.encodeTotpSecret draw.secret,
    env.buildTotpProvisioningUri draw.secret user.emailNormalized⟩)

theorem enroll_ok {label : String} (h : enroll env userId label draw t = .ok (t', reply)) :
    ∃ user, t.users.find? (fun user => user.id = userId) = some user ∧
      t' = enrolledTables userId label draw t ∧ reply = enrolledReply env user draw := by
  simp only [enroll, raiseIf_bind_ok, demand_bind_ok, pure_ok, Prod.mk.injEq] at h
  obtain ⟨-, user, huser, -, rfl, hreply⟩ := h
  exact ⟨user, huser, rfl, hreply.symm⟩

/-- The row of a factor after a code of the step. -/
def steppedFactor (factor : AuthMfaFactor) (step : ℕ) : AuthMfaFactor :=
  { factor with lastUsedStep := some step }

def confirmedFactor (factor : AuthMfaFactor) (step : ℕ) (now : ℤ) : AuthMfaFactor :=
  { factor with lastUsedStep := some step, status := .active, verifiedAt := some now }

theorem confirmEnrollment_ok {code : String}
    (h : confirmEnrollment env userId sessionId code draw t = .ok (t', reply)) :
    ∃ factor step session, t.factor? userId .pending = some factor ∧
      Accepts env factor code draw.now step ∧
      Marked userId sessionId draw.now
        ((t.setFactor (confirmedFactor factor step draw.now)).replaceCodes factor.id draw.codes) t'
        session ∧
      reply = .ok (.confirmed (draw.codes.map fun code => code.raw) (.step factor.id step)) := by
  simp only [confirmEnrollment, bind_ok, demand_eq_ok, pure_ok, Prod.mk.injEq] at h
  obtain ⟨factor, hfactor, step, hstep, satisfied, hmark, rfl, hreply⟩ := h
  obtain ⟨session, hmarked⟩ := marked_of_ok hmark
  exact ⟨factor, step, session, hfactor, accepts_of_ok hstep, hmarked, hreply.symm⟩

theorem verify_ok {code recoveryCode : Option String}
    (h : verify env userId sessionId code recoveryCode draw t = .ok (t', reply)) :
    ∃ factor session, t.factor? userId .active = some factor ∧
      ((∃ given step, code = some given ∧ Accepts env factor given draw.now step ∧
          Marked userId sessionId draw.now (t.setFactor (steppedFactor factor step)) t' session ∧
          reply = .ok (.verified (.step factor.id step))) ∨
        ∃ hash stored, t.unusedCode? factor.id hash = some stored ∧
          Marked userId sessionId draw.now (t.useCode stored draw.now) t' session ∧
          reply = .ok (.verified (.recoveryCode stored.id))) := by
  unfold verify at h
  split at h
  · cases h
  · rename_i factor given hfactor
    simp only [verifyCode, bind_ok, pure_ok, Prod.mk.injEq] at h
    obtain ⟨step, hstep, satisfied, hmark, rfl, hreply⟩ := h
    obtain ⟨session, hmarked⟩ := marked_of_ok hmark
    exact ⟨factor, session, hfactor, .inl ⟨given, step, rfl, accepts_of_ok hstep, hmarked,
      hreply.symm⟩⟩
  · rename_i factor given hfactor
    simp only [verifyRecoveryCode, bind_ok, demand_eq_ok, pure_ok, Prod.mk.injEq] at h
    obtain ⟨stored, hstored, satisfied, hmark, rfl, hreply⟩ := h
    obtain ⟨session, hmarked⟩ := marked_of_ok hmark
    exact ⟨factor, session, hfactor, .inr ⟨_, stored, hstored, hmarked, hreply.symm⟩⟩
  · cases h

theorem regenerateRecoveryCodes_ok
    (h : regenerateRecoveryCodes env userId sessionId draw t = .ok (t', reply)) :
    ∃ factor, t.factor? userId .active = some factor ∧
      t' = t.replaceCodes factor.id draw.codes ∧
      reply = .ok (.regenerated (draw.codes.map fun code => code.raw)) := by
  rw [regenerateRecoveryCodes, check_bind_ok] at h
  obtain ⟨-, h⟩ := h
  simp only [demand_bind_ok, pure_ok, Prod.mk.injEq] at h
  obtain ⟨factor, hfactor, rfl, hreply⟩ := h
  exact ⟨factor, hfactor, rfl, hreply.symm⟩

def disabledTables (userId sessionId : Uuid) (factor : AuthMfaFactor) (now : ℤ) (t : Tables) :
    Tables :=
  ((t.setFactor (Tables.disabledAt now factor)).replaceCodes factor.id []).revokeSessions
    (fun session => session.id ≠ sessionId) userId now "mfa_disabled"

theorem disable_ok (h : disable env userId sessionId draw t = .ok (t', reply)) :
    env.recentStepUp (t.session? userId sessionId) draw.now = true ∧
      t.isRequiredByRole userId = false ∧ reply = .ok .disabled ∧
      ∃ factor, t.factor? userId .active = some factor ∧
        t' = disabledTables userId sessionId factor draw.now t := by
  rw [disable, check_bind_ok, assertRecentStepUp, raiseIf_eq_ok] at h
  obtain ⟨hrecent, h⟩ := h
  simp only [raiseIf_bind_ok, Bool.not_eq_true, demand_bind_ok, pure_ok, Prod.mk.injEq] at h
  obtain ⟨hrequired, factor, hfactor, rfl, hreply⟩ := h
  exact ⟨by simpa using hrecent, hrequired, hreply.symm, factor, hfactor, rfl⟩

theorem completeRecovery_ok {requestId : Uuid} {rawCompletionToken : String}
    (h : completeRecovery env requestId rawCompletionToken draw t = .ok (t', reply)) :
    ∃ request, (t' = setRequest request t ∧ reply = .error .accountRecoveryDenied) ∨
      ∃ user, t' = setRequest request (recover user draw t) ∧ reply = .ok .recovered := by
  simp only [completeRecovery, demand_bind_ok, raiseIf_bind_ok] at h
  obtain ⟨request, -, -, h⟩ := h
  split at h
  · simp only [pure_ok, Prod.mk.injEq] at h
    exact ⟨_, .inl ⟨h.1.symm, h.2.symm⟩⟩
  · simp only [demand_bind_ok, raiseIf_bind_ok, pure_ok, Prod.mk.injEq] at h
    obtain ⟨-, user, -, -, rfl, hreply⟩ := h
    exact ⟨_, .inr ⟨user, rfl, hreply.symm⟩⟩

theorem call_of_commit {c : Call} (h : (service env).work (c, draw) t = .commit t' reply) :
    call env c draw t = .ok (t', reply) := by
  change ending (call env c draw t) = .commit t' reply at h
  cases hcall : call env c draw t with
  | error e =>
    rw [hcall] at h
    cases h
  | ok result =>
    rw [hcall] at h
    obtain ⟨rfl, rfl⟩ := Ending.commit.inj h
    rfl

/-! ## The rows of the factors -/

/-- The step that a call has used up. -/
def usedStep : Except Failure Reply → Option (Uuid × ℕ)
  | .ok (.confirmed _ (.step factorId step)) => some (factorId, step)
  | .ok (.verified (.step factorId step)) => some (factorId, step)
  | _ => none

/-- The row of a factor after a call that has used up `used`. -/
structure Keeps (used : Option (Uuid × ℕ)) (factor factor' : AuthMfaFactor) : Prop where
  id : factor'.id = factor.id
  userId : factor'.userId = factor.userId
  label : factor'.label = factor.label
  lastUsedStep : factor'.lastUsedStep = factor.lastUsedStep ∨
    ∃ step, used = some (factor.id, step) ∧ Unused factor step ∧ factor'.lastUsedStep = some step

theorem Keeps.refl (used : Option (Uuid × ℕ)) (factor : AuthMfaFactor) : Keeps used factor factor :=
  ⟨rfl, rfl, rfl, .inl rfl⟩

theorem disabledAt_keeps (used : Option (Uuid × ℕ)) (now : ℤ) (factor : AuthMfaFactor) :
    Keeps used factor (Tables.disabledAt now factor) :=
  ⟨rfl, rfl, rfl, .inl rfl⟩

theorem steppedFactor_keeps {step : ℕ} (hunused : Unused factor step) :
    Keeps (some (factor.id, step)) factor (steppedFactor factor step) :=
  ⟨rfl, rfl, rfl, .inr ⟨step, rfl, hunused, rfl⟩⟩

theorem confirmedFactor_keeps {step : ℕ} (now : ℤ) (hunused : Unused factor step) :
    Keeps (some (factor.id, step)) factor (confirmedFactor factor step now) :=
  ⟨rfl, rfl, rfl, .inr ⟨step, rfl, hunused, rfl⟩⟩

theorem setFactor_keeps {used : Option (Uuid × ℕ)} {factor' : AuthMfaFactor} (hv : t.Valid)
    (hmem : factor ∈ t.factors) (hkeeps : Keeps used factor factor') :
    List.Forall₂ (Keeps used) t.factors (t.setFactor factor').factors := by
  have hsame : List.Forall₂ Eq t.factors t.factors := List.forall₂_refl t.factors
  refine First.forall₂_replace hsame ?_ ?_ (hv.find?_factor hmem) hkeeps
  · rintro x _ rfl
    rw [hkeeps.id]
  · rintro x _ rfl
    exact .refl used x

theorem disableFactors_keeps (used : Option (Uuid × ℕ)) (t : Tables) (userId : Uuid)
    (statuses : List MfaFactorStatus) (now : ℤ) :
    List.Forall₂ (Keeps used) t.factors (t.disableFactors userId statuses now).factors := by
  rw [Tables.disableFactors, List.forall₂_map_right_iff, List.forall₂_same]
  intro factor _
  split
  · exact disabledAt_keeps used now factor
  · exact .refl used factor

theorem same_keeps (used : Option (Uuid × ℕ)) (t : Tables) :
    List.Forall₂ (Keeps used) t.factors t.factors := by
  rw [List.forall₂_same]
  exact fun factor _ => .refl used factor

def addedFactors (draw : Draw) : Call → List AuthMfaFactor
  | .enroll userId label => [pendingFactor userId label draw]
  | _ => []

theorem factors_of_call {c : Call} (hv : t.Valid) (h : call env c draw t = .ok (t', reply)) :
    ∃ front, List.Forall₂ (Keeps (usedStep reply)) t.factors front ∧
      t'.factors = front ++ addedFactors draw c := by
  cases c with
  | enroll userId label =>
    obtain ⟨user, -, rfl, -⟩ := enroll_ok h
    exact ⟨_, disableFactors_keeps _ t userId [.pending] draw.now, rfl⟩
  | confirmEnrollment userId sessionId code =>
    obtain ⟨factor, step, session, hfactor, haccepts, hmarked, rfl⟩ := confirmEnrollment_ok h
    refine ⟨_, setFactor_keeps hv (Tables.of_factor? hfactor).1
      (confirmedFactor_keeps draw.now haccepts.unused), ?_⟩
    rw [hmarked.tables]
    exact (List.append_nil _).symm
  | verify userId sessionId code recoveryCode =>
    obtain ⟨factor, session, hfactor, ⟨given, step, -, haccepts, hmarked, rfl⟩ |
      ⟨hash, stored, -, hmarked, rfl⟩⟩ := verify_ok h
    · refine ⟨_, setFactor_keeps hv (Tables.of_factor? hfactor).1
        (steppedFactor_keeps haccepts.unused), ?_⟩
      rw [hmarked.tables]
      exact (List.append_nil _).symm
    · refine ⟨_, same_keeps _ t, ?_⟩
      rw [hmarked.tables]
      exact (List.append_nil _).symm
  | regenerateRecoveryCodes userId sessionId =>
    obtain ⟨factor, -, rfl, -⟩ := regenerateRecoveryCodes_ok h
    exact ⟨_, same_keeps _ t, (List.append_nil _).symm⟩
  | disable userId sessionId =>
    obtain ⟨-, -, -, factor, hfactor, rfl⟩ := disable_ok h
    exact ⟨_, setFactor_keeps hv (Tables.of_factor? hfactor).1 (disabledAt_keeps _ draw.now factor),
      (List.append_nil _).symm⟩
  | completeRecovery requestId rawCompletionToken =>
    obtain ⟨request, ⟨rfl, -⟩ | ⟨user, rfl, -⟩⟩ := completeRecovery_ok h
    · exact ⟨_, same_keeps _ t, (List.append_nil _).symm⟩
    · exact ⟨_, disableFactors_keeps _ _ user.id [.pending, .active] draw.now,
        (List.append_nil _).symm⟩

end MaestroKernel.Auth.Factors
