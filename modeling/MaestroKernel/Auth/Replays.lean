import MaestroKernel.Auth.FactorRows
import MaestroKernel.Library.Histories

/-! # Codes are not replayed

The last used step of a factor is at least every step that was accepted of it, and a code is accepted
for a later step only. So the accepted steps of a factor increase, whatever the clock reads. -/

namespace MaestroKernel.Auth.Factors

open Transaction
open Histories (Along after)

section

variable {env : Platform} {t t' : Tables} {draw : Draw} {c : Call} {reply : Except Failure Reply}

/-! ## Accepted steps -/

/-- What an accepted code leaves: its step was unused, and is stored. -/
structure Advances (now : ℤ) (factorId : Uuid) (step : ℕ) (t t' : Tables) : Prop where
  window : InWindow now step
  unused : ∀ factor ∈ t.factors, factor.id = factorId → Unused factor step
  stored : ∃ factor ∈ t'.factors, factor.id = factorId ∧ factor.lastUsedStep = some step

theorem advances_of_accepts {factor : AuthMfaFactor} {code : String} {now : ℤ} {step : ℕ}
    (factor' : AuthMfaFactor) (hv : t.Valid) (hmem : factor ∈ t.factors)
    (haccepts : Accepts env factor code now step)
    (hid : factor'.id = factor.id) (hstep : factor'.lastUsedStep = some step)
    (hfactors : t'.factors = (t.setFactor factor').factors) :
    Advances now factor.id step t t' := by
  refine ⟨haccepts.window, ?_, factor', ?_, hid, hstep⟩
  · intro other hother heq
    rw [List.inj_on_of_nodup_map hv.factor_id hother hmem heq]
    exact haccepts.unused
  · have hfound := hv.find?_factor hmem
    rw [← hid] at hfound
    rw [hfactors]
    exact First.mem_replace_self hfound

theorem advances_of_call {factorId : Uuid} {step : ℕ} (hv : t.Valid)
    (h : call env c draw t = .ok (t', reply)) (hused : usedStep reply = some (factorId, step)) :
    Advances draw.now factorId step t t' := by
  cases c with
  | enroll userId label =>
    obtain ⟨user, -, -, rfl⟩ := enroll_ok h
    rw [enrolledReply] at hused
    split at hused <;> cases hused
  | confirmEnrollment userId sessionId code =>
    obtain ⟨factor, step', session, hfactor, haccepts, hmarked, rfl⟩ := confirmEnrollment_ok h
    obtain ⟨rfl, rfl⟩ := Prod.mk.inj (Option.some.inj hused)
    refine advances_of_accepts (confirmedFactor factor step' draw.now) hv
      (Tables.of_factor? hfactor).1 haccepts rfl rfl ?_
    rw [hmarked.tables]
    rfl
  | verify userId sessionId code recoveryCode =>
    obtain ⟨factor, session, hfactor, ⟨given, step', -, haccepts, hmarked, rfl⟩ |
      ⟨hash, stored, -, -, rfl⟩⟩ := verify_ok h
    · obtain ⟨rfl, rfl⟩ := Prod.mk.inj (Option.some.inj hused)
      refine advances_of_accepts (steppedFactor factor step') hv (Tables.of_factor? hfactor).1
        haccepts rfl rfl ?_
      rw [hmarked.tables]
      rfl
    · cases hused
  | regenerateRecoveryCodes userId sessionId =>
    obtain ⟨factor, -, -, rfl⟩ := regenerateRecoveryCodes_ok h
    cases hused
  | disable userId sessionId =>
    obtain ⟨-, -, rfl, -⟩ := disable_ok h
    cases hused
  | completeRecovery requestId rawCompletionToken =>
    obtain ⟨request, ⟨-, rfl⟩ | ⟨user, -, rfl⟩⟩ := completeRecovery_ok h
    · cases hused
    · cases hused

/-! ## Satisfied sessions -/

/-- The call has used up a step of a factor of the user, or an unused recovery code of one. -/
def Spends (userId : Uuid) (now : ℤ) (t t' : Tables) (reply : Except Failure Reply) : Prop :=
  ∃ factor ∈ t.factors, factor.userId = userId ∧
    ((∃ step, usedStep reply = some (factor.id, step)) ∨
      ∃ code ∈ t.codes, code.factorId = factor.id ∧ code.usedAt = none ∧
        { code with usedAt := some now } ∈ t'.codes)

/-- The second factor of a session is as before the call, or the call has used something up. -/
def SessionKept (now : ℤ) (t t' : Tables) (reply : Except Failure Reply) (session' : AuthSession) :
    Prop :=
  (∃ session ∈ t.sessions, session.id = session'.id ∧
      session.mfaSatisfiedAt = session'.mfaSatisfiedAt) ∨
    session'.mfaSatisfiedAt = some now ∧ Spends session'.userId now t t' reply

theorem sessionKept_of_same (now : ℤ) (reply : Except Failure Reply)
    (hsessions : t'.sessions = t.sessions) :
    ∀ session' ∈ t'.sessions, SessionKept now t t' reply session' := by
  intro session' hmem
  rw [hsessions] at hmem
  exact .inl ⟨session', hmem, rfl, rfl⟩

theorem sessionKept_of_revoke {t₁ : Tables} (now : ℤ) (reply : Except Failure Reply)
    (selected : AuthSession → Bool) (userId : Uuid) (reason : String)
    (h₁ : t₁.sessions = t.sessions)
    (hsessions : t'.sessions = (t₁.revokeSessions selected userId now reason).sessions) :
    ∀ session' ∈ t'.sessions, SessionKept now t t' reply session' := by
  rw [hsessions, Tables.revokeSessions, h₁, List.forall_mem_map]
  intro session hmem
  refine .inl ⟨session, hmem, ?_⟩
  split
  · exact ⟨rfl, rfl⟩
  · exact ⟨rfl, rfl⟩

theorem sessionKept_of_marked {t₁ : Tables} {userId sessionId : Uuid} {now : ℤ}
    {session : AuthSession} (hmarked : Marked userId sessionId now t₁ t' session)
    (h₁ : t₁.sessions = t.sessions) (hspends : Spends userId now t t' reply) :
    ∀ session' ∈ t'.sessions, SessionKept now t t' reply session' := by
  intro session' hmem
  rw [hmarked.tables] at hmem
  rcases First.mem_replace hmem with rfl | hold
  · refine .inr ⟨rfl, ?_⟩
    rw [show _ = userId from (Tables.of_session? hmarked.found).2.2]
    exact hspends
  · rw [h₁] at hold
    exact .inl ⟨session', hold, rfl, rfl⟩

theorem sessions_of_call (hv : t.Valid) (h : call env c draw t = .ok (t', reply)) :
    ∀ session' ∈ t'.sessions, SessionKept draw.now t t' reply session' := by
  cases c with
  | enroll userId label =>
    obtain ⟨user, -, rfl, -⟩ := enroll_ok h
    exact sessionKept_of_same draw.now reply rfl
  | confirmEnrollment userId sessionId code =>
    obtain ⟨factor, step, session, hfactor, haccepts, hmarked, rfl⟩ := confirmEnrollment_ok h
    obtain ⟨hmem, hown, -⟩ := Tables.of_factor? hfactor
    exact sessionKept_of_marked hmarked rfl ⟨factor, hmem, hown, .inl ⟨step, rfl⟩⟩
  | verify userId sessionId code recoveryCode =>
    obtain ⟨factor, session, hfactor, ⟨given, step, -, haccepts, hmarked, rfl⟩ |
      ⟨hash, stored, hstored, hmarked, rfl⟩⟩ := verify_ok h
    · obtain ⟨hmem, hown, -⟩ := Tables.of_factor? hfactor
      exact sessionKept_of_marked hmarked rfl ⟨factor, hmem, hown, .inl ⟨step, rfl⟩⟩
    · obtain ⟨hmem, hown, -⟩ := Tables.of_factor? hfactor
      obtain ⟨hcode, hfactorId, hunused⟩ := Tables.of_unusedCode? hstored
      refine sessionKept_of_marked hmarked rfl
        ⟨factor, hmem, hown, .inr ⟨stored, hcode, hfactorId, hunused, ?_⟩⟩
      rw [hmarked.tables]
      exact First.mem_replace_self (First.find?_key hv.code_id hcode)
  | regenerateRecoveryCodes userId sessionId =>
    obtain ⟨factor, -, rfl, -⟩ := regenerateRecoveryCodes_ok h
    exact sessionKept_of_same draw.now reply rfl
  | disable userId sessionId =>
    obtain ⟨-, -, -, factor, hfactor, rfl⟩ := disable_ok h
    exact sessionKept_of_revoke draw.now reply _ userId "mfa_disabled" rfl rfl
  | completeRecovery requestId rawCompletionToken =>
    obtain ⟨request, ⟨rfl, -⟩ | ⟨user, rfl, -⟩⟩ := completeRecovery_ok h
    · exact sessionKept_of_same draw.now reply rfl
    · exact sessionKept_of_revoke draw.now reply (fun _ => true) user.id
        "account_recovery_completed" rfl rfl

/-! ## Runs -/

/-- A step that was accepted of a factor, with the clock reading. -/
structure Acceptance where
  factorId : Uuid
  step : ℕ
  now : ℤ

def acceptance (now : ℤ) (used : Uuid × ℕ) : Acceptance := ⟨used.1, used.2, now⟩

/-- A database, and what has been accepted so far. -/
structure Verifications (env : Platform) where
  db : (service env).Database
  accepted : List Acceptance

def Verifications.next (w : Verifications env) (event : Call × Draw) : Verifications env where
  db := ((service env).respond event w.db).2
  accepted := w.accepted ++
    ((usedStep ((service env).respond event w.db).1).map (acceptance event.2.now)).toList

/-- The steps of a factor increase, in the order in which they are accepted. -/
def Increasing (accepted : List Acceptance) : Prop :=
  accepted.Pairwise fun earlier later =>
    earlier.factorId = later.factorId → earlier.step < later.step

/-- The row of a factor knows every step that was accepted of it. -/
def Known (t : Tables) (acceptance : Acceptance) : Prop :=
  ∃ factor ∈ t.factors, factor.id = acceptance.factorId ∧
    ∃ used, factor.lastUsedStep = some used ∧ acceptance.step ≤ used

structure Sound (w : Verifications env) : Prop where
  increasing : Increasing w.accepted
  window : ∀ acceptance ∈ w.accepted, InWindow acceptance.now acceptance.step
  known : ∀ acceptance ∈ w.accepted, Known w.db.1 acceptance

theorem known_of_call {acceptance : Acceptance} (hv : t.Valid)
    (h : call env c draw t = .ok (t', reply)) (hknown : Known t acceptance) :
    Known t' acceptance := by
  obtain ⟨factor, hmem, hid, used, hused, hle⟩ := hknown
  obtain ⟨front, hkeeps, hfactors⟩ := factors_of_call hv h
  obtain ⟨factor', hmem', hkept⟩ := First.exists_of_forall₂ hkeeps hmem
  refine ⟨factor', ?_, hkept.id.trans hid, ?_⟩
  · rw [hfactors]
    exact List.mem_append_left _ hmem'
  · rcases hkept.lastUsedStep with hsame | ⟨step, -, hunused, hstep⟩
    · exact ⟨used, hsame.trans hused, hle⟩
    · exact ⟨step, hstep, hle.trans (hunused used hused).le⟩

theorem lt_of_known {acceptance : Acceptance} {factorId : Uuid} {now : ℤ} {step : ℕ}
    (hknown : Known t acceptance) (hadvances : Advances now factorId step t t')
    (hsame : acceptance.factorId = factorId) : acceptance.step < step := by
  obtain ⟨factor, hmem, hid, used, hused, hle⟩ := hknown
  exact hle.trans_lt (hadvances.unused factor hmem (hid.trans hsame) used hused)

theorem known_of_advances {factorId : Uuid} {now : ℤ} {step : ℕ}
    (hadvances : Advances now factorId step t t') : Known t' ⟨factorId, step, now⟩ := by
  obtain ⟨factor, hmem, hid, hstep⟩ := hadvances.stored
  exact ⟨factor, hmem, hid, step, hstep, le_rfl⟩

theorem sound_next {w : Verifications env} (hsound : Sound w) (event : Call × Draw) :
    Sound (w.next event) := by
  obtain ⟨c, draw⟩ := event
  rcases Service.respond_error_or_commit (S := service env) (c, draw) w.db with
    ⟨e, hrespond⟩ | ⟨t', reply, hvalid, hwork, hrespond⟩
  · have hnext : w.next (c, draw) = w := by
      rw [Verifications.next, hrespond]
      exact congrArg (Verifications.mk w.db) (List.append_nil _)
    rw [hnext]
    exact hsound
  · have hcall := call_of_commit hwork
    have hkeeps : ∀ acceptance ∈ w.accepted, Known t' acceptance := fun acceptance hmem =>
      known_of_call w.db.2 hcall (hsound.known acceptance hmem)
    cases hused : usedStep reply with
    | none =>
      have hnext : w.next (c, draw) = ⟨⟨t', hvalid⟩, w.accepted⟩ := by
        rw [Verifications.next, hrespond]
        dsimp only
        rw [hused]
        exact congrArg (Verifications.mk _) (List.append_nil _)
      rw [hnext]
      exact ⟨hsound.increasing, hsound.window, hkeeps⟩
    | some used =>
      obtain ⟨factorId, step⟩ := used
      have hadvances := advances_of_call w.db.2 hcall hused
      have hnext : w.next (c, draw) =
          ⟨⟨t', hvalid⟩, w.accepted ++ [⟨factorId, step, draw.now⟩]⟩ := by
        rw [Verifications.next, hrespond]
        dsimp only
        rw [hused]
        rfl
      rw [hnext]
      constructor
      case increasing =>
        refine List.pairwise_append.mpr ⟨hsound.increasing, List.pairwise_singleton _ _, ?_⟩
        intro earlier hmem later hlater hsame
        obtain rfl := List.mem_singleton.mp hlater
        exact lt_of_known (hsound.known earlier hmem) hadvances hsame
      case window =>
        rw [List.forall_mem_append, List.forall_mem_singleton]
        exact ⟨hsound.window, hadvances.window⟩
      case known =>
        rw [List.forall_mem_append, List.forall_mem_singleton]
        exact ⟨hkeeps, known_of_advances hadvances⟩

/-- Whatever satisfies a session has been used up by the call. -/
def SessionsKept (w : Verifications env) (event : Call × Draw) : Prop :=
  ∀ session' ∈ ((service env).respond event w.db).2.1.sessions,
    SessionKept event.2.now w.db.1 ((service env).respond event w.db).2.1
      ((service env).respond event w.db).1 session'

theorem sessionsKept (w : Verifications env) (event : Call × Draw) : SessionsKept w event := by
  obtain ⟨c, draw⟩ := event
  rw [SessionsKept]
  rcases Service.respond_error_or_commit (S := service env) (c, draw) w.db with
    ⟨e, hrespond⟩ | ⟨t', reply, hvalid, hwork, hrespond⟩
  · rw [hrespond]
    exact sessionKept_of_same draw.now _ rfl
  · rw [hrespond]
    exact sessions_of_call w.db.2 (call_of_commit hwork)

/-- In every run the accepted steps of a factor increase within their windows, and a session is
satisfied only by a call that has used up a step or a recovery code. -/
theorem codes_not_replayed (env : Platform) (start : (service env).Database)
    (events : List (Call × Draw)) :
    let accepted := (after Verifications.next ⟨start, []⟩ events).accepted
    Increasing accepted ∧
      (∀ acceptance ∈ accepted, InWindow acceptance.now acceptance.step) ∧
      Along Verifications.next SessionsKept (⟨start, []⟩ : Verifications env) events := by
  have hstart : Sound (⟨start, []⟩ : Verifications env) :=
    ⟨.nil, List.forall_mem_nil _, List.forall_mem_nil _⟩
  have hsound : Sound (after Verifications.next (⟨start, []⟩ : Verifications env) events) :=
    Along.invariant (Histories.along_of_forall (P := fun _ _ => True) fun _ _ => trivial) hstart
      fun _ event h _ => sound_next h event
  exact ⟨hsound.increasing, hsound.window, Histories.along_of_forall sessionsKept⟩

end

namespace Sample

/-- A factor with one recovery code. -/
def enrolled : (service platform).Database :=
  ⟨{ users := [user]
     sessions := [session]
     factors := [factor]
     codes := [⟨8, 7, "digest of CODE", none⟩] }, by decide +kernel⟩

/-- A recovery code satisfies a session as well, and no step is accepted. -/
theorem recovery_code_satisfies :
    let w := (⟨enrolled, []⟩ : Verifications platform).next
      (.verify 1 5 none (some " CODE"), draw (10 * second) 20)
    w.accepted = [] ∧ w.db.1.sessions = [{ session with mfaSatisfiedAt := some (10 * second) }] := by
  decide +kernel

end Sample

end MaestroKernel.Auth.Factors
