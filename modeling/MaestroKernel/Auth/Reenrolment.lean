import MaestroKernel.Auth.FactorRows
import MaestroKernel.Library.Histories
import Mathlib.Data.Fintype.EquivFin

/-! # Enrolling again

The rows of disabled and of abandoned factors stay, and no two factors of a user share a label. A
user can enrol a label as long as none of the user's rows carries it, so over a run exactly the labels
that have not been stored before can be enrolled. -/

namespace MaestroKernel.Auth.Factors

open Checked Transaction
open Durable (isBlank)
open Histories (after)

section

variable {env : Platform} {t t' : Tables} {userId : Uuid} {label : String} {draw : Draw}
  {user : IdentityUser}

/-! ## Labels -/

def ownLabel (factor : AuthMfaFactor) : Uuid × String := (factor.userId, factor.label)

/-- The labels of all rows, with their users. -/
def labels (t : Tables) : List (Uuid × String) := t.factors.map ownLabel

/-- The label that a call has stored: an enrolment raises `ValueError` after its commit only. -/
def storedLabel : Call → Except Failure Reply → List (Uuid × String)
  | .enroll userId label, .ok _ => [(userId, label)]
  | .enroll userId label, .error (.mfa (.valueError _)) => [(userId, label)]
  | _, _ => []

theorem storedLabel_enrolledReply (env : Platform) (user : IdentityUser) (draw : Draw) :
    storedLabel (.enroll userId label) (enrolledReply env user draw) = [(userId, label)] := by
  rw [enrolledReply]
  split
  · rfl
  · rfl

theorem storedLabel_of_error {c : Call} {e : Failure} (h : call env c draw t = .error e) :
    storedLabel c (.error e) = [] := by
  cases c with
  | enroll userId label =>
    change enroll env userId label draw t = .error e at h
    rw [enroll] at h
    by_cases hactive : (t.factor? userId .active).isSome = true
    · rw [raiseIf_bind_of_pos hactive] at h
      cases h
      rfl
    rw [raiseIf_bind_of_neg hactive] at h
    cases huser : t.users.find? fun user => user.id = userId with
    | none =>
      rw [huser, demand_none_bind] at h
      cases h
      rfl
    | some user =>
      rw [huser, demand_some_bind] at h
      by_cases hemail : user.emailNormalized = ""
      · rw [raiseIf_bind_of_pos hemail] at h
        cases h
        rfl
      · rw [raiseIf_bind_of_neg hemail] at h
        cases h
  | confirmEnrollment | verify | regenerateRecoveryCodes | disable | completeRecovery => rfl

theorem labels_of_call {c : Call} {reply : Except Failure Reply} (hv : t.Valid)
    (h : call env c draw t = .ok (t', reply)) : labels t' = labels t ++ storedLabel c reply := by
  obtain ⟨front, hkeeps, hfactors⟩ := factors_of_call hv h
  have hfront : front.map ownLabel = labels t := by
    refine First.map_of_forall₂ hkeeps fun factor factor' hkept => ?_
    rw [ownLabel, ownLabel, hkept.userId, hkept.label]
  rw [labels, hfactors, List.map_append, hfront]
  congr 1
  cases c with
  | enroll userId label =>
    obtain ⟨user, -, -, rfl⟩ := enroll_ok h
    exact (storedLabel_enrolledReply env user draw).symm
  | confirmEnrollment | verify | regenerateRecoveryCodes | disable | completeRecovery => rfl

theorem labels_of_respond (c : Call) (draw : Draw) (db : (service env).Database) :
    labels ((service env).respond (c, draw) db).2.1 =
      labels db.1 ++ storedLabel c ((service env).respond (c, draw) db).1 := by
  cases hcall : call env c draw db.1 with
  | error e =>
    have hwork : (service env).work (c, draw) db.1 = .rollback e := by
      change ending (call env c draw db.1) = _
      rw [hcall]
      rfl
    rw [Service.respond_of_rollback hwork, storedLabel_of_error hcall, List.append_nil]
  | ok result =>
    obtain ⟨t', reply⟩ := result
    have hwork : (service env).work (c, draw) db.1 = .commit t' reply := by
      change ending (call env c draw db.1) = _
      rw [hcall]
      rfl
    by_cases hvalid : (service env).Valid t'
    · rw [Service.respond_of_commit hwork hvalid]
      exact labels_of_call db.2 hcall
    · have hviolation : (service env).respond (c, draw) db = (.error .integrityError, db) := by
        rw [Service.respond, hwork, Service.settle, dif_neg hvalid]
        rfl
      rw [hviolation]
      cases c with
      | enroll | confirmEnrollment | verify | regenerateRecoveryCodes | disable
      | completeRecovery => exact (List.append_nil _).symm

/-- A database, and the labels that calls have stored. -/
structure Enrolments (env : Platform) where
  db : (service env).Database
  stored : List (Uuid × String)

def Enrolments.next (enrolments : Enrolments env) (event : Call × Draw) : Enrolments env where
  db := ((service env).respond event enrolments.db).2
  stored := enrolments.stored ++
    storedLabel event.1 ((service env).respond event enrolments.db).1

/-- The labels of the rows are those at the start and those that were stored since. -/
theorem labels_after (enrolments : Enrolments env) (events : List (Call × Draw)) :
    ∃ later, (after Enrolments.next enrolments events).stored = enrolments.stored ++ later ∧
      labels (after Enrolments.next enrolments events).db.1 = labels enrolments.db.1 ++ later := by
  induction events generalizing enrolments with
  | nil => exact ⟨[], (List.append_nil _).symm, (List.append_nil _).symm⟩
  | cons event events ih =>
    obtain ⟨later, hstored, hlabels⟩ := ih (enrolments.next event)
    refine ⟨storedLabel event.1 ((service env).respond event enrolments.db).1 ++ later, ?_, ?_⟩
    · rw [Histories.after_cons, hstored, Enrolments.next, List.append_assoc]
    · rw [Histories.after_cons, hlabels, ← List.append_assoc]
      exact congrArg (· ++ later) (labels_of_respond event.1 event.2 enrolments.db)

/-! ## Enrolling -/

theorem enroll_of_unenrolled (hactive : t.factor? user.id .active = none)
    (huser : t.users.find? (fun other => other.id = user.id) = some user)
    (hemail : isBlank user.emailNormalized = false) :
    enroll env user.id label draw t =
      .ok (enrolledTables user.id label draw t, enrolledReply env user draw) := by
  have hnone : ¬ (t.factor? user.id .active).isSome = true := by
    rw [hactive]
    exact Bool.false_ne_true
  rw [enroll, raiseIf_bind_of_neg hnone, huser, demand_some_bind,
    raiseIf_bind_of_neg (Durable.ne_empty_of_not_blank hemail)]
  rfl

theorem disableFactors_map {β : Type} {f : AuthMfaFactor → β}
    (hf : ∀ now factor, f (Tables.disabledAt now factor) = f factor) (userId : Uuid)
    (statuses : List MfaFactorStatus) (now : ℤ) (t : Tables) :
    (t.disableFactors userId statuses now).factors.map f = t.factors.map f := by
  rw [Tables.disableFactors, List.map_map]
  refine List.map_congr_left fun factor _ => ?_
  rw [Function.comp_apply]
  split
  · exact hf now factor
  · rfl

theorem nodup_append_singleton {β : Type} {xs : List β} {x : β} (h : xs.Nodup) :
    (xs ++ [x]).Nodup ↔ x ∉ xs := by
  rw [← List.concat_eq_append, List.nodup_concat, and_iff_left h]

theorem enrolledTables_valid_iff (hv : t.Valid) (huser : user ∈ t.users) (hlabel : label.length ≤ 80)
    (hfresh : ∀ factor ∈ t.factors, factor.id ≠ draw.factorId) :
    (enrolledTables user.id label draw t).Valid ↔ (user.id, label) ∉ labels t := by
  have hmap {β : Type} (f : AuthMfaFactor → β)
      (hf : ∀ now factor, f (Tables.disabledAt now factor) = f factor) :
      (enrolledTables user.id label draw t).factors.map f =
        t.factors.map f ++ [f (pendingFactor user.id label draw)] := by
    rw [enrolledTables, List.map_append, disableFactors_map hf]
    rfl
  have hstart : (t.factors.map ownLabel).Nodup := hv.factor_label
  have hlabels : ((enrolledTables user.id label draw t).factors.map ownLabel).Nodup ↔
      (user.id, label) ∉ labels t := by
    rw [hmap ownLabel fun _ _ => rfl, nodup_append_singleton hstart]
    rfl
  constructor
  · intro hvalid
    exact hlabels.mp hvalid.factor_label
  · intro hunused
    constructor
    case user_id => exact hv.user_id
    case session_id => exact hv.session_id
    case code_id => exact hv.code_id
    case code_hash => exact hv.code_hash
    case factor_id =>
      rw [hmap _ fun _ _ => rfl, nodup_append_singleton hv.factor_id, List.mem_map]
      rintro ⟨factor, hmem, hid⟩
      exact hfresh factor hmem hid
    case factor_label => exact hlabels.mpr hunused
    case label_length =>
      have hlengths : ∀ n ∈ (enrolledTables user.id label draw t).factors.map
          (fun factor => factor.label.length), n ≤ 80 := by
        rw [hmap _ fun _ _ => rfl, List.forall_mem_append, List.forall_mem_singleton,
          List.forall_mem_map]
        exact ⟨hv.label_length, hlabel⟩
      intro factor hmem
      exact hlengths factor.label.length (List.mem_map_of_mem hmem)
    case factor_user =>
      have husers : ∀ id ∈ (enrolledTables user.id label draw t).factors.map
          (fun factor => factor.userId), ∃ owner ∈ t.users, owner.id = id := by
        rw [hmap _ fun _ _ => rfl, List.forall_mem_append, List.forall_mem_singleton,
          List.forall_mem_map]
        exact ⟨hv.factor_user, user, huser, rfl⟩
      intro factor hmem
      exact husers factor.userId (List.mem_map_of_mem hmem)
    case code_factor =>
      intro code hcode
      obtain ⟨factor, hmem, hid⟩ := hv.code_factor code hcode
      have hids : factor.id ∈ (enrolledTables user.id label draw t).factors.map
          (fun factor => factor.id) := by
        rw [hmap _ fun _ _ => rfl]
        exact List.mem_append_left _ (List.mem_map_of_mem hmem)
      obtain ⟨factor', hmem', hid'⟩ := List.mem_map.mp hids
      exact ⟨factor', hmem', hid'.trans hid⟩

/-- Whatever fresh id the new factor draws, the enrolment succeeds. -/
def CanEnroll (env : Platform) (db : (service env).Database) (userId : Uuid) (label : String) :
    Prop :=
  ∀ draw : Draw, (∀ factor ∈ db.1.factors, factor.id ≠ draw.factorId) →
    ∃ enrollment, ((service env).respond (.enroll userId label, draw) db).1 =
      .ok (.enrolled enrollment)

theorem respond_enroll {db : (service env).Database} (huser : user ∈ db.1.users)
    (hemail : isBlank user.emailNormalized = false) (hlabel : label.length ≤ 80)
    (hactive : db.1.factor? user.id .active = none)
    (hfresh : ∀ factor ∈ db.1.factors, factor.id ≠ draw.factorId) :
    ((service env).respond (.enroll user.id label, draw) db).1 =
      if (user.id, label) ∈ labels db.1 then .error .integrityError
      else enrolledReply env user draw := by
  have hcall : enroll env user.id label draw db.1 = _ :=
    enroll_of_unenrolled hactive (First.find?_key db.2.user_id huser) hemail
  have hwork : (service env).work (.enroll user.id label, draw) db.1 =
      .commit (enrolledTables user.id label draw db.1) (enrolledReply env user draw) := by
    change ending (enroll env user.id label draw db.1) = _
    rw [hcall]
    rfl
  have hvalid := enrolledTables_valid_iff db.2 huser hlabel hfresh
  split
  · rename_i hused
    have hinvalid : ¬ (service env).Valid (enrolledTables user.id label draw db.1) := by
      intro h
      exact hvalid.mp h hused
    rw [Service.respond, hwork, Service.settle, dif_neg hinvalid]
    rfl
  · rename_i hunused
    rw [Service.respond_of_commit hwork (hvalid.mpr hunused)]

theorem exists_fresh (t : Tables) : ∃ id : Uuid, ∀ factor ∈ t.factors, factor.id ≠ id := by
  obtain ⟨id, hid⟩ := Infinite.exists_notMem_finset (t.factors.map fun factor => factor.id).toFinset
  rw [List.mem_toFinset, List.mem_map] at hid
  exact ⟨id, fun factor hmem heq => hid ⟨factor, hmem, heq⟩⟩

/-- After any calls, a user without an active factor can enrol the labels that are not stored. -/
theorem canEnroll_iff (env : Platform) (start : (service env).Database)
    (events : List (Call × Draw)) (user : IdentityUser) (label : String)
    (huser : user ∈ (after Enrolments.next ⟨start, []⟩ events).db.1.users)
    (hemail : isBlank user.emailNormalized = false) (hlabel : label.length ≤ 80)
    (hactive : ∀ factor ∈ (after Enrolments.next ⟨start, []⟩ events).db.1.factors,
      factor.userId = user.id → factor.status ≠ .active) :
    CanEnroll env (after Enrolments.next ⟨start, []⟩ events).db user.id label ↔
      (user.id, label) ∉ labels start.1 ++ (after Enrolments.next ⟨start, []⟩ events).stored := by
  obtain ⟨later, hstored, hlabels⟩ := labels_after ⟨start, []⟩ events
  rw [List.nil_append] at hstored
  rw [hstored, ← hlabels]
  have hnone := Tables.factor?_eq_none.mpr hactive
  constructor
  · intro hcan hused
    obtain ⟨id, hfresh⟩ := exists_fresh (after Enrolments.next ⟨start, []⟩ events).db.1
    let draw : Draw := ⟨0, 0, id, [], ⟨[], ""⟩, [], "", true⟩
    obtain ⟨enrollment, hreply⟩ := hcan draw hfresh
    rw [respond_enroll huser hemail hlabel hnone hfresh, if_pos hused] at hreply
    cases hreply
  · intro hunused draw hfresh
    have hgiven : ¬ isBlank user.emailNormalized = true := by
      rw [hemail]
      exact Bool.false_ne_true
    rw [respond_enroll huser hemail hlabel hnone hfresh, if_neg hunused, enrolledReply,
      if_neg hgiven]
    exact ⟨_, rfl⟩

end

namespace Sample

def unenrolled : (service platform).Database :=
  ⟨{ users := [user], sessions := [session] }, by decide +kernel⟩

/-- A factor is enrolled, confirmed and disabled again. -/
def enrolledAndDisabled : List (Call × Draw) :=
  [(.enroll 1 "Authenticator", draw (10 * second) 20),
    (.confirmEnrollment 1 5 "287082", draw (50 * second) 30),
    (.disable 1 5, draw (90 * second) 40)]

def disabledAgain : Enrolments platform :=
  after Enrolments.next ⟨unenrolled, []⟩ enrolledAndDisabled

/-- Another label can be enrolled now. -/
theorem canEnroll_phone : CanEnroll platform disabledAgain.db 1 "Phone" :=
  (canEnroll_iff platform unenrolled enrolledAndDisabled user "Phone" (by decide +kernel)
    (by decide +kernel) (by decide +kernel) (by decide +kernel)).mpr (by decide +kernel)

/-- The label of the disabled factor cannot, although the user has no active factor. -/
theorem authenticator_not_enrollable :
    (∀ factor ∈ disabledAgain.db.1.factors, factor.userId = 1 → factor.status ≠ .active) ∧
      ¬ CanEnroll platform disabledAgain.db 1 "Authenticator" := by
  refine ⟨by decide +kernel, fun hcan => ?_⟩
  obtain ⟨enrollment, hreply⟩ := hcan (draw (120 * second) 50) (by decide +kernel)
  have hrefused : ((service platform).respond
      (.enroll 1 "Authenticator", draw (120 * second) 50) disabledAgain.db).1 =
        .error .integrityError := by decide +kernel
  rw [hrefused] at hreply
  cases hreply

end Sample

end MaestroKernel.Auth.Factors
