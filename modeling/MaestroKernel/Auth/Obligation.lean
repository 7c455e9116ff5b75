import MaestroKernel.Auth.FactorRows

/-! # Who must hold a second factor

`disable` asks the memberships whether a role requires the factor, and the creation of a session asks
the memberships and the platform authorities. -/

namespace MaestroKernel.Auth.Factors

open Transaction

variable {t t' : Tables} {userId : Uuid}

/-- `requires_mfa` of a user without a factor. -/
def requiresByRole (t : Tables) (userId : Uuid) : Bool := { t with factors := [] }.requiresMfa userId

def hasActiveFactor (t : Tables) (userId : Uuid) : Bool :=
  t.factors.any fun factor => factor.userId = userId && factor.status = .active

theorem requiresByRole_eq (t : Tables) (userId : Uuid) :
    requiresByRole t userId = (t.isRequiredByRole userId || t.isActivePlatformAdmin userId) := rfl

theorem requiresMfa_eq (t : Tables) (userId : Uuid) :
    t.requiresMfa userId = (hasActiveFactor t userId || requiresByRole t userId) :=
  Bool.or_assoc _ _ _

theorem requiresByRole_congr (hmemberships : t'.memberships = t.memberships)
    (hauthorities : t'.authorities = t.authorities) :
    requiresByRole t' userId = requiresByRole t userId := by
  rw [requiresByRole_eq, requiresByRole_eq, Tables.isRequiredByRole, Tables.isRequiredByRole,
    Tables.isActivePlatformAdmin, Tables.isActivePlatformAdmin, hmemberships, hauthorities]

theorem disabledTables_requiresByRole (userId sessionId : Uuid) (factor : AuthMfaFactor) (now : ℤ)
    (t : Tables) :
    requiresByRole (disabledTables userId sessionId factor now t) userId = requiresByRole t userId :=
  requiresByRole_congr rfl rfl

/-! ## Agreement -/

/-- The two role checks agree, and who may disable the last factor may do without one. -/
structure ObligationAgrees (env : Platform) (db : (service env).Database) (userId : Uuid) :
    Prop where
  roles : db.1.isRequiredByRole userId = requiresByRole db.1 userId
  disabled : ∀ sessionId draw,
    ((service env).respond (.disable userId sessionId, draw) db).1 = .ok .disabled →
    hasActiveFactor ((service env).respond (.disable userId sessionId, draw) db).2.1 userId = false →
    ((service env).respond (.disable userId sessionId, draw) db).2.1.requiresMfa userId = false

theorem requiresByRole_of_agree (h : t.isRequiredByRole userId = requiresByRole t userId) :
    t.isActivePlatformAdmin userId = true → t.isRequiredByRole userId = true := by
  intro hadmin
  rw [h, requiresByRole_eq, hadmin, Bool.or_true]

theorem agree_of_requiresByRole
    (h : t.isActivePlatformAdmin userId = true → t.isRequiredByRole userId = true) :
    t.isRequiredByRole userId = requiresByRole t userId := by
  rw [requiresByRole_eq]
  cases hadmin : t.isActivePlatformAdmin userId with
  | false => rw [Bool.or_false]
  | true => rw [h hadmin, Bool.or_true]

/-- A platform admin without a privileged membership is all that the two checks tell apart. -/
theorem obligation_agrees_iff (env : Platform) (db : (service env).Database) (userId : Uuid) :
    ObligationAgrees env db userId ↔
      (db.1.isActivePlatformAdmin userId = true → db.1.isRequiredByRole userId = true) := by
  constructor
  · intro h
    exact requiresByRole_of_agree h.roles
  · intro h
    have hagree := agree_of_requiresByRole h
    refine ⟨hagree, fun sessionId draw hreply hlast => ?_⟩
    obtain ⟨t', hvalid, hwork, hdb⟩ := Service.commit_of_ok hreply
    rw [hdb] at hlast ⊢
    obtain ⟨-, hrequired, -, factor, -, rfl⟩ := disable_ok (call_of_commit hwork)
    rw [requiresMfa_eq, hlast, Bool.false_or]
    calc
      requiresByRole (disabledTables userId sessionId factor draw.now db.1) userId
          = requiresByRole db.1 userId := disabledTables_requiresByRole ..
      _ = db.1.isRequiredByRole userId := hagree.symm
      _ = false := hrequired

namespace Sample

/-- A platform admin who belongs to no organization. -/
def admin : (service platform).Database :=
  ⟨{ users := [user]
     authorities := [⟨9, 1, .platformAdmin, .active⟩]
     sessions := [{ session with mfaSatisfiedAt := some (30 * second) }]
     factors := [factor] }, by decide +kernel⟩

/-- The admin disables the last factor, and the next session requires one again. -/
theorem admin_not_agreed : ¬ ObligationAgrees platform admin 1 := by
  intro h
  have hafter := h.disabled 5 (draw (60 * second) 20) (by decide +kernel) (by decide +kernel)
  revert hafter
  decide +kernel

end Sample

end MaestroKernel.Auth.Factors
