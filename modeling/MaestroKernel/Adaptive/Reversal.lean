import MaestroKernel.Adaptive.Calibration
import MaestroKernel.Library.Patches

/-! # Small and reversible patches

The bound on a patch is checked against the value that the patch says it replaces. So it is a
bound on the policy in force, and a rollback restores that policy, where the patch says what it
finds, no patch in force writes its field, and no profile is installed over it. -/

namespace MaestroKernel.Adaptive

open Workflow

variable {F : Type} [Number F] [DecidableEq F]

/-! ## What a run of the toolkit keeps -/

omit [Number F] [DecidableEq F] in
/-- The patch, in whatever mode it was applied or rolled back. -/
def PolicyPatch.core (patch : PolicyPatch F) : PolicyPatch F :=
  { patch with runtimeMode := .recommend }

omit [DecidableEq F] in
/-- A change by at most one attempt, or by at most 0.15. -/
def SmallChange (field : String) (before after : Value F) : Prop :=
  if field = "max_step_attempts" then
    ∃ m n, before = .int m ∧ after = .int n ∧ |n - m| ≤ 1
  else
    ∃ x y, before.float? = some x ∧ after.float? = some y ∧ pyAbs (y - x) ≤ 0.15

omit [DecidableEq F] in
/-- The policies differ in one adjustable field, by a small change, and in their versions. -/
def SmallStep (before after : Policy F) : Prop :=
  ∃ field ∈ adjustableFields, (∀ other, other ≠ field → after.value other = before.value other) ∧
    SmallChange field (before.value field) (after.value field)

namespace Calibration

/-- The patches that were applied and not rolled back since. -/
def inForce (σ : Calibration F) : List (PolicyPatch F) :=
  (σ.appliedPatches.map PolicyPatch.core).diff (σ.rollbackHistory.map PolicyPatch.core)

omit [Number F] [DecidableEq F] in
/-- The recommendations that cycles applied. -/
def autoApplied (σ : Calibration F) : List (String × ℕ) :=
  σ.applications.filterMap Application.source

structure Lawful (σ : Calibration F) : Prop where
  small : ∀ a ∈ σ.applications, SmallStep a.before a.after
  once : σ.autoApplied.Nodup
  stays : ∀ patch ∈ σ.inForce, σ.policy.value patch.field = patch.newValue
  rolledBackOnce : ∀ patch, (σ.rollbackHistory.map PolicyPatch.core).count patch ≤
    (σ.appliedPatches.map PolicyPatch.core).count patch
  restored : σ.inForce = [] → ∀ first ∈ σ.applications.head?,
    σ.policy.value = first.before.value

/-! ### The condition -/

/-- The patch says what the policy in force holds, in numbers, and no patch in force writes its
field. -/
structure Fresh (σ : Calibration F) (patch : PolicyPatch F) : Prop where
  found : σ.policy.value patch.field = patch.oldValue
  old_numeric : patch.oldValue.float?.isSome = true
  new_numeric : patch.newValue.float?.isSome = true
  free : ∀ q ∈ σ.inForce, q.field ≠ patch.field

omit [DecidableEq F] in
/-- No patch was applied yet, or the profile has the values that are in force. -/
def Installable (σ : Calibration F) (policy : PolicyProfile F) : Prop :=
  σ.appliedPatches = [] ∨ (Policy.of policy.kernelPolicy).value = σ.policy.value

/-- Of the patches that a cycle handles, those that it may apply are fresh, were not applied by a
cycle before, and write different fields. -/
structure Applicable (σ : Calibration F) (call : CycleCall F)
    (entries : List (PolicyPatch F × ℕ)) : Prop where
  fresh : ∀ e ∈ entries, canAutoApplyPatch call.profile call.policy e.1 σ.mode = true →
    σ.Fresh e.1 ∧ (call.workflowId, e.2) ∉ σ.autoApplied
  distinct : entries.Pairwise fun e e' =>
    canAutoApplyPatch call.profile call.policy e.1 σ.mode = true →
      canAutoApplyPatch call.profile call.policy e'.1 σ.mode = true → e.1.field ≠ e'.1.field

structure CarefulCycle (σ : Calibration F) (call : CycleCall F) : Prop where
  installs : call.applySelectedPolicy = true → σ.Installable call.policy
  applies : call.autoApplySafePatches = true → call.interruption = none →
    ((σ.installed call).reviewed call).Applicable call
      (((σ.installed call).reviewed call).checkpointPatches call.workflowId).zipIdx

def Careful (fmt : Formatting F) (σ : Calibration F) : CalibrationCall F → Prop
  | .cycle call => σ.CarefulCycle call
  | .profile policy => σ.Installable policy
  | .patch patch minSampleSize =>
    σ.mode = .controlledAdaptive → isSafe patch (sampleGate minSampleSize) = true →
      σ.Fresh patch
  | .rollback patch =>
    patch.reversible = true → adjustable patch.field = true → patch.core ∈ σ.inForce
  | .verify call =>
    call.rollbackOnRegression = true → regressions fmt call ≠ [] → σ.rollbackHistory = []
  | .suggest _ _ => True
  | .checkpoint _ _ _ => True
  | .transition _ => True

def CarefulRun (fmt : Formatting F) (σ : Calibration F) : List (CalibrationCall F) → Prop
  | [] => True
  | call :: calls => Careful fmt σ call ∧ CarefulRun fmt (perform fmt call σ).2 calls

omit [Number F] [DecidableEq F] in
def patching : Patching (PolicyPatch F) String (Value F) where
  key := PolicyPatch.field
  old := PolicyPatch.oldValue
  new := PolicyPatch.newValue

omit [Number F] [DecidableEq F] in
def desk (σ : Calibration F) : Desk (PolicyPatch F) String (Value F) where
  store := σ.policy.value
  origin := (σ.applications.head?.map fun first => first.before.value).getD σ.policy.value
  applied := σ.appliedPatches.map PolicyPatch.core
  undone := σ.rollbackHistory.map PolicyPatch.core

structure Steady (σ : Calibration F) : Prop where
  desk : σ.desk.Sound patching
  applied : σ.applications.map (fun a => a.patch.core) = σ.appliedPatches.map PolicyPatch.core
  small : ∀ a ∈ σ.applications, SmallStep a.before a.after
  once : σ.autoApplied.Nodup

variable {σ : Calibration F} {patch : PolicyPatch F} {source : Option (String × ℕ)}
  {call : CycleCall F}

theorem Steady.lawful (h : σ.Steady) : σ.Lawful where
  small := h.small
  once := h.once
  stays := h.desk.stays
  rolledBackOnce := h.desk.undone_le
  restored hforce first hfirst := by
    have horigin : σ.desk.origin = first.before.value := by
      change (σ.applications.head?.map _).getD _ = _
      rw [Option.mem_def.mp hfirst]
      rfl
    have happlied : σ.desk.applied ≠ [] := by
      change σ.appliedPatches.map _ ≠ []
      rw [← h.applied]
      intro hnil
      rw [List.map_eq_nil_iff.mp hnil] at hfirst
      exact absurd hfirst (Option.not_mem_none first)
    exact (h.desk.restored happlied hforce).trans horigin

/-! ## The single operations -/

omit [Number F] [DecidableEq F] in
theorem getD_origin (value : String → Value F)
    (h : σ.applications.map (fun a => a.patch.core) = σ.appliedPatches.map PolicyPatch.core) :
    (σ.applications.head?.map fun first => first.before.value).getD value =
      if σ.desk.applied = [] then value else σ.desk.origin := by
  have happlied : σ.desk.applied = [] ↔ σ.applications = [] := by
    change σ.appliedPatches.map _ = [] ↔ _
    rw [← h, List.map_eq_nil_iff]
  change _ = if _ then value else (σ.applications.head?.map _).getD _
  cases happs : σ.applications with
  | nil => rw [if_pos (happlied.mpr happs), List.head?_nil, Option.map_none, Option.getD_none]
  | cons first rest =>
    rw [if_neg, List.head?_cons, Option.map_some, Option.getD_some, Option.getD_some]
    rw [happlied, happs]
    exact List.cons_ne_nil _ _

omit [Number F] [DecidableEq F] in
theorem desk_withPatch
    (h : σ.applications.map (fun a => a.patch.core) = σ.appliedPatches.map PolicyPatch.core) :
    (σ.withPatch patch source).desk = σ.desk.apply patching patch.core := by
  have happlied : (σ.withPatch patch source).desk.applied =
      σ.desk.applied ++ [patch.core] := List.map_append
  have horigin : (σ.withPatch patch source).desk.origin =
      if σ.desk.applied = [] then σ.desk.store else σ.desk.origin := by
    change ((σ.applications ++ [_]).head?.map _).getD _ = if _ then σ.policy.value else _
    rw [← getD_origin _ h, List.head?_append]
    cases σ.applications.head? with
    | none => rfl
    | some first => rfl
  unfold Desk.apply
  rw [← happlied, ← horigin]
  rfl

omit [Number F] in
theorem applications_ne_nil
    (h : σ.applications.map (fun a => a.patch.core) = σ.appliedPatches.map PolicyPatch.core)
    (hforce : patch.core ∈ σ.inForce) : σ.applications ≠ [] := by
  intro hnil
  have hmem : patch.core ∈ σ.appliedPatches.map PolicyPatch.core := List.diff_subset _ _ hforce
  rw [← h, hnil] at hmem
  exact absurd hmem List.not_mem_nil

omit [Number F] [DecidableEq F] in
theorem desk_withoutPatch (h : σ.applications ≠ []) :
    (σ.withoutPatch patch).desk = σ.desk.undo patching patch.core := by
  have hundone : (σ.withoutPatch patch).desk.undone = σ.desk.undone ++ [patch.core] :=
    List.map_append
  have horigin : (σ.withoutPatch patch).desk.origin = σ.desk.origin := by
    obtain ⟨first, rest, happs⟩ := List.exists_cons_of_ne_nil h
    change (σ.applications.head?.map _).getD _ = (σ.applications.head?.map _).getD _
    rw [happs]
    rfl
  unfold Desk.undo
  rw [← hundone, ← horigin]
  rfl

omit [DecidableEq F] in
theorem desk_applyPolicyProfile (policy : PolicyProfile F)
    (h : σ.applications.map (fun a => a.patch.core) = σ.appliedPatches.map PolicyPatch.core) :
    (σ.applyPolicyProfile policy).desk =
      σ.desk.install (Policy.of policy.kernelPolicy).value := by
  have horigin : (σ.applyPolicyProfile policy).desk.origin =
      if σ.desk.applied = [] then (Policy.of policy.kernelPolicy).value else σ.desk.origin :=
    getD_origin _ h
  unfold Desk.install
  rw [← horigin]
  rfl

omit [DecidableEq F] in
theorem smallStep_withPatch {gate : ℤ} (hsafe : isSafe patch gate = true)
    (hfound : σ.policy.value patch.field = patch.oldValue)
    (hold : patch.oldValue.float?.isSome = true) (hnew : patch.newValue.float?.isSome = true) :
    SmallStep σ.policy (σ.policy.replace patch.policyVersionTo patch.field patch.newValue) := by
  unfold isSafe adjustable at hsafe
  simp only [Bool.and_eq_true, decide_eq_true_eq] at hsafe
  obtain ⟨⟨⟨⟨-, hfield⟩, -⟩, -⟩, hsmall⟩ := hsafe
  refine ⟨patch.field, hfield, fun other hne => Function.update_of_ne hne _ _, ?_⟩
  have hafter : (σ.policy.replace patch.policyVersionTo patch.field patch.newValue).value
      patch.field = patch.newValue := Function.update_self _ _ _
  rw [hafter, hfound]
  unfold isSmallChange at hsmall
  unfold SmallChange
  split
  · rename_i hattempts
    rw [if_pos hattempts] at hsmall
    split at hsmall
    · rename_i m n hm hn
      exact ⟨m, n, hm, hn, (of_decide_eq_true hsmall).1⟩
    · exact absurd hsmall (by simp)
  · rename_i hattempts
    rw [if_neg hattempts] at hsmall
    obtain ⟨x, hx⟩ := Option.isSome_iff_exists.mp hold
    obtain ⟨y, hy⟩ := Option.isSome_iff_exists.mp hnew
    refine ⟨x, y, hx, hy, ?_⟩
    rw [hx, hy] at hsmall
    dsimp only at hsmall
    split at hsmall
    · exact absurd hsmall (by simp)
    split at hsmall
    · exact absurd hsmall (by simp)
    exact of_decide_eq_true hsmall

theorem Steady.withPatch {gate : ℤ} (h : σ.Steady) (hsafe : isSafe patch gate = true)
    (hfresh : σ.Fresh patch) (hsource : ∀ s ∈ source, s ∉ σ.autoApplied) :
    (σ.withPatch patch source).Steady where
  desk := by
    rw [desk_withPatch h.applied]
    exact h.desk.apply hfresh.found hfresh.free
  applied := by
    change (σ.applications ++ [_]).map _ = (σ.appliedPatches ++ [_]).map _
    rw [List.map_append, List.map_append, h.applied]
    rfl
  small := by
    intro a ha
    rcases List.mem_append.mp ha with hold | hnew
    · exact h.small a hold
    · rw [List.mem_singleton.mp hnew]
      exact smallStep_withPatch hsafe hfresh.found hfresh.old_numeric hfresh.new_numeric
  once := by
    change ((σ.applications ++ [_]).filterMap Application.source).Nodup
    rw [List.filterMap_append]
    cases source with
    | none =>
      change (σ.autoApplied ++ []).Nodup
      rw [List.append_nil]
      exact h.once
    | some s =>
      change (σ.autoApplied ++ [s]).Nodup
      exact h.once.append (List.nodup_singleton _) (by simpa using hsource s rfl)

theorem Steady.withoutPatch (h : σ.Steady) (hforce : patch.core ∈ σ.inForce) :
    (σ.withoutPatch patch).Steady where
  desk := by
    rw [desk_withoutPatch (applications_ne_nil h.applied hforce)]
    exact h.desk.undo hforce
  applied := h.applied
  small := h.small
  once := h.once

theorem Steady.applyPolicyProfile {policy : PolicyProfile F} (h : σ.Steady)
    (hinstall : σ.Installable policy) : (σ.applyPolicyProfile policy).Steady where
  desk := by
    rw [desk_applyPolicyProfile policy h.applied]
    refine h.desk.install (hinstall.imp_left fun hnil => ?_)
    exact List.map_eq_nil_iff.mpr hnil
  applied := h.applied
  small := h.small
  once := h.once

theorem Steady.analyzeCheckpoint (h : σ.Steady) (workflowId : String) (policy : PolicyProfile F)
    (evidence : ReviewEvidence F) : (σ.analyzeCheckpoint workflowId policy evidence).Steady :=
  ⟨h.desk, h.applied, h.small, h.once⟩

/-! ## The calls -/

omit [DecidableEq F] in
/-- A patch is applied or, where the call raises, nothing is. -/
theorem applyPolicyPatch_ensures (σ : Calibration F) (patch : PolicyPatch F)
    (minSampleSize : Option ℤ) (source : Option (String × ℕ)) :
    Proc.Ensures (applyPolicyPatch patch minSampleSize source) σ
      (fun _ σ' => σ.mode = .controlledAdaptive ∧
        isSafe patch (sampleGate minSampleSize) = true ∧ σ' = σ.withPatch patch source)
      fun _ σ' => σ' = σ := by
  unfold applyPolicyPatch
  rw [Proc.ensures_bind, Proc.ensures_read]
  split
  · exact Proc.ensures_raise.mpr rfl
  rename_i hmode
  split
  · exact Proc.ensures_raise.mpr rfl
  rename_i hsafe
  exact Proc.ensures_modify.mpr ⟨not_not.mp hmode, Bool.eq_true_of_not_eq_false hsafe, rfl⟩

omit [Number F] [DecidableEq F] in
theorem rollbackPolicyPatch_ensures (σ : Calibration F) (patch : PolicyPatch F) :
    Proc.Ensures (rollbackPolicyPatch patch) σ
      (fun _ σ' => patch.reversible = true ∧ adjustable patch.field = true ∧
        σ' = σ.withoutPatch patch)
      fun _ σ' => σ' = σ := by
  unfold rollbackPolicyPatch
  split
  · exact Proc.ensures_raise.mpr rfl
  rename_i hreversible
  split
  · exact Proc.ensures_raise.mpr rfl
  rename_i hadjustable
  exact Proc.ensures_modify.mpr ⟨Bool.eq_true_of_not_eq_false hreversible,
    Bool.eq_true_of_not_eq_false hadjustable, rfl⟩

/-! ### Cycles -/

theorem mem_inForce_withPatch (h : σ.Steady) {q : PolicyPatch F}
    (hq : q ∈ (σ.withPatch patch source).inForce) : q = patch.core ∨ q ∈ σ.inForce := by
  change q ∈ (σ.withPatch patch source).desk.inForce at hq
  rw [desk_withPatch h.applied] at hq
  exact List.mem_cons.mp ((Desk.inForce_apply h.desk.undone_le patch.core).mem_iff.mp hq)

theorem Fresh.withPatch (h : σ.Steady) {q : PolicyPatch F} (hq : σ.Fresh q)
    (hne : patch.field ≠ q.field) : (σ.withPatch patch source).Fresh q where
  found := (Function.update_of_ne hne.symm _ _).trans hq.found
  old_numeric := hq.old_numeric
  new_numeric := hq.new_numeric
  free r hr := by
    rcases mem_inForce_withPatch h hr with rfl | hr
    · exact hne
    · exact hq.free r hr

theorem Applicable.withPatch (h : σ.Steady) {place : ℕ} {rest : List (PolicyPatch F × ℕ)}
    (hpatches : σ.Applicable call ((patch, place) :: rest))
    (hplaces : (((patch, place) :: rest).map Prod.snd).Nodup)
    (hauto : canAutoApplyPatch call.profile call.policy patch σ.mode = true) :
    (σ.withPatch patch (some (call.workflowId, place))).Applicable call rest where
  fresh e he heligible := by
    obtain ⟨hfresh, hsource⟩ := hpatches.fresh e (List.mem_cons_of_mem _ he) heligible
    have hne := (List.pairwise_cons.mp hpatches.distinct).1 e he hauto heligible
    refine ⟨hfresh.withPatch h hne, ?_⟩
    change (call.workflowId, e.2) ∉ (σ.applications ++ [_]).filterMap Application.source
    rw [List.filterMap_append, List.mem_append, not_or]
    refine ⟨hsource, fun hmem => ?_⟩
    change (call.workflowId, e.2) ∈ [(call.workflowId, place)] at hmem
    have hplace : e.2 = place := (Prod.mk.inj (List.mem_singleton.mp hmem)).2
    rw [List.map_cons, List.nodup_cons] at hplaces
    exact hplaces.1 (List.mem_map.mpr ⟨e, he, hplace⟩)
  distinct := (List.pairwise_cons.mp hpatches.distinct).2

theorem Steady.handleCyclePatches (call : CycleCall F) (entries : List (PolicyPatch F × ℕ)) :
    ∀ {σ : Calibration F}, σ.Steady → σ.Applicable call entries → (entries.map Prod.snd).Nodup →
      Proc.Ensures (Calibration.handleCyclePatches call entries) σ (fun _ σ' => σ'.Steady)
        fun _ σ' => σ'.Steady := by
  induction entries with
  | nil => exact fun h _ _ => Proc.ensures_pure.mpr h
  | cons entry rest ih =>
    intro σ h hpatches hplaces
    obtain ⟨patch, place⟩ := entry
    have hrest : (rest.map Prod.snd).Nodup := hplaces.of_cons
    unfold Calibration.handleCyclePatches Calibration.handleCyclePatch
    rw [Proc.ensures_bind, Proc.ensures_bind, Proc.ensures_read]
    split
    · rename_i hauto
      obtain ⟨hfresh, hsource⟩ := hpatches.fresh _ List.mem_cons_self hauto
      refine (applyPolicyPatch_ensures σ patch _ _).mono ?_ fun _ σ' hσ' => hσ' ▸ h
      rintro _ _ ⟨-, hsafe, rfl⟩
      refine ih (h.withPatch hsafe hfresh fun s hs => ?_)
        (hpatches.withPatch h hplaces hauto) hrest
      rw [← Option.mem_some_iff.mp hs]
      exact hsource
    · refine Proc.ensures_modify.mpr (ih ⟨h.desk, h.applied, h.small, h.once⟩ ?_ hrest)
      refine ⟨fun e he heligible => ?_, (List.pairwise_cons.mp hpatches.distinct).2⟩
      obtain ⟨hfresh, hsource⟩ := hpatches.fresh e (List.mem_cons_of_mem _ he) heligible
      exact ⟨⟨hfresh.found, hfresh.old_numeric, hfresh.new_numeric, hfresh.free⟩, hsource⟩

theorem Steady.runAdaptiveCycle (h : σ.Steady) (hcareful : σ.CarefulCycle call) :
    Proc.Ensures (Calibration.runAdaptiveCycle call) σ (fun _ σ' => σ'.Steady)
      fun _ σ' => σ'.Steady := by
  have hinstalled : (σ.installed call).Steady := by
    unfold installed
    split
    · rename_i happly
      exact h.applyPolicyProfile (hcareful.installs happly)
    · exact h
  unfold Calibration.runAdaptiveCycle
  rw [Proc.ensures_bind, Proc.ensures_modify]
  cases hinterruption : call.interruption with
  | some reason => exact Proc.ensures_raise.mpr hinstalled
  | none =>
    have hreviewed : ((σ.installed call).reviewed call).Steady := by
      unfold reviewed
      split
      · exact hinstalled
      · exact hinstalled.analyzeCheckpoint _ _ _
    dsimp only
    rw [Proc.ensures_bind, Proc.ensures_modify, Proc.ensures_bind, Proc.ensures_read]
    split
    · rename_i hauto
      refine Steady.handleCyclePatches call _ hreviewed (hcareful.applies hauto hinterruption) ?_
      rw [List.zipIdx_map_snd]
      exact List.nodup_range'
    · exact Proc.ensures_pure.mpr hreviewed

/-! ### Verifications -/

theorem mem_inForce_withoutPatch (h : σ.Steady) (hforce : patch.core ∈ σ.inForce)
    {q : PolicyPatch F} (hq : q ∈ σ.inForce) (hne : q ≠ patch.core) :
    q ∈ (σ.withoutPatch patch).inForce := by
  change q ∈ (σ.withoutPatch patch).desk.inForce
  rw [desk_withoutPatch (applications_ne_nil h.applied hforce), Desk.inForce_undo]
  exact (List.mem_erase_of_ne hne).mpr hq

theorem Steady.rollBackRegressions (rollback : Bool) (results : List (PatchVerificationResult F)) :
    ∀ {σ : Calibration F}, σ.Steady →
      (∀ r ∈ results, rollback = true → r.rollbackRecommended = true →
        r.patch.core ∈ σ.inForce) →
      (results.Pairwise fun r r' => rollback = true → r.rollbackRecommended = true →
        r'.patch.core ≠ r.patch.core) →
      Proc.Ensures (Calibration.rollBackRegressions rollback results) σ (fun _ σ' => σ'.Steady)
        fun _ σ' => σ'.Steady := by
  induction results with
  | nil => exact fun h _ _ => Proc.ensures_pure.mpr h
  | cons result rest ih =>
    intro σ h hforce hdistinct
    obtain ⟨hfirst, hrest⟩ := List.pairwise_cons.mp hdistinct
    unfold Calibration.rollBackRegressions rollBackRegression
    rw [Proc.ensures_bind]
    split
    · rename_i hrollback
      obtain ⟨hflag, hrecommended⟩ := (Bool.and_eq_true _ _).mp hrollback
      have hmem := hforce result List.mem_cons_self hflag hrecommended
      refine (rollbackPolicyPatch_ensures σ result.patch).mono ?_ fun _ σ' hσ' => hσ' ▸ h
      rintro _ _ ⟨-, -, rfl⟩
      refine ih (h.withoutPatch hmem) (fun r hr hflag' hr' => ?_) hrest
      exact mem_inForce_withoutPatch h hmem (hforce r (List.mem_cons_of_mem _ hr) hflag' hr')
        (hfirst r hr hflag hrecommended)
    · exact Proc.ensures_pure.mpr
        (ih h (fun r hr => hforce r (List.mem_cons_of_mem _ hr)) hrest)

omit [DecidableEq F] in
theorem verifyPatches_spec {fmt : Formatting F} {call : VerificationCall F}
    {patches : List (PolicyPatch F)} {r : PatchVerificationResult F}
    (h : r ∈ verifyPatches fmt call patches) (hrecommended : r.rollbackRecommended = true) :
    regressions fmt call ≠ [] := by
  obtain ⟨patch, -, rfl⟩ := List.mem_map.mp h
  have hboth := (Bool.and_eq_true _ _).mp hrecommended
  intro hnil
  rw [hnil] at hboth
  exact absurd hboth.1 (by simp)

omit [DecidableEq F] in
theorem map_patch_verifyPatches (fmt : Formatting F) (call : VerificationCall F)
    (patches : List (PolicyPatch F)) :
    (verifyPatches fmt call patches).map PatchVerificationResult.patch = patches := by
  unfold verifyPatches
  rw [List.map_map]
  exact List.map_id patches

theorem Steady.verifyAppliedPatches {fmt : Formatting F} {call : VerificationCall F}
    (h : σ.Steady) (hcareful : call.rollbackOnRegression = true → regressions fmt call ≠ [] →
      σ.rollbackHistory = []) :
    Proc.Ensures (Calibration.verifyAppliedPatches fmt call) σ (fun _ σ' => σ'.Steady)
      fun _ σ' => σ'.Steady := by
  have hforce : call.rollbackOnRegression = true → regressions fmt call ≠ [] →
      σ.inForce = σ.appliedPatches.map PolicyPatch.core := by
    intro hflag hregressions
    unfold inForce
    rw [hcareful hflag hregressions, List.map_nil, List.diff_nil]
  unfold Calibration.verifyAppliedPatches
  rw [Proc.ensures_bind, Proc.ensures_read]
  dsimp only
  rw [Proc.ensures_bind]
  refine (Steady.rollBackRegressions _ _ h (fun r hr hflag hrecommended => ?_) ?_).mono
    (fun _ _ h' => Proc.ensures_pure.mpr h') fun _ _ h' => h'
  · rw [hforce hflag (verifyPatches_spec hr hrecommended)]
    refine List.mem_map_of_mem ?_
    rw [← map_patch_verifyPatches fmt call σ.appliedPatches]
    exact List.mem_map_of_mem hr
  · by_cases hrolled : call.rollbackOnRegression = true ∧ regressions fmt call ≠ []
    · have hnodup : ((verifyPatches fmt call σ.appliedPatches).map
          fun r => r.patch.core).Nodup := by
        have hkeys := h.desk.keys.of_map
        change σ.inForce.Nodup at hkeys
        rw [hforce hrolled.1 hrolled.2, ← map_patch_verifyPatches fmt call σ.appliedPatches,
          List.map_map] at hkeys
        exact hkeys
      exact (List.pairwise_map.mp hnodup).imp fun hne _ _ => hne.symm
    · refine List.pairwise_of_forall_mem_list fun r hr r' _ hflag hrecommended => ?_
      exact absurd ⟨hflag, verifyPatches_spec hr hrecommended⟩ hrolled

/-! ## Runs -/

theorem Steady.perform {fmt : Formatting F} (h : σ.Steady) {act : CalibrationCall F}
    (hcareful : Careful fmt σ act) : (perform fmt act σ).2.Steady := by
  suffices hensures : Proc.Ensures (Calibration.perform fmt act) σ (fun _ σ' => σ'.Steady)
      fun _ σ' => σ'.Steady from hensures.result
  cases act with
  | cycle call => exact h.runAdaptiveCycle hcareful
  | profile policy => exact Proc.ensures_modify.mpr (h.applyPolicyProfile hcareful)
  | patch patch minSampleSize =>
    refine (applyPolicyPatch_ensures σ patch minSampleSize none).mono ?_ fun _ _ hσ' => hσ' ▸ h
    rintro _ _ ⟨hmode, hsafe, rfl⟩
    exact h.withPatch hsafe (hcareful hmode hsafe) fun s hs => absurd hs (Option.not_mem_none s)
  | rollback patch =>
    refine (rollbackPolicyPatch_ensures σ patch).mono ?_ fun _ _ hσ' => hσ' ▸ h
    rintro _ _ ⟨hreversible, hadjustable, rfl⟩
    exact h.withoutPatch (hcareful hreversible hadjustable)
  | verify call =>
    unfold Calibration.perform
    rw [Proc.ensures_bind]
    exact (h.verifyAppliedPatches hcareful).mono (fun _ _ h' => Proc.ensures_pure.mpr h')
      fun _ _ h' => h'
  | suggest critique minSampleSize =>
    exact Proc.ensures_modify.mpr ⟨h.desk, h.applied, h.small, h.once⟩
  | checkpoint workflowId policy evidence =>
    exact Proc.ensures_modify.mpr (h.analyzeCheckpoint workflowId policy evidence)
  | transition requestedMode =>
    exact Proc.ensures_modify.mpr ⟨h.desk, h.applied, h.small, h.once⟩

theorem Steady.start (policy : KernelPolicy F) (mode : RuntimeMode) :
    (start policy mode).Steady where
  desk := Desk.Sound.start _ _
  applied := rfl
  small _ ha := absurd ha List.not_mem_nil
  once := List.nodup_nil

theorem Steady.foldl {fmt : Formatting F} (calls : List (CalibrationCall F)) :
    ∀ {σ : Calibration F}, σ.Steady → CarefulRun fmt σ calls →
      (calls.foldl (fun σ call => (Calibration.perform fmt call σ).2) σ).Steady := by
  induction calls with
  | nil => exact fun h _ => h
  | cons call calls ih => exact fun h hcareful => ih (h.perform hcareful.1) hcareful.2

theorem CarefulRun.prefix {fmt : Formatting F} {done rest : List (CalibrationCall F)} :
    ∀ {σ : Calibration F}, CarefulRun fmt σ (done ++ rest) → CarefulRun fmt σ done := by
  induction done with
  | nil => exact fun _ => trivial
  | cons call done ih => exact fun h => ⟨h.1, ih h.2⟩

/-- In every state of a run of careful calls the patches were small, are in force until they are
rolled back, and leave the policy as it was. -/
theorem patches_are_small_and_reversible (fmt : Formatting F) (policy : KernelPolicy F)
    (mode : RuntimeMode) (done rest : List (CalibrationCall F))
    (h : CarefulRun fmt (start policy mode) (done ++ rest)) : (run fmt policy mode done).Lawful :=
  ((Steady.start policy mode).foldl done h.prefix).lawful

end Calibration

namespace Overridden

def fmt : Formatting ℚ where
  fixed2 _ := "0.00"
  json _ := "0.0"

def balanced : PolicyProfile ℚ where
  name := .balanced
  policyVersion := "balanced-1.0.0"
  kernelPolicy := { policyVersion := "balanced-1.0.0" }
  checkpointIntervalMinutes := some 30
  runtimeMode := .recommend
  minSampleSize := 20

def attempts : PolicyPatch ℚ where
  field := "max_step_attempts"
  oldValue := .int 2
  newValue := .int 3
  reason := "one attempt more"
  policyVersionFrom := "balanced-1.0.0"
  policyVersionTo := "balanced-1.0.0+patch"
  sampleSize := 20
  createdAt := 0

def cycle : CalibrationCall ℚ :=
  .cycle
    { workflowId := "w"
      profile := { duration := .short, risk := .medium }
      policy := balanced }

open Calibration

/-- A patch that is applied and rolled back after a cycle. -/
theorem rolled_back_patch_is_lawful :
    (run fmt {} .controlledAdaptive [cycle, .patch attempts, .rollback attempts]).Lawful := by
  refine patches_are_small_and_reversible fmt {} .controlledAdaptive
    [cycle, .patch attempts, .rollback attempts] [] ⟨?_, ?_, ?_, trivial⟩
  · exact ⟨fun _ => .inl rfl, fun hauto => absurd hauto (by decide)⟩
  · refine fun _ _ => ⟨by decide +kernel, rfl, rfl, fun q hq => ?_⟩
    exact absurd hq List.not_mem_nil
  · exact fun _ _ => by decide +kernel

/-- The cycle installs the values of the profile over the patch, which is in force all the same. -/
theorem cycle_overrides_patch : ¬ ∀ (policy : KernelPolicy ℚ) (mode : RuntimeMode)
    (calls : List (CalibrationCall ℚ)), (run fmt policy mode calls).Lawful := by
  intro h
  have hforce : attempts.core ∈
      (run fmt {} .controlledAdaptive [.patch attempts, cycle]).inForce := by
    decide +kernel
  have hvalue : (run fmt {} .controlledAdaptive [.patch attempts, cycle]).policy.value
      "max_step_attempts" = .int 2 := by
    decide +kernel
  have hstays := (h {} .controlledAdaptive [.patch attempts, cycle]).stays _ hforce
  exact absurd (hvalue.symm.trans hstays) (by decide)

end Overridden

end MaestroKernel.Adaptive
