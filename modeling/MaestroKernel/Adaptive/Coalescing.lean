import MaestroKernel.Adaptive.Checkpoints
import Mathlib.Data.List.Induction

/-! # Coalesced checkpoints

A call suppresses a checkpoint that is due when the last schedule decision of the workflow
was due with the same trigger and event and falls in the window. That decision may be one
of a poll, or one that was suppressed itself; then no checkpoint need have been created. -/

namespace MaestroKernel.Adaptive

open Workflow

variable {W F : Type} [Number F]

/-! ## Decisions -/

theorem inspect_trigger (call : CheckpointCall W F) (last : Option ℚ) :
    (inspect call last).trigger = checkpointKind call last (call.now.getD call.inspectedAt) := by
  unfold inspect checkpointKind
  dsimp only
  split
  · rfl
  split
  · rfl
  split
  · rfl
  cases call.policy.checkpointIntervalMinutes with
  | none => rfl
  | some interval =>
    cases last with
    | none => rfl
    | some last =>
      dsimp only
      have hdue : last + interval * 60 ≤ call.now.getD call.inspectedAt ↔
          (interval : ℚ) * 60 ≤ call.now.getD call.inspectedAt - last := by
        rw [le_sub_iff_add_le, add_comm]
      by_cases h : last + interval * 60 ≤ call.now.getD call.inspectedAt
      · rw [if_pos h, if_pos (hdue.mp h)]
      · rw [if_neg h, if_neg fun h' => h (hdue.mpr h')]

theorem inspect_due (call : CheckpointCall W F) (last : Option ℚ) :
    (inspect call last).due = (inspect call last).trigger.isSome := by
  unfold inspect
  dsimp only
  repeat' split
  all_goals rfl

theorem inspect_spec (call : CheckpointCall W F) (last : Option ℚ) :
    (inspect call last).event = call.event ∧ (inspect call last).createdAt = call.createdAt := by
  unfold inspect
  dsimp only
  repeat' split
  all_goals exact ⟨rfl, rfl⟩

theorem checkpointKind_unique {call : CheckpointCall W F} {last : Option ℚ} {now now' : ℚ}
    {kind kind' : CheckpointKind} (h : checkpointKind call last now = some kind)
    (h' : checkpointKind call last now' = some kind') : kind = kind' := by
  unfold checkpointKind at h h'
  split at h
  · rw [if_pos ‹_›] at h'
    exact Option.some.inj (h.symm.trans h')
  rw [if_neg ‹_›] at h'
  split at h
  · rw [if_pos ‹_›] at h'
    exact Option.some.inj (h.symm.trans h')
  rw [if_neg ‹_›] at h'
  split at h
  · rw [if_pos ‹_›] at h'
    exact Option.some.inj (h.symm.trans h')
  rw [if_neg ‹_›] at h'
  cases hinterval : call.policy.checkpointIntervalMinutes with
  | none =>
    rw [hinterval] at h
    exact absurd h (by simp)
  | some interval =>
    rw [hinterval] at h h'
    cases last with
    | none => exact Option.some.inj (h.symm.trans h')
    | some last =>
      dsimp only at h h'
      split at h
      · split at h'
        · exact Option.some.inj (h.symm.trans h')
        · exact absurd h' (by simp)
      · exact absurd h (by simp)

/-- Final checkpoints and those for critical events. -/
def Exempt (decision : CheckpointScheduleDecision) : Prop :=
  decision.trigger = some .final ∨
    (decision.event.any fun event => event ∈ nonCoalescableEvents) = true

/-- The decision is due, not exempt, and a repetition of the previous one. -/
structure Repeats (decision previous : CheckpointScheduleDecision) (cooldownSeconds : ℚ) :
    Prop where
  due : decision.due = true
  previous_due : previous.due = true
  coalescable : ¬ Exempt decision
  trigger : previous.trigger = decision.trigger
  event : previous.event = decision.event
  within : decision.createdAt - previous.createdAt ≤ cooldownSeconds

theorem coalesceCheckpointDecision_original (decision : CheckpointScheduleDecision)
    (previous : Option CheckpointScheduleDecision) (cooldown at' : ℚ) :
    (coalesceCheckpointDecision decision previous cooldown at').originalDecision = decision := by
  unfold coalesceCheckpointDecision
  dsimp only
  repeat' split
  all_goals rfl

theorem coalesceCheckpointDecision_due {decision : CheckpointScheduleDecision}
    {previous : Option CheckpointScheduleDecision} {cooldown at' : ℚ} (hcooldown : 0 < cooldown) :
    (coalesceCheckpointDecision decision previous cooldown at').effectiveDecision.due = true ↔
      decision.due = true ∧ ¬ ∃ p, previous = some p ∧ Repeats decision p cooldown := by
  unfold coalesceCheckpointDecision
  dsimp only
  cases previous with
  | none => simp
  | some previous =>
    simp only [Option.some.injEq, exists_eq_left']
    split
    · rename_i hdisabled
      have hdue := hdisabled.resolve_left (not_le.mpr hcooldown)
      simp [hdue]
    rename_i hdisabled
    have hdue : decision.due = true := by
      rw [not_or, Bool.not_eq_false] at hdisabled
      exact hdisabled.2
    split
    · rename_i hexempt
      exact ⟨fun h => ⟨h, fun hrepeats => hrepeats.coalescable hexempt⟩, fun h => h.1⟩
    rename_i hexempt
    split
    · rename_i hprevious
      refine ⟨fun h => ⟨h, fun hrepeats => ?_⟩, fun h => h.1⟩
      exact absurd (hrepeats.previous_due.symm.trans hprevious) (by simp)
    rename_i hprevious
    rw [Bool.not_eq_false] at hprevious
    split
    · rename_i hsame
      refine ⟨fun h => absurd h (by simp), fun h => absurd ?_ h.2⟩
      exact ⟨hdue, hprevious, hexempt, hsame.1, hsame.2.1, hsame.2.2⟩
    · rename_i hdistinct
      refine ⟨fun h => ⟨h, fun hrepeats => hdistinct ?_⟩, fun h => h.1⟩
      exact ⟨hrepeats.trigger, hrepeats.event, hrepeats.within⟩

/-! ## Calls -/

def Due (σ : Schedule F) (call : CheckpointCall W F) : Prop :=
  ∀ now ∈ [call.now.getD call.inspectedAt, call.now.getD call.checkedAt],
    (checkpointKind call (σ.lastCheckpointAt call.workflowId) now).isSome

/-- A checkpoint of the trigger and the event of the call was created within its window. -/
def Recent (σ : Schedule F) (call : CheckpointCall W F) : Prop :=
  ∃ c ∈ σ.created, c.workflowId = call.workflowId ∧ (σ.inspection call).trigger = some c.trigger ∧
    call.event = c.event ∧ call.createdAt - c.createdAt ≤ call.coalesceWindowSeconds

/-- The call repeats the last decision of the workflow. -/
def Suppressed (σ : Schedule F) (call : CheckpointCall W F) : Prop :=
  0 < call.coalesceWindowSeconds ∧ ∃ previous, σ.previousDecision call.workflowId = some previous ∧
    Repeats (σ.inspection call) previous call.coalesceWindowSeconds

def Creates (σ : Schedule F) (call : CheckpointCall W F) : Prop :=
  (σ.maybeCheckpoint call).1.isSome = true

namespace Schedule

variable {σ : Schedule F} {call : CheckpointCall W F}

theorem createCheckpoint_isSome : (σ.createCheckpoint call).1.isSome =
    (checkpointKind call (σ.lastCheckpointAt call.workflowId)
      (call.now.getD call.checkedAt)).isSome := by
  unfold createCheckpoint schedulerCheckpoint
  dsimp only
  cases checkpointKind call (σ.lastCheckpointAt call.workflowId) (call.now.getD call.checkedAt) with
  | none => rfl
  | some kind => rfl

theorem checkpointScheduleDecision_due (hwindow : 0 < call.coalesceWindowSeconds) :
    (σ.checkpointScheduleDecision call).1.due = true ↔
      (σ.inspection call).due = true ∧ ¬ Suppressed σ call := by
  unfold checkpointScheduleDecision Suppressed
  dsimp only
  rw [coalesceCheckpointDecision_due hwindow]
  simp [hwindow]

theorem creates_iff (hdue : Due σ call) : Creates σ call ↔ ¬ Suppressed σ call := by
  have hinspection : (σ.inspection call).due = true := by
    rw [inspection, inspect_due, inspect_trigger]
    exact hdue _ List.mem_cons_self
  have hkind : (checkpointKind call (σ.lastCheckpointAt call.workflowId)
      (call.now.getD call.checkedAt)).isSome = true := hdue _ (by simp)
  unfold Creates maybeCheckpoint
  by_cases hwindow : 0 < call.coalesceWindowSeconds
  · rw [if_pos hwindow]
    dsimp only
    split
    · rename_i hnot
      have hsuppressed : Suppressed σ call := by
        by_contra h
        exact absurd ((checkpointScheduleDecision_due hwindow).mpr ⟨hinspection, h⟩) (by simp [hnot])
      simp [hsuppressed]
    · rename_i hpassed
      rw [Bool.not_eq_false] at hpassed
      have hunsuppressed := ((checkpointScheduleDecision_due hwindow).mp hpassed).2
      simp only [hunsuppressed, not_false_eq_true, iff_true]
      rw [createCheckpoint_isSome]
      exact hkind
  · rw [if_neg hwindow, createCheckpoint_isSome, hkind]
    simp [Suppressed, hwindow]

end Schedule

/-! ## Runs -/

/-- The last decision of a workflow is one of a checkpoint that was created, where the call that
made it created one. -/
def Answered (σ : Schedule F) : Prop :=
  ∀ workflowId, σ.answered workflowId = true →
    ∃ previous, σ.previousDecision workflowId = some previous ∧
      ∃ c ∈ σ.created, c.workflowId = workflowId ∧ previous.trigger = some c.trigger ∧
        previous.event = c.event ∧ previous.createdAt = c.createdAt

section Runs

variable {σ σ' : Schedule F} {call : CheckpointCall W F}

theorem Answered.of_kept (h : Answered σ) (hanswered : σ'.answered = σ.answered)
    (hdecisions : σ'.coalescingDecisions = σ.coalescingDecisions)
    (hcreated : ∀ c ∈ σ.created, c ∈ σ'.created) : Answered σ' := by
  intro workflowId hlast
  rw [hanswered] at hlast
  obtain ⟨previous, hprevious, c, hc, hspec⟩ := h workflowId hlast
  refine ⟨previous, ?_, c, hcreated c hc, hspec⟩
  unfold Schedule.previousDecision at hprevious ⊢
  rw [hdecisions]
  exact hprevious

theorem previousDecision_self (σ : Schedule F) (call : CheckpointCall W F) :
    (σ.checkpointScheduleDecision call).2.previousDecision call.workflowId =
      some (σ.inspection call) := by
  unfold Schedule.previousDecision Schedule.checkpointScheduleDecision extend
  dsimp only
  rw [Function.update_self, List.getLast?_append, List.getLast?_singleton, Option.some_or,
    Option.map_some, coalesceCheckpointDecision_original]

theorem Answered.decided (h : Answered σ) (call : CheckpointCall W F) :
    Answered (σ.checkpointScheduleDecision call).2 := by
  intro workflowId hlast
  by_cases hid : workflowId = call.workflowId
  · subst hid
    unfold Schedule.checkpointScheduleDecision at hlast
    dsimp only at hlast
    rw [Function.update_self] at hlast
    exact absurd hlast (by simp)
  · have hsame : (σ.checkpointScheduleDecision call).2.previousDecision workflowId =
        σ.previousDecision workflowId := by
      unfold Schedule.previousDecision Schedule.checkpointScheduleDecision extend
      dsimp only
      rw [Function.update_of_ne hid]
    unfold Schedule.checkpointScheduleDecision at hlast
    dsimp only at hlast
    rw [Function.update_of_ne hid] at hlast
    rw [hsame]
    exact h workflowId hlast

/-- What the creation of a checkpoint leaves, and what it lists. -/
theorem createCheckpoint_spec (σ : Schedule F) (call : CheckpointCall W F) :
    (σ.createCheckpoint call).2.answered = σ.answered ∧
      (σ.createCheckpoint call).2.coalescingDecisions = σ.coalescingDecisions ∧
      (∀ c ∈ σ.created, c ∈ (σ.createCheckpoint call).2.created) ∧
      ∀ kind, checkpointKind call (σ.lastCheckpointAt call.workflowId)
        (call.now.getD call.checkedAt) = some kind →
          ⟨call.workflowId, kind, call.event, call.createdAt⟩ ∈
            (σ.createCheckpoint call).2.created := by
  unfold Schedule.createCheckpoint Schedule.schedulerCheckpoint
  dsimp only
  cases checkpointKind call (σ.lastCheckpointAt call.workflowId) (call.now.getD call.checkedAt) with
  | none => exact ⟨rfl, rfl, fun c hc => hc, fun kind hkind => absurd hkind (by simp)⟩
  | some kind =>
    refine ⟨rfl, rfl, fun c hc => List.mem_append_left _ hc, fun kind' hkind => ?_⟩
    obtain rfl := Option.some.inj hkind
    exact List.mem_append_right _ List.mem_cons_self

theorem Answered.created (h : Answered σ) (call : CheckpointCall W F) :
    Answered (σ.createCheckpoint call).2 := by
  obtain ⟨hanswered, hdecisions, hcreated, -⟩ := createCheckpoint_spec σ call
  exact h.of_kept hanswered hdecisions hcreated

theorem Answered.checkpoint (h : Answered σ) (call : CheckpointCall W F) :
    Answered (σ.maybeCheckpoint call).2 := by
  unfold Schedule.maybeCheckpoint
  split
  · rename_i hwindow
    dsimp only
    split
    · exact h.decided call
    rename_i hpassed
    rw [Bool.not_eq_false] at hpassed
    have hdue := ((Schedule.checkpointScheduleDecision_due hwindow).mp hpassed).1
    obtain ⟨σ₁, hσ₁⟩ : ∃ σ₁, σ₁ = (σ.checkpointScheduleDecision call).2 := ⟨_, rfl⟩
    rw [← hσ₁]
    have hdecided : Answered σ₁ := hσ₁ ▸ h.decided call
    have hprevious : σ₁.previousDecision call.workflowId = some (σ.inspection call) :=
      hσ₁ ▸ previousDecision_self σ call
    have hlast : σ₁.lastCheckpointAt = σ.lastCheckpointAt := by rw [hσ₁]; rfl
    obtain ⟨hanswered, hdecisions, hcreated, hnew⟩ := createCheckpoint_spec σ₁ call
    intro workflowId hyes
    by_cases hid : workflowId = call.workflowId
    · subst hid
      dsimp only at hyes
      rw [Function.update_self, Schedule.createCheckpoint_isSome] at hyes
      obtain ⟨kind, hkind⟩ := Option.isSome_iff_exists.mp hyes
      have htrigger : (σ.inspection call).trigger = some kind := by
        rw [Schedule.inspection, inspect_due, inspect_trigger] at hdue
        obtain ⟨kind', hkind'⟩ := Option.isSome_iff_exists.mp hdue
        rw [hlast] at hkind
        rw [Schedule.inspection, inspect_trigger, hkind', checkpointKind_unique hkind' hkind]
      refine ⟨σ.inspection call, ?_, _, hnew kind hkind, rfl, htrigger,
        (inspect_spec call _).1, (inspect_spec call _).2⟩
      unfold Schedule.previousDecision at hprevious ⊢
      rw [hdecisions]
      exact hprevious
    · dsimp only at hyes
      rw [Function.update_of_ne hid] at hyes
      exact (hdecided.created call) workflowId hyes
  · exact h.created call

theorem answered_run (acts : List (CheckpointAct W F)) : Answered (Schedule.run acts) := by
  induction acts using List.reverseRecOn with
  | nil => exact fun _ h => absurd h (by simp [Schedule.run])
  | append_singleton acts act ih =>
    unfold Schedule.run at ih ⊢
    rw [List.foldl_append]
    cases act with
    | poll call => exact ih.decided call
    | checkpoint call => exact ih.checkpoint call

theorem Answered.recent (h : Answered σ) (hlast : σ.answered call.workflowId = true)
    (hsuppressed : Suppressed σ call) : Recent σ call := by
  obtain ⟨-, previous, hprevious, hrepeats⟩ := hsuppressed
  obtain ⟨previous', hprevious', c, hc, hid, htrigger, hevent, hcreated⟩ := h _ hlast
  obtain rfl := Option.some.inj (hprevious.symm.trans hprevious')
  obtain ⟨hcall, hat⟩ := inspect_spec call (σ.lastCheckpointAt call.workflowId)
  refine ⟨c, hc, hid, hrepeats.trigger.symm.trans htrigger, ?_, ?_⟩
  · rw [← hcall, ← hevent]
    exact hrepeats.event.symm
  · rw [← hcreated, ← hat]
    exact hrepeats.within

/-- The checkpoint is final or for a critical event. -/
def Urgent (call : CheckpointCall W F) : Prop :=
  call.final = true ∨ (call.event.any fun event => event ∈ nonCoalescableEvents) = true

theorem Urgent.exempt (h : Urgent call) (σ : Schedule F) : Exempt (σ.inspection call) := by
  rcases h with hfinal | hevent
  · left
    rw [Schedule.inspection, inspect_trigger, checkpointKind, if_pos hfinal]
  · right
    rw [Schedule.inspection, (inspect_spec call _).1]
    exact hevent

end Runs

namespace Polled

def profile : TaskProfile := { duration := .short, risk := .low }

def policy : PolicyProfile ℚ where
  name := .balanced
  policyVersion := "balanced-1.0.0"
  kernelPolicy := { policyVersion := "balanced-1.0.0" }
  checkpointIntervalMinutes := some 30
  runtimeMode := .recommend
  minSampleSize := 20

/-- A milestone, at a reading of the clock. -/
def call (at' : ℚ) : CheckpointCall Unit ℚ where
  kernel := { registry := [], world := () }
  workflow := { plan := { workflowId := "w", goal := "a draft", steps := [] } }
  profile
  policy
  milestone := true
  now := some at'
  coalesceWindowSeconds := 30
  inspectedAt := at'
  createdAt := at'
  coalescedAt := at'
  checkedAt := at'

end Polled

end MaestroKernel.Adaptive
