import MaestroKernel.Workflow.Safety
import Mathlib.Algebra.Order.BigOperators.Group.List
import Mathlib.Data.List.Induction

/-! # Every call of `run_workflow` ends

What a run keeps is said of the steps and of the starts only. The starts that the waiting
steps have left bound the passes of the loop. -/

namespace MaestroKernel.Workflow

variable {W F : Type} [Number F] {p : KernelPolicy F} {plan : WorkflowPlan F}
  {steps : List StepRecord} {starts : List (Start W F)} {record after r : StepRecord}
  {start : Start W F}

def startCount (starts : List (Start W F)) (stepId : String) : ℕ :=
  starts.countP fun start => start.stepId = stepId

structure Orderly (p : KernelPolicy F) (plan : WorkflowPlan F) (steps : List StepRecord)
    (starts : List (Start W F)) : Prop where
  unique : (steps.map fun r => r.step.stepId).Nodup
  planned : ∀ r ∈ steps, r.step ∈ plan.steps
  known : ∀ r ∈ steps, ∀ d ∈ r.step.dependsOn, ∃ q ∈ steps, q.step.stepId = d
  waiting : ∀ r ∈ steps, r.state = .pending →
    r.attempts = 0 ∨ (r.attempts : ℤ) < attemptLimit p r.step
  within : ∀ r ∈ steps, (r.attempts : ℤ) ≤ allowance p r.step
  counted : ∀ r ∈ steps, startCount starts r.step.stepId = r.attempts
  recorded : ∀ start ∈ starts, ∃ r ∈ steps, r.step = start.record.step
  lawful : ∀ start ∈ starts, start.Lawful
  settled : ∀ start ∈ starts, start.result.ok = true →
    ∀ r ∈ steps, r.step.stepId = start.stepId → r.state = .completed
  once : starts.Pairwise fun a b => a.result.ok = true → b.stepId ≠ a.stepId

/-! ## A new plan -/

/-- The dict of a plan: distinct keys, steps of the plan, and a key for every step. -/
theorem stepRecords_spec (steps : List WorkflowStep) :
    ((Run.stepRecords steps).map fun r => r.step.stepId).Nodup ∧
      (∀ r ∈ Run.stepRecords steps, ∃ step ∈ steps, r = { step := step }) ∧
      ∀ step ∈ steps, ∃ r ∈ Run.stepRecords steps, r.step.stepId = step.stepId := by
  induction steps using List.reverseRecOn with
  | nil => exact ⟨List.nodup_nil, by simp [Run.stepRecords], by simp⟩
  | append_singleton steps step ih =>
    obtain ⟨hunique, hplanned, hkeys⟩ := ih
    have hrec : Run.stepRecords (steps ++ [step]) =
        if (Run.stepRecords steps).any fun r => r.step.stepId = step.stepId then
          (Run.stepRecords steps).map fun r =>
            if r.step.stepId = step.stepId then { step := step } else r
        else Run.stepRecords steps ++ [{ step := step }] := by
      unfold Run.stepRecords
      rw [List.foldl_append]
      rfl
    rw [hrec]
    split
    · rename_i hany
      have hids : ((Run.stepRecords steps).map fun r =>
          if r.step.stepId = step.stepId then ({ step := step } : StepRecord) else r).map
            (fun r => r.step.stepId) = (Run.stepRecords steps).map fun r => r.step.stepId := by
        rw [List.map_map]
        apply List.map_congr_left
        intro r _
        by_cases hr : r.step.stepId = step.stepId <;> simp [hr]
      refine ⟨by rw [hids]; exact hunique, ?_, ?_⟩
      · intro r hr
        obtain ⟨q, hq, rfl⟩ := List.mem_map.mp hr
        split
        · exact ⟨step, by simp, rfl⟩
        · obtain ⟨other, hother, hqr⟩ := hplanned q hq
          exact ⟨other, by simp [hother], hqr⟩
      · intro other hother
        have hkey : ∃ r ∈ Run.stepRecords steps, r.step.stepId = other.stepId := by
          rcases List.mem_append.mp hother with hother | hother
          · exact hkeys other hother
          · obtain rfl : other = step := by simpa using hother
            simpa using hany
        obtain ⟨r, hr, hid⟩ := hkey
        refine ⟨_, List.mem_map_of_mem hr, ?_⟩
        by_cases hsame : r.step.stepId = step.stepId
        · rw [if_pos hsame, ← hid, hsame]
        · rw [if_neg hsame, hid]
    · rename_i hany
      refine ⟨?_, ?_, ?_⟩
      · rw [List.map_append, List.nodup_append]
        refine ⟨hunique, by simp, ?_⟩
        intro a ha b hb hab
        obtain ⟨r, hr, rfl⟩ := List.mem_map.mp ha
        obtain rfl : b = step.stepId := by simpa using hb
        exact hany (List.any_eq_true.mpr ⟨r, hr, by simpa using hab⟩)
      · intro r hr
        rcases List.mem_append.mp hr with hr | hr
        · obtain ⟨other, hother, hrr⟩ := hplanned r hr
          exact ⟨other, by simp [hother], hrr⟩
        · exact ⟨step, by simp, by simpa using hr⟩
      · intro other hother
        rcases List.mem_append.mp hother with hother | hother
        · obtain ⟨r, hr, hid⟩ := hkeys other hother
          exact ⟨r, by simp [hr], hid⟩
        · obtain rfl : other = step := by simpa using hother
          exact ⟨{ step := other }, by simp, rfl⟩

theorem orderly_created (hknown : plan.Known) :
    Orderly p plan (Run.stepRecords plan.steps) ([] : List (Start W F)) := by
  obtain ⟨hunique, hplanned, hkeys⟩ := stepRecords_spec plan.steps
  have hfresh : ∀ r ∈ Run.stepRecords plan.steps, r.step ∈ plan.steps ∧ r.attempts = 0 := by
    intro r hr
    obtain ⟨step, hstep, rfl⟩ := hplanned r hr
    exact ⟨hstep, rfl⟩
  refine ⟨hunique, fun r hr => (hfresh r hr).1, ?_, fun r hr _ => .inl (hfresh r hr).2, ?_, ?_,
    by simp, by simp, by simp, List.Pairwise.nil⟩
  · intro r hr d hd
    obtain ⟨other, hother, rfl⟩ := hknown r.step (hfresh r hr).1 d hd
    exact hkeys other hother
  · intro r hr
    rw [(hfresh r hr).2]
    exact le_trans (by decide) (le_max_left 1 _)
  · intro r hr
    rw [(hfresh r hr).2]
    rfl

/-! ## One more start -/

def replaced (steps : List StepRecord) (after : StepRecord) : List StepRecord :=
  steps.map fun r => if r.step.stepId = after.step.stepId then after else r

theorem mem_replaced (hunique : (steps.map fun r => r.step.stepId).Nodup) (hrecord : record ∈ steps)
    (hstep : after.step = record.step) :
    r ∈ replaced steps after ↔ r = after ∨ r ∈ steps ∧ r ≠ record := by
  unfold replaced
  rw [List.mem_map]
  constructor
  · rintro ⟨q, hq, rfl⟩
    by_cases hid : q.step.stepId = after.step.stepId
    · left
      rw [if_pos hid]
    · right
      rw [if_neg hid]
      refine ⟨hq, ?_⟩
      rintro rfl
      exact hid (by rw [hstep])
  · rintro (rfl | ⟨hr, hne⟩)
    · exact ⟨record, hrecord, by rw [if_pos (by rw [hstep])]⟩
    · refine ⟨r, hr, if_neg ?_⟩
      intro hid
      rw [hstep] at hid
      exact hne (List.inj_on_of_nodup_map hunique hr hrecord hid)

theorem replaced_ids (steps : List StepRecord) (after : StepRecord) :
    (replaced steps after).map (fun r => r.step.stepId) = steps.map fun r => r.step.stepId := by
  unfold replaced
  rw [List.map_map]
  apply List.map_congr_left
  intro r _
  by_cases hid : r.step.stepId = after.step.stepId <;> simp [hid]

theorem Completed.replaced (hunique : (steps.map fun r => r.step.stepId).Nodup)
    (hrecord : record ∈ steps) (hpending : record.state = .pending)
    (hstep : after.step = record.step) (h : Completed steps r) :
    Completed (Workflow.replaced steps after) r := by
  intro d hd
  obtain ⟨q, hq, hid, hcompleted⟩ := h d hd
  refine ⟨q, (mem_replaced hunique hrecord hstep).mpr (.inr ⟨hq, ?_⟩), hid, hcompleted⟩
  rintro rfl
  rw [hpending] at hcompleted
  cases hcompleted

theorem startCount_append (starts : List (Start W F)) (start : Start W F) (stepId : String) :
    startCount (starts ++ [start]) stepId =
      startCount starts stepId + if start.stepId = stepId then 1 else 0 := by
  unfold startCount
  rw [List.countP_append]
  by_cases h : start.stepId = stepId <;> simp [h]

/-- One more start of a step that waits for nothing keeps the order. -/
theorem Orderly.started (h : Orderly p plan steps starts) (hrecord : record ∈ steps)
    (hpending : record.state = .pending) (hlawful : start.Lawful)
    (hbefore : start.record = record) (hstep : after.step = record.step)
    (hattempts : after.attempts = record.attempts + 1)
    (hok : start.result.ok = true → after.state = .completed)
    (hwaiting : after.state = .pending → (after.attempts : ℤ) < attemptLimit p record.step) :
    Orderly p plan (replaced steps after) (starts ++ [start]) := by
  have hmem := fun r => mem_replaced (r := r) h.unique hrecord hstep
  have hid : start.stepId = record.step.stepId := by rw [Start.stepId, hbefore]
  have hother : ∀ r ∈ steps, r ≠ record → r.step.stepId ≠ record.step.stepId :=
    fun r hr hne he => hne (List.inj_on_of_nodup_map h.unique hr hrecord he)
  refine ⟨by rw [replaced_ids]; exact h.unique, ?_, ?_, ?_, ?_, ?_, ?_, ?_, ?_, ?_⟩
  · intro r hr
    rcases (hmem r).mp hr with rfl | ⟨hr, _⟩
    · rw [hstep]
      exact h.planned record hrecord
    · exact h.planned r hr
  · have hkey : ∀ q ∈ steps, ∃ q' ∈ replaced steps after, q'.step.stepId = q.step.stepId := by
      intro q hq
      have hq' : q.step.stepId ∈ (replaced steps after).map fun r => r.step.stepId := by
        rw [replaced_ids]
        exact List.mem_map_of_mem hq
      simpa using hq'
    intro r hr d hd
    have hr' : ∃ q ∈ steps, q.step = r.step := by
      rcases (hmem r).mp hr with rfl | ⟨hr, _⟩
      · exact ⟨record, hrecord, hstep.symm⟩
      · exact ⟨r, hr, rfl⟩
    obtain ⟨q, hq, hqr⟩ := hr'
    rw [← hqr] at hd
    obtain ⟨target, htarget, rfl⟩ := h.known q hq d hd
    exact hkey target htarget
  · intro r hr hp
    rcases (hmem r).mp hr with rfl | ⟨hr, _⟩
    · right
      rw [hstep]
      exact hwaiting hp
    · exact h.waiting r hr hp
  · intro r hr
    rcases (hmem r).mp hr with rfl | ⟨hr, _⟩
    · rw [hstep, hattempts, allowance]
      rcases h.waiting record hrecord hpending with hzero | hlimit
      · rw [hzero]
        exact le_max_left _ _
      · push_cast
        exact le_trans (by omega) (le_max_right _ _)
    · exact h.within r hr
  · intro r hr
    rw [startCount_append, hid]
    rcases (hmem r).mp hr with rfl | ⟨hr, hne⟩
    · rw [hstep, h.counted record hrecord, if_pos rfl, hattempts]
    · rw [if_neg (hother r hr hne).symm, h.counted r hr]
      rfl
  · intro q hq
    have hreplaced : ∀ r ∈ steps, ∃ r' ∈ replaced steps after, r'.step = r.step := by
      intro r hr
      by_cases hne : r = record
      · exact ⟨after, (hmem after).mpr (.inl rfl), by rw [hstep, hne]⟩
      · exact ⟨r, (hmem r).mpr (.inr ⟨hr, hne⟩), rfl⟩
    rcases List.mem_append.mp hq with hq | hq
    · obtain ⟨r, hr, hrq⟩ := h.recorded q hq
      obtain ⟨r', hr', he⟩ := hreplaced r hr
      exact ⟨r', hr', he.trans hrq⟩
    · obtain rfl : q = start := by simpa using hq
      obtain ⟨r', hr', he⟩ := hreplaced record hrecord
      exact ⟨r', hr', by rw [he, hbefore]⟩
  · intro q hq
    rcases List.mem_append.mp hq with hq | hq
    · exact h.lawful q hq
    · obtain rfl : q = start := by simpa using hq
      exact hlawful
  · intro q hq hqok r hr hrq
    rcases List.mem_append.mp hq with hq | hq
    · rcases (hmem r).mp hr with rfl | ⟨hr, _⟩
      · -- a step that was answered with ok does not wait
        have hdone := h.settled q hq hqok record hrecord (by rw [← hrq, hstep])
        rw [hpending] at hdone
        cases hdone
      · exact h.settled q hq hqok r hr hrq
    · obtain rfl : q = start := by simpa using hq
      rcases (hmem r).mp hr with rfl | ⟨hr, hne⟩
      · exact hok hqok
      · exact absurd (hrq.trans hid) (hother r hr hne)
  · rw [List.pairwise_append]
    refine ⟨h.once, List.pairwise_singleton _ _, ?_⟩
    intro a ha b hb haok
    obtain rfl : b = start := by simpa using hb
    intro hsame
    have hdone := h.settled a ha haok record hrecord (by rw [← hsame, hid])
    rw [hpending] at hdone
    cases hdone

def startsLeft (p : KernelPolicy F) (r : StepRecord) : ℕ :=
  if r.state = .pending then (allowance p r.step - r.attempts).toNat else 0

def budget (p : KernelPolicy F) (steps : List StepRecord) : ℕ := (steps.map (startsLeft p)).sum

theorem Orderly.startsLeft_pos (h : Orderly p plan steps starts) (hrecord : record ∈ steps)
    (hpending : record.state = .pending) : (record.attempts : ℤ) < allowance p record.step := by
  unfold allowance
  rcases h.waiting record hrecord hpending with hzero | hlimit
  · rw [hzero]
    exact lt_of_lt_of_le (by decide) (le_max_left _ _)
  · exact lt_of_lt_of_le hlimit (le_max_right _ _)

theorem Orderly.budget_lt (h : Orderly p plan steps starts) (hrecord : record ∈ steps)
    (hpending : record.state = .pending) (hstep : after.step = record.step)
    (hattempts : after.attempts = record.attempts + 1) :
    budget p (replaced steps after) < budget p steps := by
  have hleft := h.startsLeft_pos hrecord hpending
  have hless : startsLeft p after < startsLeft p record := by
    unfold startsLeft
    rw [if_pos hpending, hstep, hattempts]
    split <;> omega
  unfold budget replaced
  rw [List.map_map]
  apply List.sum_lt_sum
  · intro r hr
    rw [Function.comp_apply]
    by_cases hid : r.step.stepId = after.step.stepId
    · obtain rfl : r = record := by
        rw [hstep] at hid
        exact List.inj_on_of_nodup_map h.unique hr hrecord hid
      rw [if_pos hid]
      exact hless.le
    · rw [if_neg hid]
  · refine ⟨record, hrecord, ?_⟩
    rw [Function.comp_apply, if_pos (by rw [hstep])]
    exact hless

/-! ## One pass -/

namespace Run

variable {env : Environment W F} {runtime : Runtime W F} {s : Run W F}

theorem step?_replaced {workflow : WorkflowRecord F} (h : workflow.steps = replaced steps after)
    (hunique : (steps.map fun r => r.step.stepId).Nodup) (hrecord : record ∈ steps)
    (hstep : after.step = record.step) : workflow.step? record.step.stepId = some after := by
  rw [← hstep]
  apply WorkflowRecord.step?_of_mem
  · rw [h, replaced_ids]
    exact hunique
  · rw [h]
    exact (mem_replaced hunique hrecord hstep).mpr (.inl rfl)

/-- The steps of a pass wait for nothing until their turn comes. -/
structure Ready (s : Run W F) (ready : List String) : Prop where
  nodup : ready.Nodup
  waits : ∀ stepId ∈ ready, ∃ r ∈ s.workflow.steps, r.step.stepId = stepId ∧
    r.state = .pending ∧ Completed s.workflow.steps r

/-- What a pass keeps, and what it leaves when it is not cut short. -/
structure Passed (p : KernelPolicy F) (plan : WorkflowPlan F) (ready : List String) (s : Run W F)
    (outcome : Except KernelError Bool) (s' : Run W F) : Prop where
  orderly : Orderly p plan s'.workflow.steps s'.starts
  spent : outcome = .ok false → ready ≠ [] →
    budget p s'.workflow.steps < budget p s.workflow.steps
  le : budget p s'.workflow.steps ≤ budget p s.workflow.steps
  stopped : outcome = .ok true → s'.workflow.state = .escalated

theorem Ran.spec {start : Start W F} {s' : Run W F} (hran : Ran env record s s' start after)
    (h : Orderly env.policy plan s.workflow.steps s.starts) (hrecord : record ∈ s.workflow.steps)
    (hpending : record.state = .pending) (hcompleted : Completed s.workflow.steps record) :
    Orderly env.policy plan s'.workflow.steps s'.starts ∧
      s'.workflow.steps = replaced s.workflow.steps after ∧
      budget env.policy s'.workflow.steps < budget env.policy s.workflow.steps := by
  have hsteps : s'.workflow.steps = replaced s.workflow.steps after := hran.steps
  obtain ⟨hregistered, hactive, hcapable⟩ := Kernel.assignAgent_spec hran.assigned
  have hlawful : start.Lawful := by
    refine ⟨?_, ?_, ?_, ?_, hactive, ?_⟩
    · rw [hran.before, hran.workflow]
      exact hrecord
    · rw [hran.before]
      exact hpending
    · rw [hran.before, hran.workflow]
      exact hcompleted
    · rw [hran.kernel]
      exact hregistered
    · rw [hran.before]
      exact hcapable
  have hwaiting : after.state = .pending →
      (after.attempts : ℤ) < attemptLimit env.policy record.step := by
    intro hafter
    cases hok : start.result.ok with
    | true =>
      rw [hran.completed hok] at hafter
      cases hafter
    | false =>
      rcases hran.failed hok with hfailed | ⟨_, hlimit⟩
      · rw [hfailed] at hafter
        cases hafter
      · exact hlimit
  refine ⟨?_, hsteps, ?_⟩
  · rw [hsteps, hran.starts]
    exact h.started hrecord hpending hlawful hran.before hran.step hran.attempts hran.completed
      hwaiting
  · rw [hsteps]
    exact h.budget_lt hrecord hpending hran.step hran.attempts

variable (runtime) in
theorem conductReady_passed (ready : List String)
    (h : Orderly env.policy plan s.workflow.steps s.starts) (hready : Ready s ready) :
    Passed env.policy plan ready s (conductReady env runtime ready s).1
      (conductReady env runtime ready s).2 := by
  induction ready generalizing s with
  | nil => exact ⟨h, fun _ hne => absurd rfl hne, le_rfl, by simp [conductReady]⟩
  | cons stepId ready ih =>
    obtain ⟨record, hrecord, rfl, hpending, hcompleted⟩ :=
      hready.waits stepId List.mem_cons_self
    rw [conductReady, WorkflowRecord.step?_of_mem h.unique hrecord]
    dsimp only
    rcases runStep_cases env runtime (h.known record hrecord) with
      ⟨e, herror⟩ | ⟨start, after, hran⟩
    · rw [herror]
      exact ⟨h, by simp, le_rfl, by simp⟩
    · obtain ⟨h₁, hsteps, hless⟩ := hran.spec h hrecord hpending hcompleted
      rcases hrun : runStep env runtime record s with ⟨outcome, s₁⟩
      rw [hrun] at hran h₁ hsteps hless
      cases outcome with
      | error e => exact ⟨h₁, by simp, hless.le, by simp⟩
      | ok _ =>
        dsimp only at hran h₁ hsteps hless ⊢
        have hafter : after ∈ s₁.workflow.steps := by
          rw [hsteps]
          exact (mem_replaced h.unique hrecord hran.step).mpr (.inl rfl)
        rw [step?_replaced hsteps h.unique hrecord hran.step, Option.getD_some]
        obtain ⟨s₂, hhandoffs, hworkflow, hstarts⟩ :=
          observeStepHandoffs_keeps env (h₁.known after hafter)
        rw [hhandoffs]
        dsimp only
        rw [← hworkflow] at hsteps hless
        rw [← hworkflow, ← hstarts] at h₁
        split
        · rename_i hstate
          refine ⟨h₁, by simp, hless.le, fun _ => ?_⟩
          exact hstate.resolve_right (s₂.observeFromSteps_state env)
        · have hrest : Ready (s₂.observeFromSteps env) ready := by
            refine ⟨(List.nodup_cons.mp hready.nodup).2, ?_⟩
            intro stepId hmem
            obtain ⟨r, hr, hid, hwaits, hdone⟩ :=
              hready.waits stepId (List.mem_cons_of_mem _ hmem)
            have hne : r ≠ record := by
              rintro rfl
              exact (List.nodup_cons.mp hready.nodup).1 (hid ▸ hmem)
            rw [observeFromSteps_steps, hsteps]
            exact ⟨r, (mem_replaced h.unique hrecord hran.step).mpr (.inr ⟨hr, hne⟩), hid,
              hwaits, hdone.replaced h.unique hrecord hpending hran.step⟩
          have hpassed := ih (s := s₂.observeFromSteps env) h₁ hrest
          have hle := hpassed.le
          rw [observeFromSteps_steps] at hle
          exact ⟨hpassed.orderly, fun _ _ => hle.trans_lt hless, hle.trans hless.le,
            hpassed.stopped⟩

/-! ## The loop -/

/-- The test of the loop over all steps of the workflow. -/
def readyNow (s : Run W F) : Except KernelError (List StepRecord) :=
  s.workflow.readySteps s.workflow.steps

/-- How a call ends: in order, and with nothing ready unless it raised or was stopped. -/
structure Ended (p : KernelPolicy F) (plan : WorkflowPlan F) (outcome : Except KernelError Unit)
    (s' : Run W F) : Prop where
  orderly : Orderly p plan s'.workflow.steps s'.starts
  idle : outcome = .ok () → s'.workflow.state ≠ .escalated → s'.readyNow = .ok []

variable (env runtime) in
theorem loop_ends (fuel : ℕ) (h : Orderly env.policy plan s.workflow.steps s.starts)
    (hfuel : budget env.policy s.workflow.steps < fuel) :
    ∃ outcome s', loop env runtime fuel s = some (outcome, s') ∧
      Ended env.policy plan outcome s' := by
  induction fuel generalizing s with
  | zero => exact absurd hfuel (Nat.not_lt_zero _)
  | succ fuel ih =>
    obtain ⟨records, hrecords, hsub, hwaits⟩ := WorkflowRecord.readySteps_ok h.known
    rw [loop, hrecords]
    cases records with
    | nil =>
      refine ⟨.ok (), s.observeFromSteps env, rfl, h, fun _ _ => ?_⟩
      exact (WorkflowRecord.readySteps_congr (s.observeFromSteps_steps env) _).trans hrecords
    | cons record records =>
      have hready : Ready s ((record :: records).map fun r => r.step.stepId) := by
        refine ⟨(hsub.map _).nodup h.unique, ?_⟩
        intro stepId hmem
        obtain ⟨r, hr, rfl⟩ := List.mem_map.mp hmem
        exact ⟨r, hsub.subset hr, rfl, hwaits r hr⟩
      have hpassed := conductReady_passed runtime _ h hready
      dsimp only
      rcases hconduct : conductReady env runtime
        ((record :: records).map fun r => r.step.stepId) s with ⟨outcome, s₁⟩
      rw [hconduct] at hpassed
      cases outcome with
      | error e =>
        rw [hconduct]
        exact ⟨.error e, s₁, rfl, hpassed.orderly, by simp⟩
      | ok stopped =>
        rw [hconduct]
        cases stopped with
        | true =>
          refine ⟨.ok (), s₁, rfl, hpassed.orderly, ?_⟩
          exact fun _ hne => absurd (hpassed.stopped rfl) hne
        | false =>
          have hless : budget env.policy s₁.workflow.steps <
              budget env.policy s.workflow.steps := hpassed.spent rfl (by simp)
          exact ih hpassed.orderly (by omega)

theorem loop_mono {n m : ℕ} {result : Except KernelError Unit × Run W F} (hle : n ≤ m)
    (h : loop env runtime n s = some result) : loop env runtime m s = some result := by
  induction n generalizing s m with
  | zero => cases h
  | succ n ih =>
    obtain ⟨m, rfl⟩ : ∃ k, m = k + 1 := ⟨m - 1, by omega⟩
    rw [loop] at h ⊢
    split
    · rename_i hready
      rw [hready] at h
      exact h
    · rename_i hready
      rw [hready] at h
      exact h
    · rename_i hready
      rw [hready] at h
      dsimp only at h
      split
      · rename_i hconduct
        rw [hconduct] at h
        exact h
      · rename_i hconduct
        rw [hconduct] at h
        exact h
      · rename_i hconduct
        rw [hconduct] at h
        exact ih (by omega) h

/-- The runs of a plan: it is created, run any number of times, and between the calls the
other operations of the kernel leave its steps alone. -/
inductive Reached (p : KernelPolicy F) (plan : WorkflowPlan F) : Run W F → Prop
  | created (env : Environment W F) (k : Kernel W F) : Reached p plan (createWorkflow env plan k)
  | ran {s s' : Run W F} {outcome} (env : Environment W F) (fuel : ℕ) :
      Reached p plan s → env.policy = p → runWorkflow env fuel s = some (outcome, s') →
        Reached p plan s'
  | elsewhere {s s' : Run W F} : Reached p plan s → s'.workflow.steps = s.workflow.steps →
      s'.starts = s.starts → Reached p plan s'

theorem runWorkflow_ends (h : Orderly env.policy plan s.workflow.steps s.starts) :
    ∃ outcome s', (∃ bound, ∀ fuel, bound ≤ fuel → runWorkflow env fuel s = some (outcome, s')) ∧
      Ended env.policy plan outcome s' := by
  unfold runWorkflow
  split
  · exact ⟨.error .noRuntime, s, ⟨0, fun _ _ => rfl⟩, h, by simp⟩
  · obtain ⟨outcome, s', hloop, hended⟩ := loop_ends env ‹Runtime W F›
      (s := { s with
        kernel := s.kernel.emit env
          { workflowId := some s.workflow.plan.workflowId
            action := .delegate
            subject := s.workflow.plan.workflowId
            reason := "workflow started" }
        workflow := { s.workflow with state := .running } })
      (budget env.policy s.workflow.steps + 1) h (Nat.lt_succ_self _)
    exact ⟨outcome, s', ⟨_, fun fuel hfuel => loop_mono hfuel hloop⟩, hended⟩

theorem runWorkflow_mono {n m : ℕ} {result : Except KernelError Unit × Run W F} (hle : n ≤ m)
    (h : runWorkflow env n s = some result) : runWorkflow env m s = some result := by
  unfold runWorkflow at h ⊢
  split
  · rename_i hruntime
    rw [hruntime] at h
    exact h
  · rename_i hruntime
    rw [hruntime] at h
    exact loop_mono hle h

theorem Reached.orderly {s : Run W F} (hknown : plan.Known) (h : Reached p plan s) :
    Orderly p plan s.workflow.steps s.starts := by
  induction h with
  | created env k => exact orderly_created hknown
  | @ran s s' outcome env fuel _ hpolicy hrun ih =>
    subst hpolicy
    obtain ⟨outcome', t, ⟨bound, hbound⟩, hended⟩ := runWorkflow_ends ih
    have hsame := runWorkflow_mono (le_max_left fuel bound) hrun
    rw [hbound _ (le_max_right fuel bound)] at hsame
    cases hsame
    exact hended.orderly
  | elsewhere _ hsteps hstarts ih =>
    rw [hsteps, hstarts]
    exact ih

/-- From every state that the runs of a plan reach, the next call ends. Its steps were started
lawfully, within their limit, and never after an ok result; and when it returns without an
escalation nothing is ready. -/
theorem workflow_conducted {s : Run W F} (hknown : plan.Known)
    (hs : Reached env.policy plan s) :
    ∃ outcome s', (∃ bound, ∀ fuel, bound ≤ fuel → runWorkflow env fuel s = some (outcome, s')) ∧
      (∀ start ∈ s'.starts, start.Lawful ∧ start.record.step ∈ plan.steps ∧
        (startCount s'.starts start.stepId : ℤ) ≤ allowance env.policy start.record.step) ∧
      (s'.starts.Pairwise fun a b => a.result.ok = true → b.stepId ≠ a.stepId) ∧
      (outcome = .ok () → s'.workflow.state ≠ .escalated → s'.readyNow = .ok []) := by
  obtain ⟨outcome, s', hbound, horderly, hidle⟩ := runWorkflow_ends (hs.orderly hknown)
  refine ⟨outcome, s', hbound, ?_, horderly.once, hidle⟩
  intro start hstart
  obtain ⟨r, hr, hstep⟩ := horderly.recorded start hstart
  refine ⟨horderly.lawful start hstart, ?_, ?_⟩
  · rw [← hstep]
    exact horderly.planned r hr
  · have hid : start.stepId = r.step.stepId := by rw [Start.stepId, hstep]
    rw [hid, horderly.counted r hr, ← hstep]
    exact horderly.within r hr

/-! ## A run

A step fails at first and is tried again, another fails for good, and two steps that wait for
each other are never ready. -/

def cyclicPlan : WorkflowPlan ℚ where
  workflowId := "report"
  goal := "a reviewed report"
  steps :=
    [{ stepId := "draft", capability := "write", instruction := "draft", maxRetries := 3 },
     { stepId := "review", capability := "write", instruction := "review",
       dependsOn := ["draft"] },
     { stepId := "chicken", capability := "write", instruction := "wait",
       dependsOn := ["egg"] },
     { stepId := "egg", capability := "write", instruction := "wait",
       dependsOn := ["chicken"] }]

/-- Every second task fails; the world counts the tasks. -/
def flakyEnvironment : Environment ℕ ℚ where
  policy := {}
  runtime := some fun agent task k =>
    ({ taskId := task.taskId
       agentId := agent.agentId
       ok := k.world % 2 = 1
       latencyMs := 100.0 }, { k with world := k.world + 1 })
  evaluate _ world :=
    ({ retention := 0.5
       compatibility := 0.6
       transitionChannel := 0.2
       aftermathBalance := 0.0
       fateVector := none
       existenceRank := none }, world)
  audit _ world := world
  perfCounter world := (0.0, world)

def writerKernel : Kernel ℕ ℚ where
  registry := [{ spec := { agentId := "writer", role := "author", capabilities := ["write"] } }]
  world := 0

theorem workflow_conducted_cyclic :
    ∃ outcome s', (∃ bound, ∀ fuel, bound ≤ fuel →
        runWorkflow flakyEnvironment fuel
          (createWorkflow flakyEnvironment cyclicPlan writerKernel) = some (outcome, s')) ∧
      (∀ start ∈ s'.starts, start.Lawful ∧ start.record.step ∈ cyclicPlan.steps ∧
        (startCount s'.starts start.stepId : ℤ) ≤
          allowance flakyEnvironment.policy start.record.step) ∧
      (s'.starts.Pairwise fun a b => a.result.ok = true → b.stepId ≠ a.stepId) ∧
      (outcome = .ok () → s'.workflow.state ≠ .escalated → s'.readyNow = .ok []) :=
  workflow_conducted (by unfold WorkflowPlan.Known; decide) (.created flakyEnvironment writerKernel)

example : ((runWorkflow flakyEnvironment 4
    (createWorkflow flakyEnvironment cyclicPlan writerKernel)).map fun r =>
      r.2.starts.map Start.stepId) = some ["draft", "draft", "review"] := by
  decide +kernel

end Run

end MaestroKernel.Workflow
