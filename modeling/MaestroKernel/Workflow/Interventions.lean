import MaestroKernel.Workflow.Duplication

/-! # Interventions against a running call

A call that awaits the runtime learns of an intervention only through the state of the
workflow, and overwrites it: when the runtime is back it records the result, observes the
workflow, and the governor's decision sets the state anew. The intervention holds where
that decision is not reached, or cannot let the workflow run on. -/

namespace MaestroKernel.Workflow.Coroutines

open Proc

variable {X W F : Type} [Number F]

/-! ## What an observation makes of the state -/

section Specs

variable (env : Environment X W F)

omit [Number F] in
theorem Point.InObserve.undecided {point : Point F} (h : point.InObserve) : ¬ point.Decided := by
  cases point <;> first
    | exact absurd h id
    | exact id

omit [Number F] in
theorem Point.InHandoffs.undecided {point : Point F} (h : point.InHandoffs) : ¬ point.Decided := by
  cases point <;> first
    | exact absurd h id
    | exact id

theorem setStep_state (record : StepRecord) {P : Fault X F → Prop} :
    Keeps StateKept P (setStep record : Stretch X W F Unit) := fun _ => rfl

theorem finishStep_state (a : Awaiting F) (result : TaskResult F) (latencyMs : F) :
    Keeps StateKept (fun fault => ¬ fault.point.Decided) (finishStep env a result latencyMs) := by
  unfold finishStep
  refine .bind .trans (.read .refl) fun s => ?_
  refine .bind .trans (setStep_state _) fun _ => ?_
  refine .bind .trans ((demand_kept (fun _ => by exact id) _).weaken WorkflowKept.state
    fun _ h => h) fun agent => ?_
  refine .bind .trans (.read .refl) fun s => ?_
  refine .bind .trans ((observe_kept env _ _).weaken WorkflowKept.state
    fun _ h => h.undecided) fun _ => ?_
  refine .bind .trans (.read .refl) fun s => ?_
  dsimp only
  split
  · refine .bind .trans (setStep_state _) fun _ => ?_
    exact (emit_kept env (fun _ => by exact id) _).weaken WorkflowKept.state fun _ h => h
  · split
    · exact (emit_kept env (fun _ => by exact id) _).weaken WorkflowKept.state fun _ h => h
    · exact .pure .refl _

def resultWorkflow (a : Awaiting F) (result : TaskResult F) (s : Site W F) : WorkflowRecord F :=
  s.workflow.setStep (withResult env result (current a.record s))

theorem record_state (a : Awaiting F) (result : TaskResult F) (elapsedMs : F) {s : Site W F}
    {old : StepRecord} (hold : s.workflow.step? a.stepId = some old) :
    Ensures (record env a result elapsedMs) s
      (fun _ s' => Recomputed env.policy (resultWorkflow env a result s) s'.workflow.state)
      fun fault s' => ¬ fault.point.Decided ∧ StateKept s s' ∨
        fault.point.Decided ∧
          Recomputed env.policy (resultWorkflow env a result s) s'.workflow.state := by
  unfold record
  rw [ensures_bind]
  refine ((finishStep_spec env a result _ hold).and (finishStep_state env a result _ s)).mono
    (fun _ s₁ hs₁ => ?_) fun fault s₁ hs₁ => .inl ⟨hs₁.2.2, hs₁.2.1⟩
  obtain ⟨⟨after, hwrote, hsettled⟩, hstate⟩ := hs₁
  rw [ensures_bind]
  refine (observeStepHandoffs_kept env _ _).mono (fun _ s₂ hs₂ => ?_) fun fault s₂ hs₂ =>
    .inl ⟨hs₂.2.undecided, hstate.trans hs₂.1.state⟩
  have hwrote₂ := hwrote.kept hs₂.steps
  rw [hsettled] at hwrote₂
  refine (observeFromSteps_state env s₂).mono (fun _ s₃ hs₃ => ?_) fun fault s₃ hs₃ => ?_
  · exact hs₃.congr hwrote₂.1 hwrote₂.2
  · rcases hs₃ with ⟨hpoint, hkept⟩ | ⟨hpoint, hrecomputed⟩
    · exact .inl ⟨hpoint, (hstate.trans hs₂.state).trans hkept⟩
    · exact .inr ⟨hpoint, hrecomputed.congr hwrote₂.1 hwrote₂.2⟩

end Specs

/-! ## When a call yields -/

/-- The telemetry of the steps reaches the risk at which the governor escalates. -/
def AtRisk (p : KernelPolicy F) (workflow : WorkflowRecord F) : Prop :=
  p.quarantinePolicyRisk ≤ (fromWorkflowTelemetry (stepsTelemetry workflow)).M ∨
    p.quarantinePolicyRisk ≤ (fromWorkflowTelemetry (stepsTelemetry workflow)).C

/-- Nothing is left to run: no step is pending or running, or every failed one has exhausted
its attempts and no step is ready. -/
def Exhausted (p : KernelPolicy F) (workflow : WorkflowRecord F) : Prop :=
  (∀ r ∈ workflow.steps, r.state ≠ .pending ∧ r.state ≠ .running) ∨
    (∃ r ∈ workflow.steps, r.state = .failed) ∧
      (∀ r ∈ workflow.steps, r.state = .failed → attemptLimit p r.step ≤ r.attempts) ∧
      ∀ r rest, workflow.readySteps workflow.steps ≠ .ok (r :: rest)

theorem AtRisk.escalated {p : KernelPolicy F} {workflow : WorkflowRecord F} {state : WorkflowState}
    (h : AtRisk p workflow) (hstate : Recomputed p workflow state) : state = .escalated := by
  obtain ⟨record, dpsi, report, -, rfl⟩ := hstate
  unfold AtRisk at h
  unfold judgeWorkflow
  dsimp only
  rw [if_pos h]

theorem judgeWorkflow_running {p : KernelPolicy F} {record : WorkflowRecord F}
    {coeff : Coefficients F} {dpsi : F} {report : Report F}
    (h : (judgeWorkflow p record coeff dpsi report).1 = .running) :
    ¬ (record.inState .failed ≠ [] ∧
        ((record.inState .failed).all fun s => attemptLimit p s.step ≤ s.attempts) = true) ∧
      (record.inState .pending ≠ [] ∨ record.inState .running ≠ []) := by
  unfold judgeWorkflow at h
  dsimp only at h
  repeat' split at h
  all_goals first
    | exact ⟨‹_›, ‹_›⟩
    | exact absurd h (by simp)

theorem exists_of_inState {record : WorkflowRecord F} {state : StepState}
    (h : record.inState state ≠ []) : ∃ r ∈ record.steps, r.state = state := by
  obtain ⟨r, hr⟩ := List.exists_mem_of_ne_nil _ h
  obtain ⟨hmem, hstate⟩ := List.mem_filter.mp hr
  exact ⟨r, hmem, of_decide_eq_true hstate⟩

theorem Exhausted.not_running {p : KernelPolicy F} {workflow : WorkflowRecord F}
    {state : WorkflowState} (h : Exhausted p workflow) (hstate : Recomputed p workflow state) :
    state ≠ .running := by
  obtain ⟨record, dpsi, report, hrecord, rfl⟩ := hstate
  intro hrunning
  obtain ⟨hexhausted, hleft⟩ := judgeWorkflow_running hrunning
  rcases h with h | ⟨⟨r, hr, hfailed⟩, hattempts, -⟩
  · rw [← hrecord] at h
    rcases hleft with hleft | hleft
    · obtain ⟨r, hr, hstate⟩ := exists_of_inState hleft
      exact (h r hr).1 hstate
    · obtain ⟨r, hr, hstate⟩ := exists_of_inState hleft
      exact (h r hr).2 hstate
  · rw [← hrecord] at hr hattempts
    refine hexhausted ⟨?_, ?_⟩
    · exact List.ne_nil_of_mem (List.mem_filter.mpr ⟨hr, decide_eq_true hfailed⟩)
    · refine List.all_eq_true.mpr fun s hs => ?_
      obtain ⟨hmem, hstate⟩ := List.mem_filter.mp hs
      exact decide_eq_true (hattempts s hmem (of_decide_eq_true hstate))

theorem Exhausted.nothing_ready {p : KernelPolicy F} {workflow : WorkflowRecord F}
    (h : Exhausted p workflow) (r : StepRecord) (rest : List StepRecord) :
    workflow.readySteps workflow.steps ≠ .ok (r :: rest) := by
  rcases h with h | ⟨-, -, h⟩
  · intro hready
    obtain ⟨hsub, hpending⟩ := mem_readySteps hready
    exact (h r (hsub.subset List.mem_cons_self)).1 (hpending r List.mem_cons_self)
  · exact h r rest

theorem Exhausted.of_wrote {env : Environment X W F} {a : Awaiting F} {result : TaskResult F}
    {s s₁ : Site W F} {after : StepRecord}
    (h : Exhausted env.policy (resultWorkflow env a result s)) (hwrote : Wrote after s s₁)
    (hsettled : Settled env a result s after) : Exhausted env.policy s₁.workflow := by
  have hsteps : s₁.workflow.steps = (resultWorkflow env a result s).steps := by
    rw [hwrote.2, hsettled]
    rfl
  unfold Exhausted at h ⊢
  rw [hsteps, WorkflowRecord.readySteps_congr hsteps]
  exact h

/-- A call that comes back to a workflow that was stopped raises before the governor decides on
the workflow, or finds it at risk, or has nothing left to run. -/
def Yields (env : Environment X W F) : Act X W F → System W F → Prop
  | .resume t (.ok (result, elapsedMs)), σ =>
    σ.halted = true → ∀ a, σ.calls t = some a →
      (∃ fault s, record env a result elapsedMs σ.site = (.error fault, s) ∧
        ¬ fault.point.Decided) ∨
      AtRisk env.policy (resultWorkflow env a result σ.site) ∨
      a.rest = [] ∧ Exhausted env.policy (resultWorkflow env a result σ.site)
  | _, _ => True

/-- Nothing is started by the event. -/
structure NoStart (σ σ' : System W F) : Prop where
  calls : ∀ t a, σ'.calls t = some a → σ.calls t = some a
  steps : ∀ id r, σ'.site.workflow.step? id = some r → r.state = .running →
    ∃ old, σ.site.workflow.step? id = some old ∧ old.state = .running

section Runs

variable {env : Environment X W F} {σ σ' : System W F}

theorem NoStart.of_drop {t : ℕ} (hcalls : σ'.calls = Function.update σ.calls t none)
    (hsteps : ∀ id r, σ'.site.workflow.step? id = some r → r.state = .running →
      ∃ old, σ.site.workflow.step? id = some old ∧ old.state = .running) : NoStart σ σ' where
  calls t' a ha := by
    rw [hcalls] at ha
    rcases update_calls ha with ⟨-, hnone⟩ | ⟨-, hother⟩
    · exact absurd hnone.symm (Option.some_ne_none a)
    · exact hother
  steps := hsteps

theorem Wrote.no_start {s s' : Site W F} {after : StepRecord} (hwrote : Wrote after s s')
    (hafter : after.state ≠ .running) (id : String) (r : StepRecord)
    (hr : s'.workflow.step? id = some r) (hrunning : r.state = .running) :
    ∃ old, s.workflow.step? id = some old ∧ old.state = .running := by
  by_cases hid : id = after.step.stepId
  · subst hid
    obtain ⟨old, hold⟩ := hwrote.found hr
    rw [hwrote.step?_self hold] at hr
    obtain rfl := Option.some.inj hr
    exact absurd hrunning hafter
  · rw [hwrote.step?_of_ne hid] at hr
    exact ⟨r, hr, hrunning⟩

theorem Settled.not_running {a : Awaiting F} {result : TaskResult F} {s : Site W F}
    {record : StepRecord} (h : Settled env a result s record) : record.state ≠ .running := by
  rcases h.state with hstate | hstate | ⟨hstate, -⟩
  · rw [hstate]
    simp
  · rw [hstate]
    simp
  · rw [hstate]
    simp

theorem Recorded.not_running {a : Awaiting F} {result : TaskResult F} {s : Site W F}
    {record : StepRecord} (h : Recorded a result s record) : record.state ≠ .running := by
  rw [h.state]
  split
  · simp
  · simp

/-- A call that yields and still goes on has nothing left to run. -/
theorem yields_done {a : Awaiting F} {result : TaskResult F} {elapsedMs : F}
    {s s₁ : Site W F}
    (hyields : (∃ fault s₂, record env a result elapsedMs s = (.error fault, s₂) ∧
        ¬ fault.point.Decided) ∨ AtRisk env.policy (resultWorkflow env a result s) ∨
      a.rest = [] ∧ Exhausted env.policy (resultWorkflow env a result s))
    (hrun : record env a result elapsedMs s = (.ok (), s₁))
    (hgo : ¬ (s₁.workflow.state = .escalated ∨ s₁.workflow.state = .failed))
    (hrecomputed : Recomputed env.policy (resultWorkflow env a result s) s₁.workflow.state) :
    a.rest = [] ∧ Exhausted env.policy (resultWorkflow env a result s) := by
  rcases hyields with ⟨fault, s₂, hrun', -⟩ | hrisk | hdone
  · rw [hrun] at hrun'
    cases hrun'
  · exact absurd (.inl (hrisk.escalated hrecomputed)) hgo
  · exact hdone

theorem intervene_state (env : Environment X W F) {action : MaestroAction} (h : Halts action)
    (subject reason : String) (payload : EventPayload F) (s : Site W F) :
    (intervene env action subject reason payload s).2.workflow.state ≠ .running := by
  have hspec : Ensures (intervene env action subject reason payload) s
      (fun _ s' => s'.workflow.state ≠ .running) fun _ s' => s'.workflow.state ≠ .running := by
    unfold intervene
    simp only [ensures_bind, ensures_modify, ensures_read]
    refine (emit_kept env (P := fun _ => True) (fun _ => trivial) _ _).mono
      (fun _ s' hs' => ?_) fun _ s' hs' => ?_
    · rw [hs'.state]
      rcases h with rfl | rfl | rfl
      · simp
      · simp
      · simp
    · rw [hs'.1.state]
      rcases h with rfl | rfl | rfl
      · simp
      · simp
      · simp
  rcases hrun : intervene env action subject reason payload s with ⟨outcome, s'⟩
  cases outcome with
  | ok u => exact hspec.of_ok hrun
  | error e => exact hspec.of_error hrun

theorem yields_turn (hfiling : Filing σ.site σ.calls) (hhalted : σ.halted = true)
    (hstate : σ.site.workflow.state ≠ .running) {t : ℕ} {reply : Reply X F}
    (hyields : Yields env (.resume t reply) σ) (hnext : σ.next env (.resume t reply) = some σ') :
    NoStart σ σ' ∧ σ'.site.workflow.state ≠ .running := by
  cases System.turn hfiling hnext with
  | failed hcalls =>
    exact ⟨.of_drop rfl fun id r hr hrunning => ⟨r, hr, hrunning⟩, hstate⟩
  | @resumed _ a result elapsedMs outcome s' hcalls _ hresumed =>
    obtain ⟨old, hold⟩ := hfiling.filed t a hcalls a.record List.mem_cons_self
    have hspec := record_state env a result elapsedMs hold
    have hyields := hyields hhalted a hcalls
    cases hresumed with
    | @unrecorded _ _ after hwrote hrun hpoint =>
      have hafter : after.state ≠ .running := by
        rcases hpoint with ⟨-, hrecorded⟩ | ⟨-, hsettled⟩
        · exact hrecorded.not_running
        · exact hsettled.not_running
      refine ⟨.of_drop rfl (hwrote.no_start hafter), ?_⟩
      rcases hspec.of_error hrun with ⟨-, hkept⟩ | ⟨hdecided, hrecomputed⟩
      · rw [hkept]
        exact hstate
      · rcases hyields with ⟨fault, s₁, hrun', hundecided⟩ | hrisk | ⟨-, hdone⟩
        · rw [hrun] at hrun'
          cases hrun'
          exact absurd hdecided hundecided
        · rw [hrisk.escalated hrecomputed]
          simp
        · exact hdone.not_running hrecomputed
    | stopped hwrote hsettled _ hstop =>
      refine ⟨.of_drop rfl (hwrote.no_start hsettled.not_running), ?_⟩
      rcases hstop with hstop | hstop
      · rw [hstop]
        simp
      · rw [hstop]
        simp
    | @conducted s₁ _ _ _ hwrote hsettled hrun hgo hconducted =>
      obtain ⟨hrest, hdone⟩ := yields_done hyields hrun hgo (hspec.of_ok hrun)
      have hdone₁ := hdone.of_wrote hwrote hsettled
      rw [hrest] at hconducted
      cases hconducted with
      | ended _ hkept hrecomputed =>
        refine ⟨.of_drop rfl ?_, hdone₁.not_running hrecomputed⟩
        exact (hwrote.kept hkept).no_start hsettled.not_running
      | begun hready _ _ =>
        cases hready with
        | ready hready => exact absurd hready (hdone₁.nothing_ready _ _)
    | @interrupted s₁ _ _ _ hwrote hsettled hrun hgo hinterrupted =>
      have hrecomputed := hspec.of_ok hrun
      obtain ⟨hrest, hdone⟩ := yields_done hyields hrun hgo hrecomputed
      have hdone₁ := hdone.of_wrote hwrote hsettled
      rw [hrest] at hinterrupted
      cases hinterrupted with
      | kept _ _ hkept hs' =>
        refine ⟨.of_drop rfl ((hwrote.kept hkept).no_start hsettled.not_running), ?_⟩
        rcases hs' with hs' | hs'
        · rw [hs']
          exact hdone.not_running hrecomputed
        · exact hdone₁.not_running hs'
      | begun _ hready _ _ =>
        cases hready with
        | ready hready => exact absurd hready (hdone₁.nothing_ready _ _)

theorem halted_next (hfiling : Filing σ.site σ.calls)
    (h : σ.halted = true → σ.site.workflow.state ≠ .running) {ev : Act X W F}
    (hyields : Yields env ev σ) (hnext : σ.next env ev = some σ') :
    σ'.halted = true → σ'.site.workflow.state ≠ .running := by
  intro hhalted
  cases ev with
  | call t =>
    cases System.turn hfiling hnext with
    | called _ _ => exact absurd hhalted (by simp)
    | uncalled _ _ => exact absurd hhalted (by simp)
  | resume t reply =>
    have hbefore : σ.halted = true := by
      cases System.turn hfiling hnext with
      | failed _ => exact hhalted
      | resumed _ _ _ => exact hhalted
    exact (yields_turn hfiling hbefore (h hbefore) hyields hnext).2
  | intervene action subject reason payload =>
    obtain rfl := Option.some.inj hnext
    exact intervene_state env (of_decide_eq_true hhalted) subject reason payload σ.site
  | elsewhere kernel =>
    obtain rfl := Option.some.inj hnext
    exact h hhalted

/-- Over every interleaving in which the calls yield, a workflow that an intervention stopped
does not run again, and no call starts a step of it, until another intervention or call. -/
theorem interventions_hold (env : Environment X W F) {σ : System W F}
    (h : System.Reaches env (Yields env) σ) :
    (σ.halted = true → σ.site.workflow.state ≠ .running) ∧
      ∀ t reply σ', σ.halted = true → Yields env (.resume t reply) σ →
        σ.next env (.resume t reply) = some σ' → NoStart σ σ' := by
  have hstate : σ.halted = true → σ.site.workflow.state ≠ .running := by
    induction h with
    | created plan kernel => exact fun hhalted => absurd hhalted (by simp [System.created])
    | next ev hσ hyields hnext ih => exact halted_next hσ.filing ih hyields hnext
  refine ⟨hstate, ?_⟩
  intro t reply σ' hhalted hyields hnext
  exact (yields_turn h.filing hhalted (hstate hhalted) hyields hnext).1

end Runs

namespace Pair

def pause : Act Unit Unit ℚ := .intervene .pause "pair" "wait" .empty

theorem pause_runs : (System.run environment [.call 0, pause, succeeds 0 "first"] system).any
    (fun σ => σ.halted && σ.site.workflow.state = .running && σ.awaits 0 = some "second") = true := by
  decide +kernel

/-- The pause is lost: the call starts the second step of the workflow that was paused. -/
theorem pause_is_lost : ¬ ∀ σ : System Unit ℚ, System.Reaches environment (fun _ _ => True) σ →
    σ.halted = true → σ.site.workflow.state ≠ .running := by
  intro h
  obtain ⟨σ, hrun, hcheck⟩ := Option.any_eq_true _ _ |>.mp pause_runs
  rw [Bool.and_eq_true, Bool.and_eq_true, decide_eq_true_eq] at hcheck
  exact h σ (reached hrun) hcheck.1.1 hcheck.1.2

/-- A call whose runtime raises leaves the pause alone. -/
theorem pause_holds : ∃ σ,
    System.run environment [.call 0, pause, .resume 0 (.error ())] system = some σ ∧
      (σ.halted = true → σ.site.workflow.state ≠ .running) := by
  have hsome : (System.run environment [.call 0, pause, .resume 0 (.error ())] system).isSome =
      true := by
    decide +kernel
  obtain ⟨σ, hrun⟩ := Option.isSome_iff_exists.mp hsome
  have hyields : ∀ ev ∈ [.call 0, pause, .resume 0 (.error ())], ∀ σ : System Unit ℚ,
      Yields environment ev σ := by
    intro ev hev σ
    simp only [List.mem_cons, List.not_mem_nil, or_false] at hev
    rcases hev with rfl | rfl | rfl
    · trivial
    · trivial
    · trivial
  exact ⟨σ, hrun, (interventions_hold environment
    ((System.Reaches.created plan kernel).run hyields hrun)).1⟩

end Pair

end MaestroKernel.Workflow.Coroutines
