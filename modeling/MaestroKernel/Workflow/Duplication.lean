import MaestroKernel.Workflow.Interleaving

/-! # Concurrent runs of one workflow

A call takes a list of ready steps and awaits the runtime for each of them in turn. Another
call may have started a step of the list, or completed it, before its turn comes, and the
call does not look again. Where it would find the step neither running nor completed,
no work is done twice. -/

namespace MaestroKernel.Workflow.Coroutines

open Proc

variable {X W F : Type} [Number F]

/-- No step runs twice at a time, and none runs again after it ended with an ok result. -/
structure NoDuplicates (σ : System W F) : Prop where
  running_once : ∀ t t' a a', σ.calls t = some a → σ.calls t' = some a' → a.stepId = a'.stepId →
    t = t'
  done_once : ∀ t a, σ.calls t = some a → a.stepId ∉ σ.succeeded

def Rechecked (env : Environment X W F) : Act X W F → System W F → Prop
  | .resume t (.ok (result, elapsedMs)), σ =>
    ∀ a record rest s, σ.calls t = some a → a.rest = record :: rest →
      Coroutines.record env a result elapsedMs σ.site = (.ok (), s) →
        ¬ (s.workflow.state = .escalated ∨ s.workflow.state = .failed) →
          Assigned env record s → ∀ old, σ.site.workflow.step? record.step.stepId = some old →
            old.state ≠ .running ∧ old.state ≠ .completed
  | _, _ => True

/-- A step that a call awaits is marked as running, one that succeeded as completed. -/
structure Once (s : Site W F) (calls : ℕ → Option (Awaiting F)) (succeeded : List String) :
    Prop where
  unique : (s.workflow.steps.map fun r => r.step.stepId).Nodup
  distinct : ∀ t a, calls t = some a →
    ((a.record :: a.rest).map fun r => r.step.stepId).Nodup
  filed : ∀ t a, calls t = some a → Filed s (a.record :: a.rest)
  running : ∀ t a, calls t = some a →
    ∃ r, s.workflow.step? a.stepId = some r ∧ r.state = .running
  once : ∀ t t' a a', calls t = some a → calls t' = some a' → a.stepId = a'.stepId → t = t'
  completed : ∀ id ∈ succeeded, ∃ r, s.workflow.step? id = some r ∧ r.state = .completed

namespace Once

variable {env : Environment X W F} {s s' : Site W F} {calls : ℕ → Option (Awaiting F)}
  {succeeded : List String} {t : ℕ} {a : Awaiting F} {old started after : StepRecord}

theorem of_kept (h : Once s calls succeeded) (hkept : StepsKept s s') :
    Once s' calls succeeded where
  unique := by
    rw [hkept.2]
    exact h.unique
  distinct := h.distinct
  filed t a ha record hrecord := by
    rw [hkept.step?]
    exact h.filed t a ha record hrecord
  running t a ha := by
    rw [hkept.step?]
    exact h.running t a ha
  once := h.once
  completed id hid := by
    rw [hkept.step?]
    exact h.completed id hid

theorem drop (h : Once s calls succeeded) (t : ℕ) :
    Once s (Function.update calls t none) succeeded := by
  have hsub : ∀ t' a, Function.update calls t none t' = some a → calls t' = some a := by
    intro t' a ha
    rcases update_calls ha with ⟨-, hnone⟩ | ⟨-, hcalls⟩
    · exact absurd hnone.symm (Option.some_ne_none a)
    · exact hcalls
  exact ⟨h.unique, fun t' a ha => h.distinct t' a (hsub t' a ha),
    fun t' a ha => h.filed t' a (hsub t' a ha), fun t' a ha => h.running t' a (hsub t' a ha),
    fun t' t'' a a' ha ha' => h.once t' t'' a a' (hsub t' a ha) (hsub t'' a' ha'), h.completed⟩

theorem wrote (h : Once s calls succeeded) (hwrote : Wrote after s s')
    (hidle : ∀ t a, calls t = some a → a.stepId ≠ after.step.stepId)
    (hnew : after.step.stepId ∉ succeeded) : Once s' calls succeeded where
  unique := by
    rw [hwrote.ids]
    exact h.unique
  distinct := h.distinct
  filed t a ha record hrecord := hwrote.filed (h.filed t a ha record hrecord)
  running t a ha := by
    rw [hwrote.step?_of_ne (hidle t a ha)]
    exact h.running t a ha
  once := h.once
  completed id hid := by
    rw [hwrote.step?_of_ne fun he => hnew (he ▸ hid)]
    exact h.completed id hid

theorem settle (h : Once s calls succeeded) (ha : calls t = some a) (hwrote : Wrote after s s')
    (hid : after.step.stepId = a.stepId) :
    Once s' (Function.update calls t none) succeeded := by
  refine (h.drop t).wrote hwrote ?_ ?_
  · intro t' a' ha' he
    rcases update_calls ha' with ⟨-, hnone⟩ | ⟨hne, hcalls⟩
    · exact absurd hnone.symm (Option.some_ne_none a')
    · exact hne (h.once t' t a' a hcalls ha (he.trans hid))
  · intro hmem
    obtain ⟨r, hr, hstate⟩ := h.completed _ hmem
    obtain ⟨r', hr', hrunning⟩ := h.running t a ha
    rw [hid] at hr
    obtain rfl : r = r' := Option.some.inj (hr.symm.trans hr')
    rw [hstate] at hrunning
    exact absurd hrunning (by simp)

theorem succeed (h : Once s calls succeeded) {id : String} {r : StepRecord}
    (hr : s.workflow.step? id = some r) (hstate : r.state = .completed) :
    Once s calls (id :: succeeded) where
  unique := h.unique
  distinct := h.distinct
  filed := h.filed
  running := h.running
  once := h.once
  completed id' hid' := by
    rcases List.mem_cons.mp hid' with rfl | hid'
    · exact ⟨r, hr, hstate⟩
    · exact h.completed id' hid'

theorem untouched (h : Once s calls succeeded) {id : String} {r : StepRecord}
    (hr : s.workflow.step? id = some r) (hidle : r.state ≠ .running ∧ r.state ≠ .completed) :
    (∀ t a, calls t = some a → a.stepId ≠ id) ∧ id ∉ succeeded := by
  constructor
  · intro t a ha he
    obtain ⟨r', hr', hrunning⟩ := h.running t a ha
    rw [he] at hr'
    obtain rfl : r = r' := Option.some.inj (hr.symm.trans hr')
    exact hidle.1 hrunning
  · intro hmem
    obtain ⟨r', hr', hcompleted⟩ := h.completed _ hmem
    obtain rfl : r = r' := Option.some.inj (hr.symm.trans hr')
    exact hidle.2 hcompleted

theorem begin (h : Once s calls succeeded)
    (hold : s.workflow.step? a.stepId = some a.record)
    (hidle : a.record.state ≠ .running ∧ a.record.state ≠ .completed)
    (hdistinct : ((a.record :: a.rest).map fun r => r.step.stepId).Nodup)
    (hfiled : Filed s (a.record :: a.rest)) (hwrote : Wrote started s s')
    (hstarted : Started a.record started) :
    Once s' (Function.update calls t (some a)) succeeded := by
  obtain ⟨hcalls, hnew⟩ := h.untouched hold hidle
  have hid : started.step.stepId = a.stepId := by
    rw [hstarted.step]
    rfl
  have hs' : Once s' calls succeeded := by
    refine h.wrote hwrote ?_ ?_
    · rw [hid]
      exact hcalls
    · rw [hid]
      exact hnew
  have hself : s'.workflow.step? a.stepId = some started := by
    rw [← hid] at hold ⊢
    exact hwrote.step?_self hold
  refine ⟨hs'.unique, ?_, ?_, ?_, ?_, hs'.completed⟩
  · intro t' a' ha'
    rcases update_calls ha' with ⟨-, hsome⟩ | ⟨-, hother⟩
    · obtain rfl := Option.some.inj hsome
      exact hdistinct
    · exact hs'.distinct t' a' hother
  · intro t' a' ha'
    rcases update_calls ha' with ⟨-, hsome⟩ | ⟨-, hother⟩
    · obtain rfl := Option.some.inj hsome
      exact fun record hrecord => hwrote.filed (hfiled record hrecord)
    · exact hs'.filed t' a' hother
  · intro t' a' ha'
    rcases update_calls ha' with ⟨-, hsome⟩ | ⟨-, hother⟩
    · obtain rfl := Option.some.inj hsome
      exact ⟨started, hself, hstarted.state⟩
    · exact hs'.running t' a' hother
  · intro t₁ t₂ a₁ a₂ h₁ h₂ he
    rcases update_calls h₁ with ⟨rfl, hsome₁⟩ | ⟨-, hother₁⟩
    · obtain rfl := Option.some.inj hsome₁
      rcases update_calls h₂ with ⟨rfl, -⟩ | ⟨-, hother₂⟩
      · rfl
      · exact absurd he.symm (hcalls t₂ a₂ hother₂)
    · rcases update_calls h₂ with ⟨rfl, hsome₂⟩ | ⟨-, hother₂⟩
      · obtain rfl := Option.some.inj hsome₂
        exact absurd he (hcalls t₁ a₁ hother₁)
      · exact hs'.once t₁ t₂ a₁ a₂ hother₁ hother₂ he

end Once

/-! ## Runs -/

section Runs

variable {env : Environment X W F} {s s' : Site W F} {calls : ℕ → Option (Awaiting F)}
  {succeeded : List String} {t : ℕ}

/-- The step that a turn of the loop takes: neither running nor completed, and filed with
what is left of the list. -/
structure Takes (s : Site W F) (old : StepRecord) (rest : List StepRecord) : Prop where
  found : s.workflow.step? old.step.stepId = some old
  idle : old.state ≠ .running ∧ old.state ≠ .completed
  distinct : ((old :: rest).map fun r => r.step.stepId).Nodup
  filed : Filed s (old :: rest)

theorem Once.conducted (h : Once s calls succeeded) {list : List StepRecord}
    (htakes : ∀ old rest, Next env s list old rest → Takes s old rest) {next : Option (Awaiting F)}
    (hconducted : Conducted env s list next s') :
    Once s' (Function.update calls t next) succeeded := by
  cases hconducted with
  | ended _ hkept _ => exact (h.of_kept hkept).drop t
  | begun hnext hwrote hstarted =>
    have htaken := htakes _ _ hnext
    exact h.begin htaken.found htaken.idle htaken.distinct htaken.filed hwrote hstarted

theorem Once.interrupted (h : Once s calls succeeded) {list : List StepRecord}
    (htakes : ∀ old rest, Next env s list old rest → Takes s old rest) {point : Point F}
    (hinterrupted : Interrupted env s list point s') :
    Once s' (Function.update calls t none) succeeded := by
  cases hinterrupted with
  | kept _ _ hkept _ => exact (h.of_kept hkept).drop t
  | begun _ hnext hwrote hstarted =>
    have htaken := htakes _ _ hnext
    obtain ⟨hcalls, hnew⟩ := h.untouched htaken.found htaken.idle
    rw [← hstarted.step] at hcalls hnew
    exact (h.wrote hwrote hcalls hnew).drop t

theorem takes_ready (hunique : (s.workflow.steps.map fun r => r.step.stepId).Nodup)
    {old : StepRecord} {rest : List StepRecord}
    (hready : s.workflow.readySteps s.workflow.steps = .ok (old :: rest)) : Takes s old rest := by
  obtain ⟨hsub, hpending⟩ := mem_readySteps hready
  have hfound : ∀ r ∈ old :: rest, s.workflow.step? r.step.stepId = some r := fun r hr =>
    WorkflowRecord.step?_of_mem hunique (hsub.subset hr)
  have hstate := hpending old List.mem_cons_self
  refine ⟨hfound old List.mem_cons_self, ?_, hunique.sublist (hsub.map _),
    fun r hr => ⟨r, hfound r hr⟩⟩
  rw [hstate]
  exact ⟨by simp, by simp⟩

theorem takes_new (hunique : (s.workflow.steps.map fun r => r.step.stepId).Nodup)
    {old : StepRecord} {rest : List StepRecord} (h : Next env s [] old rest) :
    Takes s old rest := by
  cases h with
  | ready hready => exact takes_ready hunique hready

theorem Once.call (h : Once s calls succeeded) (env : Environment X W F) (t : ℕ) :
    Ensures (start env) s (fun next s' => Once s' (Function.update calls t next) succeeded)
      fun _ s' => Once s' (Function.update calls t none) succeeded := by
  refine (start_spec env h.unique).mono (fun next s' hs' => ?_) fun fault s' hs' => ?_
  · obtain ⟨s₁, hkept, hconducted⟩ := hs'
    have h₁ := h.of_kept hkept
    exact h₁.conducted (fun _ _ hn => takes_new h₁.unique hn) hconducted
  · obtain ⟨s₁, hkept, hinterrupted⟩ := hs'
    have h₁ := h.of_kept hkept
    exact h₁.interrupted (fun _ _ hn => takes_new h₁.unique hn) hinterrupted

theorem takes_listed {a : Awaiting F} {after : StepRecord} (h : Once s calls succeeded)
    (ha : calls t = some a) (hwrote : Wrote after s s') (hid : after.step.stepId = a.stepId)
    (hguard : ∀ record rest, a.rest = record :: rest → Assigned env record s' →
      ∀ old, s.workflow.step? record.step.stepId = some old →
        old.state ≠ .running ∧ old.state ≠ .completed)
    {old : StepRecord} {rest : List StepRecord} (hnext : Next env s' a.rest old rest) :
    Takes s' old rest := by
  have hdistinct := h.distinct t a ha
  have hfiled := h.filed t a ha
  generalize hlist : a.rest = list at hnext
  cases hnext with
  | @listed record rest old hold hassigned =>
    rw [hlist, List.map_cons, List.map_cons, List.nodup_cons] at hdistinct
    have hne : record.step.stepId ≠ after.step.stepId := by
      rw [hid]
      exact fun he => hdistinct.1 (List.mem_cons.mpr (.inl he.symm))
    have hold' := hold
    rw [hwrote.step?_of_ne hne] at hold'
    have hold_id : old.step.stepId = record.step.stepId :=
      (WorkflowRecord.step?_spec hold).2
    refine ⟨by rw [hold_id]; exact hold, hguard record rest hlist hassigned old hold', ?_, ?_⟩
    · rw [List.map_cons, hold_id]
      exact hdistinct.2
    · intro r hr
      rcases List.mem_cons.mp hr with rfl | hr
      · exact ⟨r, by rw [hold_id]; exact hold⟩
      · refine hwrote.filed (hfiled r (List.mem_cons_of_mem _ ?_))
        rw [hlist]
        exact List.mem_cons_of_mem _ hr
  | ready hready =>
    refine takes_ready ?_ hready
    rw [hwrote.ids]
    exact h.unique

theorem Once.record (h : Once s calls succeeded) {a : Awaiting F} (ha : calls t = some a)
    {after : StepRecord} (hwrote : Wrote after s s')
    (hstep : after.step = (current a.record s).step) {ok : Bool}
    (hcompleted : ok = true → after.state = .completed) :
    after.step.stepId = a.stepId ∧ Once s' (Function.update calls t none)
      (if ok then a.stepId :: succeeded else succeeded) := by
  have hid : after.step.stepId = a.stepId := by
    rw [hstep]
    exact current_stepId a.record s
  refine ⟨hid, ?_⟩
  have hs' := h.settle ha hwrote hid
  cases ok with
  | false => exact hs'
  | true =>
    obtain ⟨old, hold, -⟩ := h.running t a ha
    rw [← hid] at hold
    rw [← hid]
    exact hs'.succeed (hwrote.step?_self hold) (hcompleted rfl)

theorem Once.resume (h : Once s calls succeeded) {a : Awaiting F} (ha : calls t = some a)
    {result : TaskResult F} {elapsedMs : F} {outcome : Except (Fault X F) (Option (Awaiting F))}
    (hguard : ∀ record rest s₁, a.rest = record :: rest →
      Coroutines.record env a result elapsedMs s = (.ok (), s₁) →
        ¬ (s₁.workflow.state = .escalated ∨ s₁.workflow.state = .failed) →
          Assigned env record s₁ → ∀ old, s.workflow.step? record.step.stepId = some old →
            old.state ≠ .running ∧ old.state ≠ .completed)
    (hresumed : Resumed env a result elapsedMs s outcome s') :
    Once s' (goneOn calls t outcome) (if result.ok then a.stepId :: succeeded else succeeded) := by
  cases hresumed with
  | unrecorded hwrote _ hpoint =>
    rcases hpoint with ⟨-, hrecorded⟩ | ⟨-, hsettled⟩
    · refine (h.record ha hwrote hrecorded.step fun hok => ?_).2
      rw [hrecorded.state, if_pos hok]
    · exact (h.record ha hwrote hsettled.step hsettled.completed).2
  | stopped hwrote hsettled _ _ =>
    exact (h.record ha hwrote hsettled.step hsettled.completed).2
  | conducted hwrote hsettled hrun hstate hconducted =>
    obtain ⟨hid, hs₁⟩ := h.record ha hwrote hsettled.step hsettled.completed
    have hs' := hs₁.conducted (t := t) (fun old rest hnext => takes_listed h ha hwrote hid
      (fun record rest hlist hassigned => hguard record rest _ hlist hrun hstate hassigned)
      hnext) hconducted
    rwa [Function.update_idem] at hs'
  | interrupted hwrote hsettled hrun hstate hinterrupted =>
    obtain ⟨hid, hs₁⟩ := h.record ha hwrote hsettled.step hsettled.completed
    have hs' := hs₁.interrupted (t := t) (fun old rest hnext => takes_listed h ha hwrote hid
      (fun record rest hlist hassigned => hguard record rest _ hlist hrun hstate hassigned)
      hnext) hinterrupted
    rwa [Function.update_idem] at hs'

theorem Once.filing (h : Once s calls succeeded) : Filing s calls := ⟨h.unique, h.filed⟩

theorem once_next {σ σ' : System W F} (h : Once σ.site σ.calls σ.succeeded) {ev : Act X W F}
    (hok : Rechecked env ev σ) (hnext : σ.next env ev = some σ') :
    Once σ'.site σ'.calls σ'.succeeded := by
  cases System.turn h.filing hnext with
  | called _ hrun => exact (h.call env _).of_ok hrun
  | uncalled _ hrun => exact (h.call env _).of_error hrun
  | failed _ => exact h.drop _
  | resumed hcalls _ hresumed =>
    exact h.resume hcalls (fun record rest s₁ => hok _ record rest s₁ hcalls) hresumed
  | intervened => exact h.of_kept ((intervene_kept env _ _ _ _).result _)
  | elsewhere => exact h.of_kept ⟨rfl, rfl⟩

theorem once_created (plan : WorkflowPlan F) (kernel : Kernel W F) :
    Once (System.created plan kernel).site (System.created plan kernel).calls
      (System.created plan kernel).succeeded where
  unique := (stepRecords_spec plan.steps).1
  distinct _ _ ha := absurd ha.symm (Option.some_ne_none _)
  filed _ _ ha := absurd ha.symm (Option.some_ne_none _)
  running _ _ ha := absurd ha.symm (Option.some_ne_none _)
  once _ _ _ _ ha := absurd ha.symm (Option.some_ne_none _)
  completed _ hid := absurd hid List.not_mem_nil

theorem Once.noDuplicates {σ : System W F} (h : Once σ.site σ.calls σ.succeeded) :
    NoDuplicates σ where
  running_once := h.once
  done_once t a ha hmem := by
    obtain ⟨r, hr, hrunning⟩ := h.running t a ha
    obtain ⟨r', hr', hcompleted⟩ := h.completed _ hmem
    obtain rfl : r = r' := Option.some.inj (hr.symm.trans hr')
    rw [hrunning] at hcompleted
    exact absurd hcompleted (by simp)

/-- Over every interleaving in which no call goes on to a step of its list that is running
or completed by then, no step runs twice at a time or again after an ok result. -/
theorem no_duplicate_work (env : Environment X W F) {σ : System W F}
    (h : System.Reaches env (Rechecked env) σ) : NoDuplicates σ := by
  refine Once.noDuplicates ?_
  induction h with
  | created plan kernel => exact once_created plan kernel
  | next ev _ hok hnext ih => exact once_next ih hok hnext

end Runs

namespace Pair

/-- The second call starts the second step; the first one then goes on to it too. -/
def overlapping : List (Act Unit Unit ℚ) := [.call 0, .call 1, succeeds 0 "first"]

theorem runs : (System.run environment overlapping system).any (fun σ =>
    σ.awaits 0 = some "second" && σ.awaits 1 = some "second") = true := by
  decide +kernel

theorem second_step_runs_twice : ¬ ∀ σ : System Unit ℚ,
    System.Reaches environment (fun _ _ => True) σ → NoDuplicates σ := by
  intro h
  obtain ⟨σ, hrun, hboth⟩ := Option.any_eq_true _ _ |>.mp runs
  rw [Bool.and_eq_true, decide_eq_true_eq, decide_eq_true_eq] at hboth
  obtain ⟨a, ha, hid⟩ := System.awaits_eq_some hboth.1
  obtain ⟨a', ha', hid'⟩ := System.awaits_eq_some hboth.2
  have hsame := (h σ (reached hrun)).running_once 0 1 a a' ha ha' (hid.trans hid'.symm)
  exact absurd hsame (by decide)

theorem rechecked_of_done {env : Environment X W F} {σ : System W F} {t : ℕ} (reply : Reply X F)
    (h : (σ.calls t).all (fun a => a.rest.isEmpty) = true) : Rechecked env (.resume t reply) σ := by
  cases reply with
  | error e => trivial
  | ok reply =>
    intro a record rest s ha hrest
    rw [ha, Option.all_some, hrest] at h
    exact absurd h (by simp)

theorem calls_run : (System.run environment [.call 0, .call 1] system).any (fun σ =>
    (σ.calls 1).all (fun a => a.rest.isEmpty) &&
      (σ.next environment (succeeds 1 "second")).isSome) = true := by
  decide +kernel

/-- The call that has nothing left in its list goes on as it should. -/
theorem second_call_ends : ∃ σ,
    System.run environment [.call 0, .call 1, succeeds 1 "second"] system = some σ ∧
      NoDuplicates σ := by
  obtain ⟨σ, hrun, hcheck⟩ := Option.any_eq_true _ _ |>.mp calls_run
  rw [Bool.and_eq_true] at hcheck
  obtain ⟨σ', hnext⟩ := Option.isSome_iff_exists.mp hcheck.2
  have hcalls : ∀ ev ∈ [Act.call 0, .call 1], ∀ σ, Rechecked environment ev σ := by
    intro ev hev σ
    rcases List.mem_cons.mp hev with rfl | hev
    · trivial
    · obtain rfl := List.mem_singleton.mp hev
      trivial
  refine ⟨σ', ?_, no_duplicate_work environment (.next _
    ((System.Reaches.created plan kernel).run hcalls hrun) (rechecked_of_done _ hcheck.1) hnext)⟩
  have happend := System.run_append hrun [succeeds 1 "second"]
  rw [List.cons_append, List.cons_append, List.nil_append] at happend
  rw [happend, System.run, hnext]
  rfl

end Pair

end MaestroKernel.Workflow.Coroutines
