import MaestroKernel.Durable.Memory
import MaestroKernel.Durable.Store

/-! # The in-memory store moves its board by single edges

Each operation holds the lock from its first read to its last write, so a client
performs one command. The issued uuids are kept beside the store, because
`uuid.uuid4` never repeats one. -/

namespace MaestroKernel.Durable

open Interaction

set_option linter.unusedSectionVars false

variable {T : Type} [LT T] [Zero T]

/-- The board that a store shows, when the uuids in `spent` have been issued. -/
def MemoryStore.board (s : MemoryStore T) (spent : Set String) : Board T :=
  ⟨s.get?, s.idempotency, spent⟩

/-- `issued` are the uuids, each with the client that drew it. -/
structure MemoryState (T : Type) [LT T] [Zero T] where
  store : MemoryStore T
  issued : List (String × ℕ)

def MemoryState.board (s : MemoryState T) : Board T :=
  s.store.board { u | u ∈ s.issued.map Prod.fst }

section Refinement

variable [LE T] [DecidableLE T]

/-- The failed attempt goes on to the retry delay. -/
def ExecutionJob.retries (job : ExecutionJob T) (now : T) : Bool :=
  !job.cancelRequested && !job.deadlineExpired now &&
    decide (job.attempt < job.spec.retry.maxAttempts)

/-- The operation of a lease holder passes the test in `_assert_lease`. -/
def MemoryStore.Holds (s : MemoryStore T) (op : Op T) (now : T) (job : ExecutionJob T) : Prop :=
  ∃ id w tok, op.lease? = some (id, w, tok) ∧ s.get? id = some job ∧
    job.leaseActive w tok now = true

/-- The release that is refused for its arguments. -/
def Op.negativeDelay [DecidableLT T] : Op T → Bool
  | .releaseUnstartedClaim _ _ _ delay => delay < 0
  | _ => false

variable [DecidableLT T] [DecidableEq T] [FloatArith T]

def memoryMachine : Machine (Op T) (Op T) (fun _ => Except DurableError (Reply T))
    (Except DurableError (Reply T)) (Env T) (MemoryState T) where
  exec e t op s :=
    if e.uuid = "" ∨ e.uuid ∈ s.issued.map Prod.fst then none
    else
      some ((s.store.perform op e.now e.uuid).1,
        ⟨(s.store.perform op e.now e.uuid).2, (e.uuid, t) :: s.issued⟩)
  code := Prog.perform

/-- `InMemoryDurableJobStore` -/
def memory : DurableStore T where
  Command := Op T
  Response := fun _ => Except DurableError (Reply T)
  State := MemoryState T
  Data := MemoryStore T
  machine := memoryMachine
  start := ⟨.empty, []⟩
  data := MemoryState.store
  board := MemoryState.board
  creator s uuid := s.issued.lookup uuid
  commits e _ op _ s := op.lease?.isSome = true →
    op.negativeDelay = false ∧ ∃ job, s.store.Holds op e.now job
  strands e op _ s := ∃ id w tok message job, op = .fail id w tok message ∧
    s.store.Holds op e.now job ∧ job.retries e.now = true ∧ floatMaxExp < job.attempt

namespace MemoryStore

open ExecutionJob (recoverLapsed_jobId)

variable {s : MemoryStore T} {op : Op T} {now : T} {uuid : String}

/-! ## The edges of one job -/

theorem expireDeadline_step (now : T) (op : Op T) (hop : op.sweeps = true) (job : ExecutionJob T) :
    job.expireDeadline now = job ∨ ExecutionJob.Step op job (job.expireDeadline now) := by
  rw [ExecutionJob.expireDeadline]
  split
  · exact .inl rfl
  · rename_i hactive
    split
    · exact .inr (.ended .failed _ now hop (by simpa using hactive) (.inl rfl))
    · exact .inl rfl

theorem recover_step {job : ExecutionJob T} (h : job.leaseLapsed now = true) :
    ExecutionJob.Step .recoverExpiredLeases job (job.recover now) := by
  simp only [ExecutionJob.leaseLapsed, Bool.and_eq_true, decide_eq_true_eq] at h
  have hr : job.status = .running := h.1
  have ha : job.status.isTerminal = false := by rw [hr]; rfl
  simp only [ExecutionJob.recover]
  split
  · exact .ended .cancelled _ now rfl ha (.inr rfl)
  · rename_i hcancel
    split
    · exact .ended .failed _ now rfl ha (.inl rfl)
    · split
      · exact .ended .failed _ now rfl ha (.inl rfl)
      · rename_i hattempt
        refine .requeued _ now now hr ?_ (Nat.lt_of_not_le hattempt)
        simpa [ExecutionJob.clearLease] using hcancel

/-- The assignments that a lease holder's operation makes once its lease is checked. -/
def body (op : Op T) (now : T) : ExecutionJob T → Except DurableError Unit × ExecutionJob T :=
  match op with
  | .heartbeat _ _ _ lease => heartbeatBody lease now
  | .releaseUnstartedClaim _ _ _ delay => releaseBody delay now
  | .succeed _ _ _ result => succeedBody result now
  | .fail _ _ _ message => failBody message now
  | .cancelClaimed .. => cancelBody now
  | _ => fun job => (.ok (), job)

theorem heartbeatBody_step {job : ExecutionJob T} {w tok : String} (lease : T)
    (hheld : job.HeldBy w tok) : ExecutionJob.Step (.heartbeat job.jobId w tok lease) job
      (heartbeatBody lease now job).2 := by
  rw [heartbeatBody]
  split
  · rename_i hexpired
    simp only [ExecutionJob.expireDeadline, hheld.1, hexpired]
    exact .closed w tok .failed _ _ _ now rfl rfl hheld rfl id (by simp)
  · exact .extended w tok lease _ now hheld

theorem succeedBody_step {job : ExecutionJob T} {w tok : String} (result : PyVal)
    (hheld : job.HeldBy w tok) : ExecutionJob.Step (.succeed job.jobId w tok result) job
      (succeedBody result now job).2 := by
  rw [succeedBody]
  split
  · exact .closed w tok .cancelled _ _ _ now rfl rfl hheld rfl id (by simp)
  · rename_i hcancel
    split
    · rename_i hexpired
      simp only [ExecutionJob.expireDeadline, hheld.1, hexpired]
      exact .closed w tok .failed _ _ _ now rfl rfl hheld rfl id (by simp)
    · exact .closed w tok .succeeded _ _ _ now rfl rfl hheld rfl id
        fun _ => by simpa using hcancel

theorem failBody_step {job : ExecutionJob T} {w tok : String} (message : String)
    (hheld : job.HeldBy w tok) : ExecutionJob.Step (.fail job.jobId w tok message) job
      (failBody message now job).2 := by
  simp only [failBody, settleFailure]
  split
  · exact .closed w tok .cancelled _ _ _ now rfl rfl hheld rfl id (by simp)
  · rename_i hcancel
    split
    · exact .closed w tok .failed _ _ _ now rfl rfl hheld rfl id (by simp)
    · split
      · exact .closed w tok .failed _ _ _ now rfl rfl hheld rfl id (by simp)
      · rename_i hattempt
        have hc : job.cancelRequested = false := by simpa [ExecutionJob.clearLease] using hcancel
        have ha : job.attempt < job.spec.retry.maxAttempts := Nat.lt_of_not_le hattempt
        split
        · rename_i e hdelay
          refine .stranded w tok message _ now hheld hc ha ?_
          by_contra hrange
          have hok : ∃ d, job.spec.retry.delayAfterAttempt job.attempt = .ok d :=
            job.spec.retry.delayAfterAttempt_ok (by omega) (by omega)
          obtain ⟨d, hd⟩ := hok
          simp [ExecutionJob.clearLease, hd] at hdelay
        · split
          · exact .closed w tok .failed _ _ _ now rfl rfl hheld rfl id (by simp)
          · exact .retried w tok message _ _ now hheld hc ha

theorem body_step {job : ExecutionJob T} {w tok : String}
    (hop : op.lease? = some (job.jobId, w, tok)) (hheld : job.HeldBy w tok) :
    ExecutionJob.Step op job (body op now job).2 := by
  cases op with
  | submit | claim | requestCancel | recoverExpiredLeases => simp [Op.lease?] at hop
  | heartbeat id w' tok' lease =>
    obtain ⟨rfl, rfl, rfl⟩ := by simpa [Op.lease?] using hop
    exact heartbeatBody_step lease hheld
  | releaseUnstartedClaim id w' tok' delay =>
    obtain ⟨rfl, rfl, rfl⟩ := by simpa [Op.lease?] using hop
    exact .released _ _ delay _ now hheld
  | succeed id w' tok' result =>
    obtain ⟨rfl, rfl, rfl⟩ := by simpa [Op.lease?] using hop
    exact succeedBody_step result hheld
  | fail id w' tok' message =>
    obtain ⟨rfl, rfl, rfl⟩ := by simpa [Op.lease?] using hop
    exact failBody_step message hheld
  | cancelClaimed id w' tok' =>
    obtain ⟨rfl, rfl, rfl⟩ := by simpa [Op.lease?] using hop
    exact .closed _ _ .cancelled true _ _ now rfl rfl hheld rfl (fun _ => rfl) (by simp)

/-! ## The whole store -/

variable {spent spent' : Set String}

theorem step_refl (hspent : spent ⊆ spent') :
    Board.Step op (s.board spent) (s.board spent') :=
  .of_eq rfl rfl hspent

/-- The board takes one action when each job stays or takes one edge. -/
theorem step_modify (hspent : spent ⊆ spent') (hop : ∀ w lease domains, op ≠ .claim w lease domains)
    {f : ExecutionJob T → ExecutionJob T} (hf : ∀ job, (f job).jobId = job.jobId)
    (h : ∀ job, f job = job ∨ ExecutionJob.Step op job (f job)) :
    Board.Step op (s.board spent) ((s.modify f hf).board spent') := by
  refine .advance rfl hspent fun id => ?_
  have hget : ((s.modify f hf).board spent').jobs id = (s.get? id).map f := get?_modify s f hf id
  cases hj : s.get? id with
  | none => exact .none hj (by rw [hget, hj]; rfl)
  | some job =>
    have hj' : ((s.modify f hf).board spent').jobs id = some (f job) := by rw [hget, hj]; rfl
    rcases h job with hsame | hstep
    · exact .same hj (hsame ▸ hj')
    · exact .edge hj hj' hstep (.of_not_claim hstep hop)

theorem step_put (hspent : spent ⊆ spent') (hop : ∀ w lease domains, op ≠ .claim w lease domains)
    {job job' : ExecutionJob T} (hj : s.get? job.jobId = some job)
    (hstep : ExecutionJob.Step op job job') :
    Board.Step op (s.board spent) ((s.put job').board spent') := by
  refine .advance rfl hspent fun id => ?_
  have hget : ((s.put job').board spent').jobs id = _ := get?_put s job' id
  rw [hstep.jobId_eq] at hget
  by_cases hne : id = job.jobId
  · subst hne
    rw [if_pos rfl, hj] at hget
    exact .edge hj hget hstep (.of_not_claim hstep hop)
  · rw [if_neg hne] at hget
    exact .of_eq hget

theorem withLease_inv (id w tok : String)
    (body : ExecutionJob T → Except DurableError Unit × ExecutionJob T) :
    (s.withLease id w tok now body).2 = s ∨ ∃ job, s.get? id = some job ∧
      job.leaseActive w tok now = true ∧ (s.withLease id w tok now body).2 = s.put (body job).2 := by
  simp only [withLease]
  cases hj : s.get? id with
  | none => exact .inl rfl
  | some job =>
    dsimp only
    split
    · rename_i hactive
      exact .inr ⟨job, rfl, hactive, rfl⟩
    · exact .inl rfl

/-- The operation of a lease holder is refused, or makes its assignments. -/
theorem perform_lease (s : MemoryStore T) (now : T) (uuid : String) {id w tok : String}
    (hop : op.lease? = some (id, w, tok)) :
    (s.perform op now uuid).2 = s ∨ ∃ job, s.get? id = some job ∧
      job.leaseActive w tok now = true ∧ op.negativeDelay = false ∧
      (s.perform op now uuid).2 = s.put (body op now job).2 := by
  cases op with
  | submit | claim | requestCancel | recoverExpiredLeases => simp [Op.lease?] at hop
  | heartbeat id' w' tok' lease =>
    obtain ⟨rfl, rfl, rfl⟩ := by simpa [Op.lease?] using hop
    simp only [perform, heartbeat]
    split
    · exact .inl rfl
    · simpa [Op.negativeDelay, body] using withLease_inv id' w' tok' (heartbeatBody lease now)
  | releaseUnstartedClaim id' w' tok' delay =>
    obtain ⟨rfl, rfl, rfl⟩ := by simpa [Op.lease?] using hop
    simp only [perform, releaseUnstartedClaim]
    split
    · exact .inl rfl
    · rename_i hdelay
      simpa [Op.negativeDelay, hdelay, body] using
        withLease_inv id' w' tok' (releaseBody delay now)
  | succeed id' w' tok' result =>
    obtain ⟨rfl, rfl, rfl⟩ := by simpa [Op.lease?] using hop
    simpa [Op.negativeDelay, perform, succeed, body] using
      withLease_inv id' w' tok' (succeedBody result now)
  | fail id' w' tok' message =>
    obtain ⟨rfl, rfl, rfl⟩ := by simpa [Op.lease?] using hop
    simpa [Op.negativeDelay, perform, fail, body] using
      withLease_inv id' w' tok' (failBody message now)
  | cancelClaimed id' w' tok' =>
    obtain ⟨rfl, rfl, rfl⟩ := by simpa [Op.lease?] using hop
    simpa [Op.negativeDelay, perform, cancelClaimed, body] using
      withLease_inv id' w' tok' (cancelBody now)

theorem lease_step (hspent : spent ⊆ spent') {id w tok : String}
    (hop : op.lease? = some (id, w, tok)) :
    Board.Step op (s.board spent) ((s.perform op now uuid).2.board spent') := by
  rcases perform_lease s now uuid hop with
    hsame | ⟨job, hj, hactive, -, hput⟩
  · rw [hsame]
    exact step_refl hspent
  · obtain rfl := jobId_of_get? hj
    rw [hput]
    refine step_put hspent ?_ hj (body_step hop (ExecutionJob.heldBy_of_leaseActive hactive))
    rintro w' lease domains rfl
    simp [Op.lease?] at hop

theorem submit_step (spec : JobSpec T) (hspent : spent ⊆ spent') (hfresh : uuid ∉ spent)
    (huuid : uuid ∈ spent') :
    Board.Step (.submit spec) (s.board spent) ((s.submit spec now uuid).2.board spent') := by
  simp only [submit]
  split
  · split
    · exact step_refl hspent
    · split <;> exact step_refl hspent
  · rename_i hunused
    refine .create spec spec uuid now rfl rfl (fun _ => rfl) hunused hfresh ?_ rfl
      (Set.insert_subset huuid hspent)
    funext id
    change (s.insert (.new uuid spec now)).get? id = Function.update s.get? uuid _ id
    rw [get?_insert, Function.update_apply]
    rfl

theorem heldBy_of_expireDeadline {job : ExecutionJob T} {w tok : String}
    (h : (job.expireDeadline now).HeldBy w tok) : job.HeldBy w tok := by
  rw [ExecutionJob.expireDeadline] at h
  split at h
  · exact h
  · split at h
    · exact absurd h ExecutionJob.not_heldBy_clearLease
    · exact h

theorem expireDeadline_of_claimable {domains : Option (List String)} {job : ExecutionJob T}
    (h : claimable now domains (job.expireDeadline now) = true) : job.expireDeadline now = job := by
  rw [ExecutionJob.expireDeadline] at h ⊢
  split
  · rfl
  · rename_i hactive
    split
    · rename_i hexpired
      simp [hactive, hexpired, claimable, ExecutionJob.clearLease, JobStatus.isWaiting] at h
    · rfl

theorem claim_step (w : String) (lease : T) (domains : Option (List String))
    (hspent : spent ⊆ spent') (hfresh : uuid ∉ spent) (huuid : uuid ∈ spent') :
    Board.Step (.claim w lease domains) (s.board spent)
      ((s.claim w lease domains now uuid).2.board spent') := by
  simp only [claim]
  split
  · exact step_refl hspent
  split
  · exact step_refl hspent
  -- A job that the claim does not take is at most swept by its deadline.
  have hswept : ∀ (s' : MemoryStore T) id, s'.get? id = (s.get? id).map (·.expireDeadline now) →
      Board.Advances (.claim w lease domains) (s.board spent) (s'.board spent') id := by
    intro s' id hs'
    cases hj : s.get? id with
    | none => exact .none hj (by rw [hj] at hs'; exact hs')
    | some job =>
      rw [hj] at hs'
      rcases expireDeadline_step now (.claim w lease domains) rfl job with
        hsame | hstep
      · exact .same hj (hs'.trans (congrArg some hsame))
      · exact .edge hj hs' hstep fun w' tok hheld => .inl (heldBy_of_expireDeadline hheld)
  split
  · exact .advance rfl hspent fun id => hswept _ id (get?_expireDeadlines now s id)
  · rename_i job rest hsorted
    have hmem : job ∈ ExecutionJob.sortCandidates
        ((s.expireDeadlines now).jobs.filter (claimable now domains)) := by
      rw [hsorted]
      exact List.mem_cons_self
    rw [ExecutionJob.sortCandidates, (List.perm_insertionSort _ _).mem_iff, List.mem_filter] at hmem
    obtain ⟨hjob, hclaimable⟩ := hmem
    have hget := get?_of_mem hjob
    rw [get?_expireDeadlines, Option.map_eq_some_iff] at hget
    obtain ⟨j, hj, rfl⟩ := hget
    have hkept := expireDeadline_of_claimable hclaimable
    rw [hkept] at hj hclaimable ⊢
    simp only [claimable, Bool.and_eq_true, Bool.not_eq_true'] at hclaimable
    have hstep : ExecutionJob.Step (.claim w lease domains) j _ :=
      .claimed w uuid lease (now + lease) now domains hclaimable.1.1.1 hclaimable.1.2
    refine .advance rfl hspent fun id => ?_
    by_cases hne : id = j.jobId
    · subst hne
      refine .edge hj ?_ hstep ?_
      · exact (get?_put _ _ _).trans (by simp [get?_expireDeadlines, hj])
      · intro w' tok hheld
        obtain rfl : uuid = tok := Option.some.inj hheld.2.2
        exact .inr ⟨hfresh, huuid⟩
    · apply hswept
      rw [get?_put, if_neg hne, get?_expireDeadlines]

theorem requestCancel_step (jobId : String) (hspent : spent ⊆ spent') :
    Board.Step (.requestCancel jobId) (s.board spent)
      ((s.requestCancel jobId now).2.board spent') := by
  simp only [requestCancel]
  cases hj : s.get? jobId with
  | none => exact step_refl hspent
  | some job =>
    obtain rfl := jobId_of_get? hj
    dsimp only
    split
    · exact step_refl hspent
    · rename_i hactive
      refine step_put hspent (by simp) hj ?_
      rcases job.status.waiting_running_or_terminal with hwaiting | hrunning | hterminal
      · rw [hwaiting]
        exact .withdrawn now hwaiting
      · have hn : job.status.isWaiting = false := by rw [hrunning]; rfl
        rw [hn]
        exact .flagged now hrunning
      · exact absurd hterminal hactive

theorem recover_all_step (hspent : spent ⊆ spent') :
    Board.Step .recoverExpiredLeases (s.board spent)
      ((s.recoverExpiredLeases now).2.board spent') := by
  refine step_modify hspent (by simp) (recoverLapsed_jobId · now) fun job => ?_
  rw [ExecutionJob.recoverLapsed]
  split
  · rename_i hlapsed
    exact .inr (recover_step hlapsed)
  · exact .inl rfl

theorem perform_step (op : Op T) (hspent : spent ⊆ spent') (hfresh : uuid ∉ spent)
    (huuid : uuid ∈ spent') :
    Board.Step op (s.board spent) ((s.perform op now uuid).2.board spent') := by
  cases op with
  | submit spec => exact submit_step spec hspent hfresh huuid
  | claim w lease domains => exact claim_step w lease domains hspent hfresh huuid
  | requestCancel id => exact requestCancel_step id hspent
  | recoverExpiredLeases => exact recover_all_step hspent
  | heartbeat | releaseUnstartedClaim | succeed | fail | cancelClaimed =>
    exact lease_step hspent rfl

theorem retries_of_stranded {job : ExecutionJob T} {message : String}
    (hr : (failBody message now job).2.status = .running) (hc : job.cancelRequested = false)
    (ha : job.attempt < job.spec.retry.maxAttempts) : job.retries now = true := by
  have hexpired : ¬ job.deadlineExpired now = true := by
    intro hexpired
    simp only [failBody, settleFailure] at hr
    split at hr
    · cases hr
    · split at hr
      · cases hr
      · rename_i hn
        exact hn hexpired
  simp [ExecutionJob.retries, hc, hexpired, ha]

/-- A call that breaks the shape of a job is a failed attempt whose delay overflows. -/
theorem wellFormed_or_strands {id : String} {job job' : ExecutionJob T}
    (hj : s.get? id = some job) (hj' : (s.perform op now uuid).2.get? id = some job')
    (hstep : job' = job ∨ ExecutionJob.Step op job job') (hw : job.WellFormed) :
    job'.WellFormed ∨ ∃ id w tok message job, op = .fail id w tok message ∧
      s.Holds op now job ∧ job.retries now = true ∧ floatMaxExp < job.attempt := by
  rcases hstep with rfl | hstep
  · exact .inl hw
  rcases hstep.wellFormed hw with hw' | ⟨hr, hn, hoverflow, w, tok, message, rfl, -, hc, ha⟩
  · exact .inl hw'
  obtain rfl := jobId_of_get? hj
  have hlease : (Op.fail job.jobId w tok message : Op T).lease? = some (job.jobId, w, tok) := rfl
  rcases perform_lease s now uuid hlease with
    hsame | ⟨j, hj₁, hactive, -, hput⟩
  · rw [hsame, hj] at hj'
    exact .inl (Option.some.inj hj' ▸ hw)
  · obtain rfl : job = j := Option.some.inj (hj.symm.trans hj₁)
    have hid : (failBody message now job).2.jobId = job.jobId :=
      (failBody_step message (ExecutionJob.heldBy_of_leaseActive hactive)).jobId_eq
    rw [hput, get?_put, body, if_pos hid.symm, hj] at hj'
    obtain rfl := Option.some.inj hj'
    exact .inr ⟨_, _, _, _, job, rfl, ⟨_, _, _, rfl, hj, hactive⟩,
      retries_of_stranded hr hc ha, hoverflow⟩

end MemoryStore

theorem memory_threads {a : (memory : DurableStore T).Config}
    (ha : memory.machine.Reaches memory.Any memory.init a) {t : ℕ} {op : Op T}
    {p : Prog (Op T) (fun _ => Except DurableError (Reply T)) (Except DurableError (Reply T))}
    (ht : a.threads t = some (op, p)) : p = .perform op ∨ ∃ v, p = .done v := by
  induction ha generalizing t op p with
  | refl => simp [DurableStore.init, Machine.init] at ht
  | tail ev _ _ hnext ih =>
    cases ev with
    | start u op' =>
      obtain ⟨-, -, hthreads⟩ := Machine.next_start hnext
      rw [hthreads] at ht
      by_cases hu : t = u
      · subst hu
        rw [Function.update_self] at ht
        obtain ⟨rfl, rfl⟩ := Prod.mk.inj (Option.some.inj ht)
        exact .inl rfl
      · exact ih (by simpa [hu] using ht)
    | run u e =>
      obtain ⟨op', c, k, r, hthread, -, hthreads⟩ := Machine.next_run hnext
      rw [hthreads] at ht
      by_cases hu : t = u
      · subst hu
        rw [Function.update_self] at ht
        obtain ⟨rfl, rfl⟩ := Prod.mk.inj (Option.some.inj ht)
        rcases ih hthread with hcall | ⟨v, hdone⟩
        · obtain ⟨rfl, rfl⟩ := by simpa [Prog.perform] using hcall
          exact .inr ⟨r, rfl⟩
        · cases hdone
      · exact ih (by simpa [hu] using ht)

/-- One command of a reachable client is one call of the store. -/
theorem memory_next {a b : (memory : DurableStore T).Config} {t : ℕ} {e : Env T} {op : Op T}
    {c : Op T} (ha : memory.machine.Reaches memory.Any memory.init a)
    (hp : memory.Performs a (.run t e) t e op c) (hnext : memory.machine.next (.run t e) a = some b) :
    c = op ∧ e.uuid ∉ a.shared.issued.map Prod.fst ∧ b.shared =
      ⟨(a.shared.store.perform op e.now e.uuid).2, (e.uuid, t) :: a.shared.issued⟩ ∧
      b.threads = Function.update a.threads t
        (some (op, .done (a.shared.store.perform op e.now e.uuid).1)) := by
  obtain ⟨-, k, hk⟩ := hp
  obtain ⟨op', c', k', r, hthread, hexec, hthreads⟩ := Machine.next_run hnext
  rw [hk] at hthread
  obtain ⟨rfl, hcall⟩ := Prod.mk.inj (Option.some.inj hthread)
  obtain ⟨rfl, hkk⟩ := Prog.call.inj hcall
  obtain rfl := eq_of_heq hkk
  rcases memory_threads ha hk with hcode | ⟨v, hdone⟩
  · obtain ⟨rfl, rfl⟩ := by simpa [Prog.perform] using hcode
    simp only [memory, memoryMachine] at hexec
    split at hexec
    · cases hexec
    · rename_i hfresh
      obtain ⟨rfl, hshared⟩ := Prod.mk.inj (Option.some.inj hexec)
      exact ⟨rfl, fun h => hfresh (.inr h), hshared.symm, hthreads⟩
  · cases hdone

theorem memory_refines : (memory : DurableStore T).Refines where
  start := by
    simp only [memory, MemoryState.board, MemoryStore.board, Board.empty]
    congr 1
    simp
  step {a b t e op c} ha hi hp hnext := by
    obtain ⟨rfl, hfresh, hshared, -⟩ := memory_next ha hp hnext
    have hstep : Board.Step c (memory.board a.shared) (memory.board b.shared) := by
      rw [hshared]
      exact MemoryStore.perform_step c (fun u hu => List.mem_cons_of_mem _ hu) hfresh
        List.mem_cons_self
    have hjobs : memory.job? b = (a.shared.store.perform c e.now e.uuid).2.get? := by
      funext id
      simp only [DurableStore.job?, hshared]
      rfl
    refine ⟨hstep, ?_, fun id job job' hj hj' hw => ?_⟩
    · by_cases hlease : c.lease?.isSome = true
      · obtain ⟨⟨id, w, tok⟩, hop⟩ := Option.isSome_iff_exists.mp hlease
        rcases MemoryStore.perform_lease a.shared.store e.now e.uuid hop with
          hsame | ⟨job, hj, hactive, hdelay, -⟩
        · exact .inl (hjobs.trans (congrArg MemoryStore.get? hsame))
        · exact .inr fun _ => ⟨hdelay, job, id, w, tok, hop, hj, hactive⟩
      · exact .inr fun h => absurd h hlease
    · obtain ⟨j, hj₁, hedge⟩ := hstep.of_some hi hj
      obtain rfl : j = job' := Option.some.inj (hj₁.symm.trans hj')
      rw [hjobs] at hj'
      exact MemoryStore.wellFormed_or_strands hj hj' (hedge.imp_right And.left) hw

end Refinement

end MaestroKernel.Durable
