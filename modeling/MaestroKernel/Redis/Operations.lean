import MaestroKernel.Redis.Transactions
import MaestroKernel.Redis.Entries
import MaestroKernel.Redis.Edges

/-! # The operations on existing jobs keep the contract

Each transaction reads one job under `WATCH` and moves it along one edge. The loops
around the transactions keep the guarantee because every command of them does. -/

namespace MaestroKernel.Durable.Redis

open Interaction

set_option linter.unusedSectionVars false

variable {T : Type} [LinearOrder T] [Zero T] [FloatArith T] {tostring : T → T}
  {cls : StoreClass} {t : ℕ} {op : Op T}

theorem Op.not_submit_of_sweeps (h : op.sweeps = true) (spec : JobSpec T) : op ≠ .submit spec := by
  rintro rfl
  cases h

/-- What the client has read under `WATCH` is what its block finds. -/
theorem safe_commit {id : String} {data : Option (JobHash T)} {ws : List (Write T)} {α : Type}
    {a : α} {s : Server T} (hs : Seen t id data s)
    (hguar : ∀ s, s.Inv cls → s.data.jobs id = data → s.intact t = true →
      Guar cls t op (.exec ws) s (s.committed t ws)) :
    Safe (machine tostring cls) (contract cls) t op (fun _ _ => True) (transact ws a) s :=
  safe_transact (fun _ _ => Seen.rely) hs fun s hi hs hok => hguar s hi (hs.of_intact hok) hok

theorem safe_done {α : Type} {a : α} {s : Server T} :
    Safe (machine tostring cls) (contract cls) t op (fun _ _ => True) (.done a : Client T α) s :=
  fun _ _ _ => trivial

/-- Draw a uuid: from here on the client holds it. -/
theorem safe_uuid4 {P : Server T → Prop} (hrely : ∀ s s', Rely t s s' → P s → P s')
    (huuid : ∀ (s : Server T) uuid, P s →
      P { s with uuids := Function.update s.uuids uuid (.held t) })
    {β : Type} {Q : β → Server T → Prop} {k : String → Client T β} {s : Server T} (hs : P s)
    (h : ∀ uuid s, uuid ≠ "" → s.Inv cls → P s → Holds t uuid s →
      Safe (machine tostring cls) (contract cls) t op Q (k uuid) s) :
    Safe (machine tostring cls) (contract cls) t op Q (uuid4 >>= k) s := by
  intro s₁ e r s₂ hr hi he
  change Server.exec tostring e t .uuid4 s₁ = some (r, s₂) at he
  simp only [Server.exec] at he
  split at he
  · cases he
  · rename_i hfresh
    simp only [not_or, not_not] at hfresh
    obtain ⟨rfl, rfl⟩ := Prod.mk.inj (Option.some.inj he)
    have hg : Guar cls t op .uuid4 s₁ _ := .uuid4 hi hfresh.2
    exact ⟨hg, h _ _ hfresh.1 hg.inv (huuid s₁ _ (hrely s s₁ hr hs)) (by simp [Holds])⟩

theorem always_expireAttempt (hop : op.sweeps = true) (id : String) (now : T) :
    Always tostring cls t op (expireAttempt cls id now) := by
  refine always_transaction (by cases cls <;> simp [StoreClass.watches]) fun data s hi hseen => ?_
  cases data with
  | none =>
    exact safe_commit hseen fun s hi hread hok =>
      .removeMissing hi about_dequeueMissing hread (keepsJobs_dequeueMissing id)
        (fun k => by
          cases cls <;> simp [StoreClass.dequeueMissing, Write.scoreOf, priorityOrder])
        (Op.not_submit_of_sweeps hop)
  | some data =>
    simp only [Prog.pure_eq]
    split
    · exact safe_done
    · rename_i hwaiting
      have hwaiting : data.toJob.status.isWaiting = true := by simpa using hwaiting
      split
      · exact safe_done
      · split
        · exact safe_done
        · rename_i data' hmap
          refine safe_commit hseen fun s hi hread hok => ?_
          have hj : s.board.jobs id = some data.toJob := by simp [Server.board, hread]
          have hid : data.toJob.jobId = id := hi.board.jobId hj
          obtain ⟨hstep, hstatus⟩ := ended_step data.storable hop
            (JobStatus.not_terminal_of_waiting hwaiting) (.inl rfl) hmap
          have hentries := hi.entries hj
          have htracked := tracked_dequeue (failDeadline data.toJob now) data' hid rfl
            hentries.none_or_indexes
            (hentries.running_none (JobStatus.isWaiting_ne_running hwaiting))
          refine .commit hi hok (List.forall_mem_cons.mpr ⟨rfl, about_dequeueJob hid⟩) hread
            (fun o => ?_) hstep (htracked.of_status rfl hstatus) (fun h => ?_)
            fun w tok hheld => ?_
          · rw [List.foldl_cons, keepsJobs_dequeueJob]
            simp [Write.jobOf]
          · rw [hstatus] at h
            cases h
          · rw [hheld.1] at hstatus
            cases hstatus

theorem always_expireQueuedDeadline (hop : op.sweeps = true) (id : String) (now : T) :
    Always tostring cls t op (expireQueuedDeadline cls id now) :=
  .retry (always_expireAttempt hop id now) 8

/-! ## Claims -/

theorem always_commitClaim {w : String} (hw : w ≠ "") (lease : T) (domains : Option (List String))
    (now : T) (selected : ExecutionJob T) :
    Always tostring cls t (.claim w lease domains)
      (commitClaim cls w lease domains now selected) := by
  refine always_transaction (by cases cls <;> simp [StoreClass.watches]) fun data s hi hseen => ?_
  cases data with
  | none => exact safe_done
  | some data =>
    simp only [Prog.pure_eq]
    split
    · exact safe_done
    · rename_i hwaiting
      have hwaiting : data.toJob.status.isWaiting = true := by simpa using hwaiting
      split
      · exact safe_done
      · rename_i hcancel
        have hcancel : data.toJob.cancelRequested = false := by
          simp only [Bool.or_eq_true, not_or] at hcancel
          simpa using hcancel.2
        split
        · exact safe_done
        · split
          · exact safe_done
          · refine safe_uuid4 (fun _ _ => Seen.rely) (fun _ _ h => h) hseen
              fun tok s htok hi hseen hholds => ?_
            split
            · exact safe_done
            · rename_i data' hmap
              refine safe_transact
                (P := fun s => Seen t selected.jobId (some data) s ∧ Holds t tok s)
                (fun s s' hr h => ⟨h.1.rely hr, h.2.rely hr⟩) ⟨hseen, hholds⟩
                fun s hi hboth hok => ?_
              obtain ⟨hseen, hholds⟩ := hboth
              have hread := hseen.of_intact hok
              have hj : s.board.jobs selected.jobId = some data.toJob := by
                simp [Server.board, hread]
              have hid : data.toJob.jobId = selected.jobId := hi.board.jobId hj
              obtain ⟨hstep, hstored⟩ :=
                claimed_stored data.storable hwaiting hcancel hw htok hmap
              have hentries := hi.entries hj
              have htracked := tracked_claim (startRunning data.toJob w tok lease now) data'
                (now + lease) hid rfl hentries.none_or_indexes
              have habout : ∀ w' ∈ cls.dequeueJob (startRunning data.toJob w tok lease now) ++
                  [.zadd .running data.toJob.jobId (now + lease), .hset selected.jobId data'],
                  w'.About selected.jobId := by
                rw [List.forall_mem_append]
                exact ⟨about_dequeueJob hid, by simp [Write.About, hid]⟩
              refine .commit hi hok habout hread (fun o => ?_) hstep ?_ (fun _ => ?_)
                fun w' tok' hheld => ?_
              · rw [List.foldl_append, keepsJobs_dequeueJob]
                simp [Write.jobOf]
              · have hid' : (startRunning data.toJob w tok lease now).jobId = selected.jobId := hid
                rw [hstored, hid']
                exact htracked
              · rw [hstored]
                simp [startRunning]
              · rw [hstored] at hheld
                obtain rfl : tok = tok' := Option.some.inj hheld.2.2
                exact .inr hholds

theorem always_collectCandidates (hop : op.sweeps = true) (now : T)
    (domains : Option (List String)) (ids : List String) :
    Always tostring cls t op (collectCandidates cls now domains ids) := by
  induction ids with
  | nil => exact .done _
  | cons id ids ih =>
    have hqueue : ZKey.queue ≠ .running := nofun
    rw [collectCandidates]
    refine .hgetall fun data => ?_
    cases data with
    | none => exact .zrem hqueue (Op.not_submit_of_sweeps hop) ih
    | some data =>
      simp only
      split
      · exact .zrem hqueue (Op.not_submit_of_sweeps hop) ih
      · split
        · exact ih
        · split
          · refine .bind (always_expireQueuedDeadline hop id now) fun r => ?_
            cases r with
            | error e => exact .done _
            | ok _ => exact ih
          · split
            · exact ih
            · exact .bind ih fun r => .done _

theorem always_claimAttempt {w : String} (hw : w ≠ "") (lease : T)
    (domains : Option (List String)) :
    Always tostring cls t (.claim w lease domains) (claimAttempt cls w lease domains) := by
  rw [claimAttempt]
  refine .time fun now => .zrangebyscore fun ids => ?_
  refine .bind (always_collectCandidates rfl now domains ids) fun r => ?_
  cases r with
  | error e => exact .done _
  | ok candidates =>
    simp only
    split
    · exact .done _
    · exact always_commitClaim hw lease domains now _

/-! ### The claim of the optimized store under `WATCH` -/

theorem always_readJobs (ids : List String) : Always tostring cls t op (readJobs ids) := by
  induction ids with
  | nil => exact .done _
  | cons id ids ih =>
    rw [readJobs]
    exact .hgetall fun data => .bind ih fun rest => .done _

theorem always_removeStale (hop : op.sweeps = true) (ids : List String)
    (ps : List ExecutionPriority) : Always tostring cls t op (removeStale ids ps) := by
  induction ps with
  | nil => exact .done _
  | cons p ps ih =>
    rw [removeStale]
    exact .zrem (by simp) (Op.not_submit_of_sweeps hop) ih

theorem always_hydrateCandidates (hop : op.sweeps = true) (ids : List String) :
    Always tostring cls t op (hydrateCandidates ids) := by
  rw [hydrateCandidates]
  refine .bind (always_readJobs ids) fun rows => ?_
  split
  · exact .done _
  · refine .zrem (by simp) (Op.not_submit_of_sweeps hop) ?_
    exact .bind (always_removeStale hop _ _) fun _ => .done _

theorem always_selectFrom (hop : op.sweeps = true) (p : ExecutionPriority) (now : T)
    (domains : Option (List String)) (jobs : List (ExecutionJob T)) :
    Always tostring cls t op (selectFrom cls p now domains jobs) := by
  induction jobs with
  | nil => exact .done _
  | cons job jobs ih =>
    rw [selectFrom]
    split
    · exact ih
    · split
      · exact ih
      · split
        · refine .bind (always_expireQueuedDeadline hop job.jobId now) fun r => ?_
          cases r with
          | error e => exact .done _
          | ok _ => exact ih
        · split
          · exact ih
          · exact .done _

theorem always_selectCandidate (hop : op.sweeps = true) (window : ℕ) (now : T)
    (domains : Option (List String)) (ps : List ExecutionPriority) :
    Always tostring cls t op (selectCandidate cls window now domains ps) := by
  induction ps with
  | nil => exact .done _
  | cons p ps ih =>
    rw [selectCandidate]
    refine .zrangebyscore fun ids => .bind (always_hydrateCandidates hop ids) fun jobs => ?_
    refine .bind (always_selectFrom hop p now domains _) fun r => ?_
    cases r with
    | error e => exact .done _
    | ok selected =>
      cases selected with
      | none => exact ih
      | some job => exact .done _

theorem always_claimWatchAttempt (window : ℕ) {w : String} (hw : w ≠ "") (lease : T)
    (domains : Option (List String)) :
    Always tostring cls t (.claim w lease domains)
      (claimWatchAttempt cls window w lease domains) := by
  rw [claimWatchAttempt]
  refine .time fun now => .bind (always_selectCandidate rfl window now domains _) fun r => ?_
  cases r with
  | error e => exact .done _
  | ok selected =>
    cases selected with
    | none => exact .done _
    | some selected => exact always_commitClaim hw lease domains now selected

/-! ## The operations of a lease holder -/

/-- The entries after the transaction of a lease holder. -/
theorem tracked_mutate {job job' : ExecutionJob T} {id : String} (data : JobHash T)
    {ws : List (Write T)} {score : ZKey → Option T} (hid : job'.jobId = id)
    (hr : job.status = .running) (hentries : Indexed cls job score)
    (hws : claimedWrites cls id job' = .ok ws) :
    (∀ w ∈ ws, w.About id) ∧ KeepsJobs ws ∧
      Tracked cls job' (scoresAfter (.hset id data :: ws) id score) ∧
        (job'.status = .running → job'.leaseExpiresAt ≠ none) := by
  have hnone := hentries.of_running hr
  rw [claimedWrites] at hws
  split at hws
  · rename_i hr'
    split at hws
    · cases hws
    · rename_i expires hexpires
      obtain rfl := Except.ok.inj hws
      exact ⟨by simp [Write.About], fun _ _ => rfl, tracked_extend job' data expires hr' hnone,
        fun _ h => by simp [h] at hexpires⟩
  · rename_i hr'
    obtain rfl := Except.ok.inj hws
    refine ⟨List.forall_mem_cons.mpr ⟨rfl, about_settle hid⟩, fun id' o => ?_,
      tracked_leave job' data hr' hnone (fun o ho k hk => scoresAfter_settle hid ho hk)
        fun o => scoresAfter_settle_running, fun h => absurd h hr'⟩
    rw [List.foldl_cons]
    exact keepsJobs_settle id' _

theorem always_mutateAttempt {id w tok : String}
    {mutate : ExecutionJob T → T → Except DurableError (ExecutionJob T)}
    (hmutate : Mutation op mutate) (hop : op.lease? = some (id, w, tok)) :
    Always tostring cls t op (mutateAttempt cls id w tok mutate) := by
  rw [mutateAttempt]
  refine .time fun now => always_transaction (by cases cls <;> simp [StoreClass.watches])
    fun data s hi hseen => ?_
  cases data with
  | none => exact safe_done
  | some data =>
    simp only [Prog.pure_eq]
    split
    · exact safe_done
    · rename_i hactive
      have hactive : data.toJob.leaseActive w tok now = true := by simpa using hactive
      have hheld := ExecutionJob.heldBy_of_leaseActive hactive
      split
      · exact safe_done
      · rename_i job' hjob'
        split
        · exact safe_done
        · rename_i data' hmap
          split
          · exact safe_done
          · rename_i ws hws
            refine safe_commit hseen fun s hi hread hok => ?_
            have hj : s.board.jobs id = some data.toJob := by simp [Server.board, hread]
            have hid : data.toJob.jobId = id := hi.board.jobId hj
            obtain ⟨hstep, error, result, hstored⟩ :=
              hmutate data.storable (hid ▸ hop) hheld hjob' hmap
            have hid' : job'.jobId = id := by
              have h := hstep.jobId_eq
              rw [hstored] at h
              exact h.trans hid
            obtain ⟨habout, hkeeps, htracked, hlease⟩ :=
              tracked_mutate data' hid' hheld.1 (hi.entries hj) hws
            refine .commit hi hok (List.forall_mem_cons.mpr ⟨rfl, habout⟩) hread (fun o => ?_)
              hstep ?_ ?_ fun w' tok' hheld' => ?_
            · rw [List.foldl_cons, hkeeps]
              simp [Write.jobOf]
            · rw [hstored]
              exact ⟨htracked.queues, htracked.running⟩
            · rw [hstored]
              exact hlease
            · rcases hstep.newly_held hheld' with hold | ⟨-, -, lease, domains, rfl⟩
              · exact .inl hold
              · cases hop

theorem always_mutateClaimed {id w tok : String}
    {mutate : ExecutionJob T → T → Except DurableError (ExecutionJob T)}
    (hmutate : Mutation op mutate) (hop : op.lease? = some (id, w, tok)) :
    Always tostring cls t op (mutateClaimed cls id w tok mutate) :=
  .retry (always_mutateAttempt hmutate hop) 8

theorem always_heartbeat (id w tok : String) (lease : T) :
    Always tostring cls t (.heartbeat id w tok lease) (heartbeat cls id w tok lease) := by
  rw [heartbeat]
  split
  · exact .done _
  · refine .bind (always_mutateClaimed (heartbeat_mutation id w tok lease) rfl) fun r => ?_
    cases r with
    | error e => exact .done _
    | ok job =>
      simp only
      split <;> exact .done _

theorem always_release (id w tok : String) (delay : T) :
    Always tostring cls t (.releaseUnstartedClaim id w tok delay)
      (releaseUnstartedClaim cls id w tok delay) := by
  rw [releaseUnstartedClaim]
  split
  · exact .done _
  · exact .bind (always_mutateClaimed (release_mutation id w tok delay) rfl) fun _ => .done _

/-! ## Cancellation and recovery -/

def cancelWrites (cls : StoreClass) (job : ExecutionJob T) : List (Write T) :=
  if job.status = .cancelled then cls.dequeueJob job else []

/-- The entries after a request to cancel. -/
theorem tracked_flagCancel {job : ExecutionJob T} {id : String} (data : JobHash T) (now : T)
    {score : ZKey → Option T} (hid : job.jobId = id) (hactive : job.status.isTerminal = false)
    (hentries : Indexed cls job score) :
    (∀ w ∈ cancelWrites cls (flagCancel job now), w.About id) ∧
      KeepsJobs (cancelWrites cls (flagCancel job now)) ∧
        Tracked cls (flagCancel job now)
          (scoresAfter (.hset id data :: cancelWrites cls (flagCancel job now)) id score) := by
  rcases job.status.waiting_running_or_terminal with hwaiting | hrunning | hterminal
  · have hflag : flagCancel job now =
        { job with cancelRequested := true, updatedAt := now, status := .cancelled } := by
      simp [flagCancel, hwaiting]
    have htracked := tracked_dequeue
      { job with cancelRequested := true, updatedAt := now, status := .cancelled } data hid rfl
      hentries.none_or_indexes (hentries.running_none (JobStatus.isWaiting_ne_running hwaiting))
    rw [hflag, cancelWrites, if_pos rfl]
    exact ⟨about_dequeueJob hid, keepsJobs_dequeueJob, htracked⟩
  · have hn : job.status.isWaiting = false := by rw [hrunning]; rfl
    have hflag : flagCancel job now = { job with cancelRequested := true, updatedAt := now } := by
      simp [flagCancel, hn]
    rw [hflag, cancelWrites, if_neg (by simp [hrunning])]
    refine ⟨by simp, fun _ _ => rfl, (hentries.tracked hn).of_status hn rfl⟩
  · rw [hactive] at hterminal
    cases hterminal

theorem always_requestCancelAttempt (id : String) :
    Always tostring cls t (.requestCancel id) (requestCancelAttempt cls id) := by
  rw [requestCancelAttempt]
  refine .time fun now => always_transaction (by cases cls <;> simp [StoreClass.watches])
    fun data s hi hseen => ?_
  cases data with
  | none => exact safe_done
  | some data =>
    simp only [Prog.pure_eq]
    split
    · exact safe_done
    · rename_i hactive
      have hactive : data.toJob.status.isTerminal = false := by simpa using hactive
      split
      · exact safe_done
      · rename_i data' hmap
        refine safe_commit hseen fun s hi hread hok => ?_
        have hj : s.board.jobs id = some data.toJob := by simp [Server.board, hread]
        have hid : data.toJob.jobId = id := hi.board.jobId hj
        obtain ⟨hstep, hstored⟩ := flagged_stored data.storable hactive hmap
        rw [hid] at hstep
        obtain ⟨habout, hkeeps, htracked⟩ :=
          tracked_flagCancel data' now hid hactive (hi.entries hj)
        refine .commit hi hok (List.forall_mem_cons.mpr ⟨rfl, habout⟩) hread (fun o => ?_)
          hstep ?_ (fun hr => ?_) fun w tok hheld => ?_
        · rw [List.foldl_cons]
          exact (hkeeps id _).trans (by simp [Write.jobOf])
        · rw [hstored]
          exact htracked
        · rcases hstep.wellFormed (hi.wellFormed hj) with hw | ⟨-, -, -, w, tok, message, hfail, -⟩
          · exact Option.isSome_iff_ne_none.mp (hw.leaseExpiresAt.mpr hr)
          · cases hfail
        · rcases hstep.newly_held hheld with hold | ⟨-, -, lease, domains, hclaim⟩
          · exact .inl hold
          · cases hclaim

theorem always_requestCancel (id : String) :
    Always tostring cls t (.requestCancel id) (requestCancel cls id) :=
  .retry (always_requestCancelAttempt id) 8

theorem recoverMutate_status (job : ExecutionJob T) (now : T) :
    (recoverMutate job now).status = .queued ∨
      (recoverMutate job now).status.isTerminal = true := by
  simp only [recoverMutate]
  split
  · exact .inr rfl
  · split
    · exact .inr rfl
    · split
      · exact .inr rfl
      · exact .inl rfl

theorem always_recoverAttempt (id : String) (now : T) :
    Always tostring cls t .recoverExpiredLeases (recoverAttempt cls id now) := by
  rw [recoverAttempt]
  refine always_transaction (by cases cls <;> simp [StoreClass.watches]) fun data s hi hseen => ?_
  cases data with
  | none =>
    exact safe_commit hseen fun s hi hread hok =>
      .removeMissing hi (by simp [Write.About]) hread (fun _ => rfl)
        (fun k => by simp [Write.scoreOf]) (by simp)
  | some data =>
    simp only [Prog.pure_eq]
    split
    · exact safe_done
    · rename_i hexpired
      have hexpired : leaseExpired data.toJob now = true := by simpa using hexpired
      split
      · exact safe_done
      · rename_i data' hmap
        refine safe_commit hseen fun s hi hread hok => ?_
        have hj : s.board.jobs id = some data.toJob := by simp [Server.board, hread]
        have hid : data.toJob.jobId = id := hi.board.jobId hj
        obtain ⟨hstep, hstored⟩ := recovered_stored data.storable hexpired hmap
        have hid' : (recoverMutate data.toJob now).jobId = id := by
          rw [← hstored, hstep.jobId_eq, hid]
        have hrunning : data.toJob.status = .running := by
          simp only [leaseExpired, Bool.and_eq_true, decide_eq_true_eq] at hexpired
          exact hexpired.1
        have hstatus : (recoverMutate data.toJob now).status = .queued ∨
            (recoverMutate data.toJob now).status.isWaiting = false := by
          rcases recoverMutate_status data.toJob now with hq | ht
          · exact .inl hq
          · right
            rw [JobStatus.isWaiting_eq_not_isTerminal (JobStatus.isTerminal_ne_running ht), ht]
            rfl
        have hne : (recoverMutate data.toJob now).status ≠ .running := by
          rcases recoverMutate_status data.toJob now with hq | ht
          · simp [hq]
          · exact JobStatus.isTerminal_ne_running ht
        refine .commit hi hok ?_ hread (fun o => ?_) hstep ?_ (fun hr => ?_) fun w tok hheld => ?_
        · exact List.forall_mem_cons.mpr ⟨rfl, List.forall_mem_cons.mpr ⟨rfl, about_requeue hid'⟩⟩
        · rw [List.foldl_cons, List.foldl_cons, keepsJobs_requeue]
          simp [Write.jobOf]
        · rw [hstored]
          exact tracked_leave _ data' hne ((hi.entries hj).of_running hrunning)
            (fun o ho k hk => scoresAfter_requeue hid' hstatus ho hk)
            (fun o => scoresAfter_requeue_running)
        · rw [hstored] at hr
          exact absurd hr hne
        · rw [hstored] at hheld
          exact absurd hheld.1 hne

theorem always_recoverJobs (now : T) (ids : List String) (recovered : ℕ) :
    Always tostring cls t .recoverExpiredLeases (recoverJobs cls now ids recovered) := by
  induction ids generalizing recovered with
  | nil => exact .done _
  | cons id ids ih =>
    rw [recoverJobs]
    refine .bind (.retry (always_recoverAttempt id now) 8) fun r => ?_
    cases r with
    | error e => exact .done _
    | ok moved => exact ih _

theorem always_recoverExpiredLeases :
    Always tostring cls t .recoverExpiredLeases (recoverExpiredLeases cls) := by
  rw [recoverExpiredLeases]
  exact .time fun now => .zrangebyscore fun ids => always_recoverJobs now ids 0

end MaestroKernel.Durable.Redis
