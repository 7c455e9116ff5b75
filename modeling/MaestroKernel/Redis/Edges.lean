import MaestroKernel.Redis.Claim

/-! # The edges that the Redis store takes

A transaction decodes the hash, changes the job and encodes it again. What reads
back has taken one edge from what was read. -/

namespace MaestroKernel.Durable.Redis

set_option linter.unusedSectionVars false

variable {T : Type} [LinearOrder T] [Zero T] [FloatArith T]
  {op : Op T} {job job' : ExecutionJob T} {data : JobHash T} {w tok : String} {now : T}

/-- What a changed job reads back as. -/
theorem exists_stored (hmap : job'.jobMapping = .ok data) (hs : job.Storable)
    (hspec : job'.spec = job.spec) (hw : job'.workerId ≠ some "")
    (ht : job'.leaseToken ≠ some "") :
    ∃ error result, data.toJob = { job' with lastError := error, result := result } ∧
      (job'.result = job.result → result = job.result) := by
  have hp : job'.spec.payload.isJson = true := by
    rw [hspec]
    exact hs.payload
  obtain ⟨error, result, hstored, -, hresult⟩ := ExecutionJob.toJob_jobMapping hmap hp hw ht
  refine ⟨error, result, hstored, fun he => ?_⟩
  rw [hresult (by rw [he]; exact hs.result), he]

theorem ended_step (hs : job.Storable) (hop : op.sweeps = true)
    (hactive : job.status.isTerminal = false) {status : JobStatus} {error : Option String}
    (hstatus : status = .failed ∨ status = .cancelled)
    (hmap : ({ job with status := status, lastError := error, updatedAt := now }.clearLease :
      ExecutionJob T).jobMapping = .ok data) :
    ExecutionJob.Step op job data.toJob ∧ data.toJob.status = status := by
  obtain ⟨error', result, hstored, hresult⟩ :=
    exists_stored hmap hs rfl (by simp [ExecutionJob.clearLease])
      (by simp [ExecutionJob.clearLease])
  obtain rfl := hresult rfl
  rw [hstored]
  exact ⟨.ended status error' now hop hactive hstatus, rfl⟩

/-- What the transaction of a lease holder makes of the job it holds. -/
def Mutation (op : Op T) (mutate : ExecutionJob T → T → Except DurableError (ExecutionJob T)) :
    Prop :=
  ∀ {job job' : ExecutionJob T} {w tok : String} {now : T} {data : JobHash T}, job.Storable →
    op.lease? = some (job.jobId, w, tok) → job.HeldBy w tok → mutate job now = .ok job' →
      job'.jobMapping = .ok data →
        ExecutionJob.Step op job data.toJob ∧
          ∃ error result, data.toJob = { job' with lastError := error, result := result }

theorem closed_stored (status : JobStatus) (cancel : Bool) (error : Option String)
    (result : PyVal) (now : T) (hs : job.Storable) (hop : op.lease? = some (job.jobId, w, tok))
    (hcloses : op.closes = true) (hheld : job.HeldBy w tok) (hterminal : status.isTerminal = true)
    (hcancel : job.cancelRequested = true → cancel = true)
    (hsucceeded : status = .succeeded → cancel = false)
    (hjob : job' =
      { job with
        status := status
        cancelRequested := cancel
        lastError := error
        result := result
        updatedAt := now }.clearLease)
    (hmap : job'.jobMapping = .ok data) :
    ExecutionJob.Step op job data.toJob ∧
      ∃ error result, data.toJob = { job' with lastError := error, result := result } := by
  subst hjob
  obtain ⟨error', result', hstored, -⟩ :=
    exists_stored hmap hs rfl (by simp [ExecutionJob.clearLease])
      (by simp [ExecutionJob.clearLease])
  refine ⟨?_, error', result', hstored⟩
  rw [hstored]
  exact .closed w tok status cancel error' result' now hop hcloses hheld hterminal hcancel
    hsucceeded

theorem heartbeat_mutation (id w tok : String) (lease : T) :
    Mutation (.heartbeat id w tok lease) (heartbeatMutate lease) := by
  intro job job' w' tok' now data hs hop hheld hmutate hmap
  rw [heartbeatMutate] at hmutate
  split at hmutate
  · obtain rfl := Except.ok.inj hmutate
    exact closed_stored .failed job.cancelRequested (some "deadline_exceeded") job.result now hs hop rfl
      hheld rfl (fun h => h) nofun rfl hmap
  · obtain rfl := Except.ok.inj hmutate
    obtain ⟨rfl, rfl, rfl⟩ := by simpa [Op.lease?] using hop
    obtain ⟨error, result, hstored, herror, hresult⟩ :=
      ExecutionJob.toJob_jobMapping hmap hs.payload hs.workerId hs.leaseToken
    obtain rfl := herror hs.lastError
    obtain rfl := hresult hs.result
    exact ⟨hstored ▸ .extended _ _ lease _ now hheld, _, _, hstored⟩

theorem release_mutation (id w tok : String) (delay : T) :
    Mutation (.releaseUnstartedClaim id w tok delay) (releaseMutate delay) := by
  intro job job' w' tok' now data hs hop hheld hmutate hmap
  obtain rfl := Except.ok.inj hmutate
  obtain ⟨rfl, rfl, rfl⟩ := by simpa [Op.lease?] using hop
  obtain ⟨error, result, hstored, herror, hresult⟩ :=
    ExecutionJob.toJob_jobMapping hmap hs.payload (by simp) (by simp)
  obtain rfl := herror hs.lastError
  obtain rfl := hresult hs.result
  exact ⟨hstored ▸ .released _ _ delay _ now hheld, _, _, hstored⟩

theorem succeed_mutation (id w tok : String) (result : PyVal) :
    Mutation (T := T) (.succeed id w tok result) (succeedMutate result) := by
  intro job job' w' tok' now data hs hop hheld hmutate hmap
  simp only [succeedMutate, succeedBranch] at hmutate
  split at hmutate
  · obtain rfl := Except.ok.inj hmutate
    exact closed_stored .cancelled job.cancelRequested job.lastError job.result now hs hop rfl
      hheld rfl (fun h => h) nofun rfl hmap
  · rename_i hcancel
    split at hmutate
    · obtain rfl := Except.ok.inj hmutate
      exact closed_stored .failed job.cancelRequested (some "deadline_exceeded") job.result now hs hop rfl
        hheld rfl (fun h => h) nofun rfl hmap
    · obtain rfl := Except.ok.inj hmutate
      exact closed_stored .succeeded job.cancelRequested none result now hs hop rfl
        hheld rfl (fun h => h) (fun _ => by simpa using hcancel) rfl
        hmap

theorem cancel_mutation (id w tok : String) :
    Mutation (T := T) (.cancelClaimed id w tok) cancelMutate := by
  intro job job' w' tok' now data hs hop hheld hmutate hmap
  obtain rfl := Except.ok.inj hmutate
  exact closed_stored .cancelled true job.lastError job.result now hs hop rfl
    hheld rfl (fun _ => rfl) nofun rfl hmap

theorem fail_mutation (id w tok error : String) :
    Mutation (T := T) (.fail id w tok error) (failMutate error) := by
  intro job job' w' tok' now data hs hop hheld hmutate hmap
  simp only [failMutate] at hmutate
  split at hmutate
  · obtain rfl := Except.ok.inj hmutate
    exact closed_stored .cancelled job.cancelRequested (some error) job.result now hs hop rfl
      hheld rfl (fun h => h) nofun rfl hmap
  · rename_i hcancel
    split at hmutate
    · obtain rfl := Except.ok.inj hmutate
      exact closed_stored .failed job.cancelRequested (some "deadline_exceeded") job.result now hs hop rfl
        hheld rfl (fun h => h) nofun rfl hmap
    · split at hmutate
      · obtain rfl := Except.ok.inj hmutate
        exact closed_stored .failed job.cancelRequested (some error) job.result now hs hop rfl
          hheld rfl (fun h => h) nofun rfl hmap
      · rename_i hattempt
        split at hmutate
        · cases hmutate
        · split at hmutate
          · obtain rfl := Except.ok.inj hmutate
            exact closed_stored .failed job.cancelRequested (some "deadline_exceeded") job.result
              now hs hop rfl
              hheld rfl (fun h => h) nofun rfl hmap
          · obtain rfl := Except.ok.inj hmutate
            obtain ⟨rfl, rfl, rfl⟩ := by simpa [Op.lease?] using hop
            obtain ⟨error', result, hstored, -, hresult⟩ :=
              ExecutionJob.toJob_jobMapping hmap hs.payload (by simp) (by simp)
            obtain rfl := hresult hs.result
            refine ⟨hstored ▸ .retried _ _ error error' _ now hheld (by simpa using hcancel)
              (Nat.lt_of_not_le hattempt), _, _, hstored⟩

/-! ## The other edges -/

theorem claimed_stored (hs : job.Storable) {lease : T} {domains : Option (List String)}
    (hwaiting : job.status.isWaiting = true) (hcancel : job.cancelRequested = false)
    (hw : w ≠ "") (htok : tok ≠ "")
    (hmap : (startRunning job w tok lease now).jobMapping = .ok data) :
    ExecutionJob.Step (.claim w lease domains) job data.toJob ∧
      data.toJob = startRunning job w tok lease now := by
  obtain ⟨error, result, hstored, herror, hresult⟩ := ExecutionJob.toJob_jobMapping hmap
    hs.payload (by simpa [startRunning] using hw) (by simpa [startRunning] using htok)
  obtain rfl := herror hs.lastError
  obtain rfl := hresult hs.result
  exact ⟨hstored ▸ .claimed w tok lease _ now domains hwaiting hcancel, hstored⟩

theorem flagged_stored (hs : job.Storable) (hactive : job.status.isTerminal = false)
    (hmap : (flagCancel job now).jobMapping = .ok data) :
    ExecutionJob.Step (.requestCancel job.jobId) job data.toJob ∧
      data.toJob = flagCancel job now := by
  have hkept : (flagCancel job now).spec = job.spec ∧
      (flagCancel job now).workerId = job.workerId ∧
      (flagCancel job now).leaseToken = job.leaseToken ∧
      (flagCancel job now).lastError = job.lastError ∧
      (flagCancel job now).result = job.result := by
    simp only [flagCancel]
    split <;> exact ⟨rfl, rfl, rfl, rfl, rfl⟩
  obtain ⟨hspec, hworker, htoken, hlast, hres⟩ := hkept
  obtain ⟨error, result, hstored, herror, hresult⟩ := ExecutionJob.toJob_jobMapping hmap
    (by rw [hspec]; exact hs.payload) (by rw [hworker]; exact hs.workerId)
    (by rw [htoken]; exact hs.leaseToken)
  obtain rfl := herror (by rw [hlast]; exact hs.lastError)
  obtain rfl := hresult (by rw [hres]; exact hs.result)
  refine ⟨?_, hstored⟩
  rw [hstored]
  simp only [flagCancel]
  rcases job.status.waiting_running_or_terminal with hwaiting | hrunning | hterminal
  · rw [if_pos hwaiting]
    exact .withdrawn now hwaiting
  · have hn : job.status.isWaiting = false := by rw [hrunning]; rfl
    rw [hn, if_neg (by simp)]
    exact .flagged now hrunning
  · rw [hactive] at hterminal
    cases hterminal

/-- The fields that the branches of a recovery share. -/
theorem recoverMutate_kept (job : ExecutionJob T) (now : T) :
    (recoverMutate job now).spec = job.spec ∧ (recoverMutate job now).workerId = none ∧
      (recoverMutate job now).leaseToken = none ∧ (recoverMutate job now).lastError ≠ some "" ∧
      (recoverMutate job now).result = job.result := by
  simp only [recoverMutate]
  split
  · exact ⟨rfl, rfl, rfl, by simp, rfl⟩
  · split
    · exact ⟨rfl, rfl, rfl, by simp, rfl⟩
    · split <;> exact ⟨rfl, rfl, rfl, by simp, rfl⟩

theorem recovered_stored (hs : job.Storable) (hexpired : leaseExpired job now = true)
    (hmap : (recoverMutate job now).jobMapping = .ok data) :
    ExecutionJob.Step .recoverExpiredLeases job data.toJob ∧
      data.toJob = recoverMutate job now := by
  simp only [leaseExpired, Bool.and_eq_true, decide_eq_true_eq] at hexpired
  have hr : job.status = .running := hexpired.1
  have ha : job.status.isTerminal = false := by rw [hr]; rfl
  have hstored : data.toJob = recoverMutate job now := by
    obtain ⟨hspec, hworker, htoken, hlast, hres⟩ := recoverMutate_kept job now
    obtain ⟨error, result, hstored, herror, hresult⟩ := ExecutionJob.toJob_jobMapping hmap
      (by rw [hspec]; exact hs.payload) (by simp [hworker]) (by simp [htoken])
    obtain rfl := herror hlast
    obtain rfl := hresult (by rw [hres]; exact hs.result)
    exact hstored
  refine ⟨?_, hstored⟩
  rw [hstored]
  simp only [recoverMutate]
  split
  · exact .ended .cancelled _ now rfl ha (.inr rfl)
  · rename_i hcancel
    split
    · exact .ended .failed _ now rfl ha (.inl rfl)
    · split
      · exact .ended .failed _ now rfl ha (.inl rfl)
      · rename_i hattempt
        exact .requeued _ now now hr (by simpa using hcancel) (Nat.lt_of_not_le hattempt)

end MaestroKernel.Durable.Redis
