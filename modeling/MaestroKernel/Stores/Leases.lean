import MaestroKernel.Stores.Submissions

/-! # Lease exclusivity

A lease is a pair of a worker and a token. The token of a claim is new, so a pair
that lost its job cannot come back, and only the pair that holds a job changes it. -/

namespace MaestroKernel.Durable

open Interaction

namespace DurableStore

variable {T : Type} [LT T] [Zero T] {D : DurableStore T}

/-- The event turns the job under `id` into a succeeded one. -/
def Succeeds (D : DurableStore T) (a b : D.Config) (id : String) : Prop :=
  (∃ job, D.job? b id = some job ∧ job.status = .succeeded) ∧
    ∀ job, D.job? a id = some job → job.status ≠ .succeeded

/-- Lease exclusivity from a configuration on. -/
structure Exclusive (D : DurableStore T) (a : D.Config) : Prop where
  /-- At most one pair holds a job. -/
  one_pair : ∀ {id job w tok w' tok'}, D.job? a id = some job → job.HeldBy w tok →
    job.HeldBy w' tok' → w = w' ∧ tok = tok'
  /-- A lease holder's operation changes only the job it names, under the pair that holds it. -/
  changed_by_holder : ∀ {b ev t e op c jobId w tok id job}, D.machine.next ev a = some b →
    D.Performs a ev t e op c → op.lease? = some (jobId, w, tok) → D.job? a id = some job →
      D.job? b id ≠ some job → id = jobId ∧ job.HeldBy w tok
  /-- The token of a new lease is the token of no lease before. -/
  fresh_token : ∀ {b ev id job job' w tok}, D.machine.next ev a = some b →
    D.job? a id = some job → ¬ job.HeldBy w tok → D.job? b id = some job' → job'.HeldBy w tok →
      ∀ p, D.machine.Reaches D.Any D.init p → D.machine.Reaches D.Any p a → ∀ old w',
        D.job? p id = some old → ¬ old.HeldBy w' tok
  /-- After a pair has lost the job, none of its operations changes the job. -/
  lost_for_ever : ∀ {b c d ev t e op cmd id job w tok}, D.job? a id = some job → job.HeldBy w tok →
    D.machine.Reaches D.Any a b → (∀ job, D.job? b id = some job → ¬ job.HeldBy w tok) →
      D.machine.Reaches D.Any b c → D.machine.next ev c = some d → D.Performs c ev t e op cmd →
        op.lease? = some (id, w, tok) → D.job? d id = D.job? c id
  /-- A job becomes succeeded once. -/
  succeeds_once : ∀ {b c d ev ev' id}, D.machine.next ev a = some b → D.Succeeds a b id →
    D.machine.Reaches D.Any b c → D.machine.next ev' c = some d → ¬ D.Succeeds c d id

theorem Refines.fresh_token (hD : D.Refines) {a b : D.Config}
    (ha : D.machine.Reaches D.Any D.init a) {ev : D.Event} (h : D.machine.next ev a = some b)
    {id : String} {job job' : ExecutionJob T} {w tok : String} (hj : D.job? a id = some job)
    (hn : ¬ job.HeldBy w tok) (hj' : D.job? b id = some job') (hheld : job'.HeldBy w tok) :
    tok ∉ (D.board a.shared).spent := by
  rcases hD.next ha h with hsame | ⟨_, _, op, _, _, hstep⟩
  · rw [job?, hsame] at hj'
    exact absurd (Option.some.inj (hj'.symm.trans hj) ▸ hheld) hn
  · obtain ⟨j, hj₁, hedge⟩ := hstep.of_some (hD.inv ha) hj
    obtain rfl : j = job' := Option.some.inj (hj₁.symm.trans hj')
    rcases hedge with rfl | ⟨-, hfresh⟩
    · exact absurd hheld hn
    · rcases hfresh w tok hheld with hold | hnew
      · exact absurd hold hn
      · exact hnew.1

theorem Refines.lost_for_ever (hD : D.Refines) {a b c d : D.Config}
    (ha : D.machine.Reaches D.Any D.init a) {id : String} {job : ExecutionJob T} {w tok : String}
    (hj : D.job? a id = some job) (hheld : job.HeldBy w tok) (hab : D.machine.Reaches D.Any a b)
    (hlost : ∀ job, D.job? b id = some job → ¬ job.HeldBy w tok)
    (hbc : D.machine.Reaches D.Any b c) {ev : D.Event} (h : D.machine.next ev c = some d) {t : ℕ}
    {e : Env T} {op : Op T} {cmd : D.Command} (hp : D.Performs c ev t e op cmd)
    (hop : op.lease? = some (id, w, tok)) : D.job? d id = D.job? c id := by
  have hc := (ha.trans hab).trans hbc
  obtain ⟨j, hj₁, -⟩ := (hD.run ha (hab.trans hbc)).spec (hD.inv ha) hj
  by_contra hne
  have hchanged : D.job? d id ≠ some j := fun he => hne (he.trans hj₁.symm)
  have hheld' := (hD.changed_by_holder hc h hp hop hj₁ hchanged).2
  exact hD.lost_lease ha hab hbc hj hheld hlost j hj₁ hheld'

theorem Refines.exclusive (hD : D.Refines) {a : D.Config} (ha : D.machine.Reaches D.Any D.init a) :
    D.Exclusive a where
  one_pair _ h h' := h.unique h'
  changed_by_holder h hp hop hj hne := hD.changed_by_holder ha h hp hop hj hne
  fresh_token h hj hn hj' hheld p hp hpa old w' hold hheld' :=
    hD.fresh_token ha h hj hn hj' hheld
      ((hD.run hp hpa).spent_mono ((hD.inv hp).spent_token hold hheld'))
  lost_for_ever hj hheld hab hlost hbc h hp hop :=
    hD.lost_for_ever ha hj hheld hab hlost hbc h hp hop
  succeeds_once {b c d ev ev' id} h hs hbc h' hs' := by
    obtain ⟨job, hj, hsucceeded⟩ := hs.1
    have hb := ha.tail ev trivial h
    have hterminal : job.status.isTerminal = true := by rw [hsucceeded]; rfl
    exact hs'.2 job (hD.terminal hb hbc hj hterminal) hsucceeded

end DurableStore

/-! ## Two claims of one job -/

namespace Reissue

def spec : JobSpec ℕ := .plain (.immediate 2) (.dict [])

abbrev store : DurableStore ℕ := Backend.store .memory

/-- A job is submitted and claimed. -/
def claiming : List (Interaction.Event (Op ℕ) (Env ℕ)) :=
  [.start 0 (.submit spec), .run 0 ⟨1, "job"⟩,
    .start 1 (.claim "a" 10 none), .run 1 ⟨1, "old"⟩]

/-- Its lease runs out, it is claimed again, and the first worker calls. -/
def reissuing : List (Interaction.Event (Op ℕ) (Env ℕ)) :=
  [.start 2 .recoverExpiredLeases, .run 2 ⟨11, "u"⟩,
    .start 3 (.claim "a" 10 none), .run 3 ⟨12, "new"⟩, .start 4 (.succeed "job" "a" "old" .none)]

/-- The token under which the job runs. -/
def token (a : store.Config) : Option String := (store.job? a "job").bind fun job =>
  if job.status = .running ∧ job.workerId = some "a" then job.leaseToken else none

/-- The first worker calls with its old token. -/
def calling (a : store.Config) : Bool :=
  match a.threads 4 with
  | some (op, .call ..) => op = .succeed "job" "a" "old" .none
  | _ => false

theorem runs : (store.machine.run claiming store.init).any (fun a => token a = some "old" &&
    (store.machine.run reissuing a).any fun b => token b = some "new" && calling b &&
      (store.machine.next (.run 4 ⟨13, "v"⟩) b).isSome) = true := by
  decide +kernel

theorem heldBy_of_token {a : store.Config} {tok : String} (h : token a = some tok) :
    ∃ job, store.job? a "job" = some job ∧ job.HeldBy "a" tok := by
  obtain ⟨job, hj, htoken⟩ := Option.bind_eq_some_iff.mp h
  split at htoken
  · rename_i hrunning
    exact ⟨job, hj, hrunning.1, hrunning.2, htoken⟩
  · cases htoken

end Reissue

/-- Lease exclusivity of the in-memory store and of both Redis stores, along every
interleaving of any number of clients. -/
theorem leases_exclusive {T : Type} [LinearOrder T] [Zero T] [FloatArith T] (b : Backend T)
    (a : b.store.Config) (ha : b.store.machine.Reaches b.store.Any b.store.init a) :
    b.store.Exclusive a :=
  b.refines.exclusive ha

/-- The worker of the first claim calls after the second claim, and changes nothing. -/
theorem leases_exclusive_reissued : ∃ a b c : Reissue.store.Config,
    Reissue.token a = some "old" ∧ Reissue.store.machine.Reaches Reissue.store.Any a b ∧
      Reissue.token b = some "new" ∧ Reissue.calling b = true ∧
        Reissue.store.machine.next (.run 4 ⟨13, "v"⟩) b = some c ∧
          Reissue.store.job? c "job" = Reissue.store.job? b "job" := by
  obtain ⟨a, hrun, ha⟩ := (Option.any_eq_true _ _).mp Reissue.runs
  obtain ⟨hold, hrest⟩ := Bool.and_eq_true_iff.mp ha
  obtain ⟨b, hrun', hb⟩ := (Option.any_eq_true _ _).mp hrest
  obtain ⟨hb, hsome⟩ := Bool.and_eq_true_iff.mp hb
  obtain ⟨hnew, hcalling⟩ := Bool.and_eq_true_iff.mp hb
  obtain ⟨c, hc⟩ := Option.isSome_iff_exists.mp hsome
  have hold := of_decide_eq_true hold
  have hnew := of_decide_eq_true hnew
  have hab : Reissue.store.machine.Reaches Reissue.store.Any a b := Machine.run_reaches hrun'
  obtain ⟨job, hj, hheld⟩ := Reissue.heldBy_of_token hold
  obtain ⟨job', hj', hheld'⟩ := Reissue.heldBy_of_token hnew
  have hlost : ∀ j, Reissue.store.job? b "job" = some j → ¬ j.HeldBy "a" "old" := by
    intro j hj₁ h
    obtain rfl := Option.some.inj (hj'.symm.trans hj₁)
    exact absurd (hheld'.unique h).2 (by decide)
  have hexclusive := leases_exclusive Backend.memory a (Machine.run_reaches hrun)
  have hp : ∃ cmd, Reissue.store.Performs b (.run 4 ⟨13, "v"⟩) 4 ⟨13, "v"⟩
      (.succeed "job" "a" "old" .none) cmd := by
    simp only [Reissue.calling] at hcalling
    split at hcalling
    · rename_i op cmd k hthread
      exact ⟨cmd, rfl, k, by rw [hthread, of_decide_eq_true hcalling]⟩
    · cases hcalling
  obtain ⟨cmd, hp⟩ := hp
  exact ⟨a, b, c, hold, hab, hnew, hcalling, hc,
    hexclusive.lost_for_ever hj hheld hab hlost (.refl b) hc hp rfl⟩

end MaestroKernel.Durable
