import MaestroKernel.Redis.Submission

/-! # The Redis store refines the board

Every configuration that the clients reach is safe, so each of their commands meets
its guarantee; what the guarantee says of the board is what a durable store owes. -/

namespace MaestroKernel.Durable.Redis

open Interaction

set_option linter.unusedSectionVars false

variable {T : Type} [LinearOrder T] [Zero T] [FloatArith T] {tostring : T → T}
  {cls : StoreClass}

/-- The client that drew a uuid, once the uuid names a job or a lease. -/
def Server.creator (s : Server T) (uuid : String) : Option ℕ :=
  match s.uuids uuid with
  | .used t => some t
  | _ => none

theorem Server.creator_eq_some_iff (s : Server T) (uuid : String) (t : ℕ) :
    s.creator uuid = some t ↔ s.uuids uuid = .used t := by
  rw [creator]
  split
  · rename_i u hu
    simp [hu]
  · rename_i hn
    constructor
    · intro h
      cases h
    · intro h
      exact absurd h (hn t)

/-- `RedisDurableJobStore` and `OptimizedRedisDurableJobStore` -/
def redis (tostring : T → T) (cls : StoreClass) : DurableStore T where
  Command := Command T
  Response := Command.Response
  State := Server T
  Data := Data T
  machine := machine tostring cls
  start := .empty
  data := Server.data
  board := Server.board
  creator := Server.creator
  commits _ t _ c s := Commits t c s
  strands _ _ _ _ := False

theorem redis_safe {a : (redis tostring cls).Config}
    (ha : (redis tostring cls).machine.Reaches (redis tostring cls).Any (redis tostring cls).init a) :
    a.Safe (machine tostring cls) (contract (T := T) cls) := by
  have hstart : (redis tostring cls).init.Safe (machine tostring cls) (contract cls) :=
    Config.safe_init _ (Server.inv_empty cls) fun t u => by simp [redis, Server.empty]
  exact hstart.reaches contract_sound implemented ha

theorem redis_guar {a b : (redis tostring cls).Config} {t : ℕ} {e : Env T} {op : Op T}
    {c : Command T}
    (ha : (redis tostring cls).machine.Reaches (redis tostring cls).Any (redis tostring cls).init a)
    (hp : (redis tostring cls).Performs a (.run t e) t e op c)
    (hnext : (redis tostring cls).machine.next (.run t e) a = some b) :
    Server.Inv cls a.shared ∧ Guar cls t op c a.shared b.shared := by
  obtain ⟨-, k, hk⟩ := hp
  have hsafe := redis_safe ha
  obtain ⟨op', c', k', hthread, hguar⟩ := hsafe.guar contract_sound hnext
  rw [hk] at hthread
  obtain ⟨rfl, hcall⟩ := Prod.mk.inj (Option.some.inj hthread)
  obtain ⟨rfl, -⟩ := Prog.call.inj hcall
  exact ⟨hsafe.1, hguar⟩

theorem redis_refines : (redis tostring cls).Refines where
  start := by
    simp [redis, Server.board, Server.empty, Board.empty]
  step {a b t e op c} ha hi hp hnext := by
    obtain ⟨hinv, hg⟩ := redis_guar ha hp hnext
    refine ⟨hg.step, ?_, fun id job job' _ hj' _ => .inl (hg.inv.wellFormed hj')⟩
    rcases hg.commits with hsame | hcommits
    · exact .inl hsame
    · exact .inr hcommits

theorem redis_submits : (redis tostring cls).Submits fun spec => spec.payload.isJson = true where
  issues {a b t e op c} ha hp hnext := by
    obtain ⟨-, hg⟩ := redis_guar ha hp hnext
    have hmono := hg.step.spent_mono
    -- A uuid that is used after the command is used by its client, or was used before.
    have hused : ∀ {id u}, b.shared.uuids id = .used u → u = t ∨ a.shared.uuids id = .used u := by
      intro id u hu
      by_cases hne : u = t
      · exact .inl hne
      · exact .inr ((hg.used u id hne).mp hu)
    refine ⟨fun id hid => ?_, fun id hid hnew => ?_⟩
    · obtain ⟨u, hu⟩ := hid
      obtain ⟨u', hu'⟩ := hmono ⟨u, hu⟩
      have hsame : u' = u := by
        rcases hused hu' with rfl | hold
        · by_contra hne
          have h := (hg.used u id (Ne.symm hne)).mpr hu
          rw [hu'] at h
          exact hne (UuidState.used.inj h)
        · rw [hu] at hold
          exact (UuidState.used.inj hold).symm
      subst hsame
      exact ((b.shared.creator_eq_some_iff id u').mpr hu').trans
        ((a.shared.creator_eq_some_iff id u').mpr hu).symm
    · obtain ⟨u, hu⟩ := hid
      rcases hused hu with rfl | hold
      · exact (b.shared.creator_eq_some_iff id u).mpr hu
      · exact absurd ⟨u, hold⟩ hnew
  finished {a t spec v} ha ht hjson := by
    have hpost := (redis_safe ha).post contract_sound ht hjson
    exact hpost.mono (fun h => h) (fun h => ⟨_, h, rfl⟩) fun id =>
      a.shared.creator_eq_some_iff id t
  used_key {a b t e spec p} ha ht hnext hused := by
    obtain ⟨op, c, k, r, hthread, -, -⟩ := Machine.next_run hnext
    obtain ⟨rfl, -⟩ := Prod.mk.inj (Option.some.inj (hthread.symm.trans ht))
    exact (redis_guar ha ⟨rfl, k, hthread⟩ hnext).2.used_key spec rfl hused

end MaestroKernel.Durable.Redis
