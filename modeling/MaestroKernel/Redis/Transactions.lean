import MaestroKernel.Redis.Guarantee
import MaestroKernel.Durable.Idempotency

/-! # Every client meets the contract -/

namespace MaestroKernel.Durable.Redis

open Interaction

set_option linter.unusedSectionVars false

variable {T : Type} [LinearOrder T] [Zero T] [FloatArith T]

/-- How a submit with a JSON payload ends. -/
def SubmitPost (t : ℕ) (spec : JobSpec T) (v : Result T) (s : Server T) : Prop :=
  spec.payload.isJson = true → s.board.Submitted (s.uuids · = .used t) spec v

def contract (cls : StoreClass) : Contract (Op T) (Command T) (Result T) (Server T) where
  inv := Server.Inv cls
  unborn := Unnamed
  rely := Rely
  guar := Guar cls
  post t op v s :=
    match op with
    | .submit spec => SubmitPost t spec v s
    | _ => True

variable {tostring : T → T} {cls : StoreClass} {t : ℕ} {op : Op T}

theorem contract_sound : (contract (T := T) cls).Sound where
  rely_refl := Rely.refl
  rely_trans _ _ _ _ h h' := h.trans h'
  guar_rely _ _ _ _ _ _ hne hi h := h.rely hi hne
  guar_inv _ _ _ _ _ _ h := h.inv
  rely_unborn _ _ _ hr h := h.rely hr

theorem SubmitPost.rely {spec : JobSpec T} {v : Result T} {s s' : Server T} (hr : Rely t s s')
    (h : SubmitPost t spec v s) : SubmitPost t spec v s' :=
  fun hjson => (h hjson).mono hr.keys hr.jobs hr.used

/-! ## Rules for the operations that promise nothing at their end -/

/-- The program keeps the guarantee from every state of the server. -/
def Always (tostring : T → T) (cls : StoreClass) (t : ℕ) (op : Op T) {α : Type}
    (p : Client T α) : Prop :=
  ∀ s, s.Inv cls → Safe (machine tostring cls) (contract cls) t op (fun _ _ => True) p s

namespace Always

variable {α β : Type}

theorem done (a : α) : Always tostring cls t op (.done a : Client T α) :=
  fun _ _ _ _ _ => trivial

theorem bind {p : Client T α} {f : α → Client T β} (hp : Always tostring cls t op p)
    (hf : ∀ a, Always tostring cls t op (f a)) : Always tostring cls t op (p >>= f) :=
  fun s hi => Safe.bind contract_sound ((hp s hi).weaken fun a s' hi' _ => hf a s' hi')

theorem retry {exhausted : β} {body : Client T (Option β)}
    (hbody : Always tostring cls t op body) (n : ℕ) :
    Always tostring cls t op (.retry exhausted body n) := by
  intro s hi
  refine Safe.retry contract_sound (P := fun _ _ => True) (fun _ s hi _ => ?_)
    (fun _ _ _ => trivial) n (fun _ _ _ _ => trivial) (fun _ _ _ _ _ => trivial) hi trivial
  exact (hbody s hi).weaken fun r _ _ _ => by cases r <;> trivial

/-- A command whose replies are never refused and that stores nothing. -/
theorem of_read {c : Command T} {k : c.Response → Client T β}
    (hc : ∀ e s r s', Server.exec tostring e t c s = some (r, s') → s' = s)
    (hk : ∀ r, Always tostring cls t op (k r)) : Always tostring cls t op (.call c k) := by
  intro s _ s₁ e r s₂ _ hi he
  obtain rfl := hc e s₁ r s₂ he
  exact ⟨.read hi, hk r _ hi⟩

theorem time {k : T → Client T β} (hk : ∀ now, Always tostring cls t op (k now)) :
    Always tostring cls t op (Redis.time >>= k) :=
  of_read (fun _ _ _ _ h => (Prod.mk.inj (Option.some.inj h)).2.symm) hk

theorem hgetall {id : String} {k : Option (JobHash T) → Client T β}
    (hk : ∀ data, Always tostring cls t op (k data)) :
    Always tostring cls t op (Redis.hgetall id >>= k) :=
  of_read (fun _ _ _ _ h => (Prod.mk.inj (Option.some.inj h)).2.symm) hk

theorem zrangebyscore {key : ZKey} {max : T} {num : Option ℕ} {k : List String → Client T β}
    (hk : ∀ ids, Always tostring cls t op (k ids)) :
    Always tostring cls t op (Redis.zrangebyscore key max num >>= k) :=
  of_read (fun _ _ _ _ h => (Prod.mk.inj (Option.some.inj h)).2.symm) hk

theorem zrem {key : ZKey} (hkey : key ≠ .running) {ids : List String} {k : Unit → Client T β}
    (hop : ∀ spec, op ≠ .submit spec) (hk : Always tostring cls t op (k ())) :
    Always tostring cls t op (Redis.zrem key ids >>= k) := by
  intro s _ s₁ e r s₂ _ hi he
  obtain ⟨-, rfl⟩ := Prod.mk.inj (Option.some.inj he)
  have hg : Guar cls t op (.zrem key ids) s₁ (s₁.write (.zrem key ids)) := .zrem hi hkey ids hop
  exact ⟨hg, hk _ hg.inv⟩

end Always

section Transactions

variable {α β : Type} {Q : β → Server T → Prop}

theorem always_transaction {id : String} {keys : List Key} (hkey : Key.job id ∈ keys)
    {k : Option (JobHash T) → Client T β}
    (h : ∀ data s, s.Inv cls → Seen t id data s →
      Safe (machine tostring cls) (contract cls) t op (fun _ _ => True) (k data) s) :
    Always tostring cls t op (watch keys >>= fun _ => hgetall id >>= k) := by
  intro s _ s₁ e r s₂ _ hi he
  obtain ⟨-, rfl⟩ := Prod.mk.inj (Option.some.inj he)
  have hg : Guar cls t op (.watch keys) s₁ _ :=
    .setWatching hi (keys.map fun key => (key, s₁.version key))
  refine ⟨hg, fun s₃ e' r' s₄ hr hi₃ he' => ?_⟩
  obtain ⟨rfl, rfl⟩ := Prod.mk.inj (Option.some.inj he')
  refine ⟨.read hi₃, h _ _ hi₃ ?_⟩
  refine ⟨s₁.version (.job id), ?_, hr.later.version_mono (.job id), fun _ => rfl⟩
  rw [hr.watching]
  simpa using hkey

/-- The block of a transaction, from a fact that the other clients keep. -/
theorem safe_transact {ws : List (Write T)} {a : α} {P : Server T → Prop} {s : Server T}
    (hP : ∀ s s', Rely t s s' → P s → P s') (hs : P s)
    (hguar : ∀ s, s.Inv cls → P s → s.intact t = true →
      Guar cls t op (.exec ws) s (s.committed t ws)) :
    Safe (machine tostring cls) (contract cls) t op (fun _ _ => True) (transact ws a) s := by
  intro s₁ e r s₂ hr hi he
  have hs₁ := hP s s₁ hr hs
  change Server.exec tostring e t (.exec ws) s₁ = some (r, s₂) at he
  simp only [Server.exec] at he
  split at he
  · rename_i hok
    obtain ⟨rfl, rfl⟩ := Prod.mk.inj (Option.some.inj he)
    exact ⟨hguar s₁ hi hs₁ hok, fun _ _ _ => trivial⟩
  · obtain ⟨rfl, rfl⟩ := Prod.mk.inj (Option.some.inj he)
    exact ⟨.setWatching hi [], fun _ _ _ => trivial⟩

end Transactions

end MaestroKernel.Durable.Redis
