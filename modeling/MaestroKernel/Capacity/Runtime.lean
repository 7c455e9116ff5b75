import MaestroKernel.Library.SortedSet
import MaestroKernel.Library.Table
import Mathlib.Data.String.Basic

/-! # Weighted runtime capacity

A request reserves a weight for as long as its lease runs. The in-memory backend holds one table of
leases on a clock in seconds; the Redis backend holds, for all leases and for each actor, a sorted
set of expiries and a hash of weights, on a clock in milliseconds. -/

namespace MaestroKernel.Capacity.Runtime

/-- The limits under which the middleware reserves, each at least 1. -/
structure CapacityPolicy where
  globalLimitOcu : ℤ
  actorLimitOcu : ℤ
  leaseSeconds : ℤ
  global_pos : 1 ≤ globalLimitOcu
  actor_pos : 1 ≤ actorLimitOcu

structure CapacityReservation where
  leaseId : String
  weight : ℤ
  actorKey : Option String

structure CapacityDecision where
  admitted : Bool
  globalUsed : ℤ
  actorUsed : ℤ
  reason : String

/-! ## In memory -/

/-- An entry of `_leases`. -/
structure Lease where
  leaseId : String
  expiry : ℚ
  weight : ℤ
  actorKey : Option String

/-- `_leases` is a dict under the lease id. -/
structure InMemoryCapacityBackend where
  leases : List Lease
  nodup : (leases.map Lease.leaseId).Nodup

namespace InMemoryCapacityBackend

def empty : InMemoryCapacityBackend := ⟨[], List.nodup_nil⟩

def filter (s : InMemoryCapacityBackend) (p : Lease → Bool) : InMemoryCapacityBackend :=
  ⟨s.leases.filter p, s.nodup.sublist (List.filter_sublist.map _)⟩

/-- `_leases.get(lease_id)` -/
def get? (s : InMemoryCapacityBackend) (leaseId : String) : Option Lease :=
  Table.get? Lease.leaseId s.leases leaseId

/-- `_leases[lease_id] = …` -/
def set (s : InMemoryCapacityBackend) (lease : Lease) : InMemoryCapacityBackend :=
  ⟨Table.upsert Lease.leaseId s.leases lease, Table.nodup_upsert s.nodup⟩

def cleanup (s : InMemoryCapacityBackend) (now : ℚ) : InMemoryCapacityBackend :=
  s.filter fun lease => ¬ lease.expiry ≤ now

/-- The first of `_usage` -/
def globalUsed (s : InMemoryCapacityBackend) : ℤ := (s.leases.map Lease.weight).sum

/-- The second of `_usage` -/
def actorUsed (s : InMemoryCapacityBackend) : Option String → ℤ
  | none => 0
  | some actor =>
    ((s.leases.filter fun lease => lease.actorKey = some actor).map Lease.weight).sum

def reserve (P : CapacityPolicy) (r : CapacityReservation) (now : ℚ) (s : InMemoryCapacityBackend) :
    CapacityDecision × InMemoryCapacityBackend :=
  let s := s.cleanup now
  let globalUsed := s.globalUsed
  let actorUsed := s.actorUsed r.actorKey
  if globalUsed + r.weight > P.globalLimitOcu then (⟨false, globalUsed, actorUsed, "global"⟩, s)
  else if r.actorKey.isSome ∧ actorUsed + r.weight > P.actorLimitOcu then
    (⟨false, globalUsed, actorUsed, "actor"⟩, s)
  else
    (⟨true, globalUsed + r.weight,
      if r.actorKey.isSome then actorUsed + r.weight else actorUsed, ""⟩,
      s.set ⟨r.leaseId, now + P.leaseSeconds, r.weight, r.actorKey⟩)

def renew (P : CapacityPolicy) (r : CapacityReservation) (now : ℚ) (s : InMemoryCapacityBackend) :
    Bool × InMemoryCapacityBackend :=
  let s := s.cleanup now
  match s.get? r.leaseId with
  | none => (false, s)
  | some current =>
    if current.weight ≠ r.weight ∨ current.actorKey ≠ r.actorKey then (false, s)
    else (true, s.set { current with leaseId := r.leaseId, expiry := now + P.leaseSeconds })

def release (r : CapacityReservation) (s : InMemoryCapacityBackend) : InMemoryCapacityBackend :=
  s.filter fun lease => lease.leaseId ≠ r.leaseId

end InMemoryCapacityBackend

/-! ## Redis -/

/-- The keys `…:global:…` and `…:actor:…:…`. -/
inductive Scope where
  | allLeases
  | actor (name : String)
deriving DecidableEq

/-- A hash of weights under lease ids. -/
structure Hash where
  rows : List (String × ℤ)
  nodup : (rows.map Prod.fst).Nodup

namespace Hash

def empty : Hash := ⟨[], List.nodup_nil⟩

def hget (h : Hash) (id : String) : Option ℤ := (Table.get? Prod.fst h.rows id).map Prod.snd

def hset (h : Hash) (id : String) (weight : ℤ) : Hash :=
  ⟨Table.upsert Prod.fst h.rows (id, weight), Table.nodup_upsert h.nodup⟩

def hdel (h : Hash) (id : String) : Hash :=
  ⟨h.rows.filter fun row => row.1 ≠ id, h.nodup.sublist (List.filter_sublist.map _)⟩

def hvals (h : Hash) : List ℤ := h.rows.map Prod.snd

end Hash

/-- The value under a key, and the time in milliseconds after which the key is expired. -/
structure Stored (V : Type) where
  value : V
  deadline : Option ℤ

def Stored.expired {V : Type} (k : Stored V) (now : ℤ) : Bool :=
  k.deadline.any fun deadline => deadline < now

/-- The keys of one scope: `…:expiry` and `…:weights`. -/
structure Cell where
  expiry : Stored (SortedSet String ℤ)
  weights : Stored Hash

namespace Cell

def absent : Cell := ⟨⟨.empty, none⟩, ⟨.empty, none⟩⟩

variable (c : Cell) (now : ℤ)

/-- What commands at `now` find under the two keys. -/
def read : Cell where
  expiry := if c.expiry.expired now then ⟨.empty, none⟩ else c.expiry
  weights := if c.weights.expired now then ⟨.empty, none⟩ else c.weights

/-- A key is deleted with its last member, and its time to live with it. -/
def zrem (id : String) : Cell :=
  let members := (c.read now).expiry.value.zrem [id]
  { c.read now with
    expiry := if members.card = 0 then ⟨.empty, none⟩ else ⟨members, (c.read now).expiry.deadline⟩ }

def hdel (id : String) : Cell :=
  let hash := (c.read now).weights.value.hdel id
  { c.read now with
    weights := if hash.rows = [] then ⟨.empty, none⟩ else ⟨hash, (c.read now).weights.deadline⟩ }

def zadd (score : ℤ) (id : String) : Cell :=
  { c.read now with
    expiry := ⟨(c.read now).expiry.value.zadd id score, (c.read now).expiry.deadline⟩ }

def hset (id : String) (weight : ℤ) : Cell :=
  { c.read now with
    weights := ⟨(c.read now).weights.value.hset id weight, (c.read now).weights.deadline⟩ }

def zscore (id : String) : Option ℤ := (c.read now).expiry.value.score id

def hget (id : String) : Option ℤ := (c.read now).weights.value.hget id

/-- `EXPIRE` of both keys, with a time to live in seconds; an absent key stays absent. -/
def expire (ttl : ℤ) : Cell where
  expiry := if (c.read now).expiry.value.card = 0 then ⟨.empty, none⟩
    else ⟨(c.read now).expiry.value, some (now + ttl * 1000)⟩
  weights := if (c.read now).weights.value.rows = [] then ⟨.empty, none⟩
    else ⟨(c.read now).weights.value, some (now + ttl * 1000)⟩

/-- `cleanup` of the script -/
def cleanup : Cell :=
  ((c.read now).expiry.value.rangeByScore now).foldl (fun c id => (c.zrem now id).hdel now id) c

/-- `total` of the script -/
def total : ℤ := (c.read now).weights.value.hvals.sum

/-- `remove_lease` for one scope -/
def remove (id : String) : Cell := (c.zrem now id).hdel now id

end Cell

abbrev Keyspace : Type := Scope → Cell

namespace Keyspace

/-- A script changes the keys of one scope. -/
def update (s : Keyspace) (k : Scope) (f : Cell → Cell) : Keyspace := Function.update s k (f (s k))

end Keyspace

/-- `math.max(math.ceil((expiry - now) / 1000) * 2, 10)` -/
def ttl (expiry now : ℤ) : ℤ := max (⌈((expiry - now : ℤ) : ℚ) / 1000⌉ * 2) 10

/-- `_REDIS_RESERVE_SCRIPT` -/
def reserveScript (actor : Scope) (now expiry weight globalLimit actorLimit : ℤ) (leaseId : String)
    (hasActor : Bool) (s : Keyspace) : (ℤ × ℤ × ℤ × ℤ) × Keyspace :=
  let s := s.update .allLeases fun c => c.cleanup now
  let globalUsed := (s .allLeases).total now
  if globalUsed + weight > globalLimit then ((0, globalUsed, 0, 1), s)
  else
    let s := if hasActor then s.update actor fun c => c.cleanup now else s
    let actorUsed := if hasActor then (s actor).total now else 0
    if hasActor ∧ actorUsed + weight > actorLimit then ((0, globalUsed, actorUsed, 2), s)
    else
      let admitted := fun c : Cell =>
        ((c.zadd now expiry leaseId).hset now leaseId weight).expire now (ttl expiry now)
      let s := s.update .allLeases admitted
      let s := if hasActor then s.update actor admitted else s
      ((1, globalUsed + weight, actorUsed + if hasActor then weight else 0, 0), s)

/-- What the renewal finds of a lease in one scope: its weight, unless it has expired. -/
def Cell.held (c : Cell) (now : ℤ) (leaseId : String) : Option ℤ :=
  match c.zscore now leaseId, c.hget now leaseId with
  | some expiry, some weight => if expiry ≤ now then none else some weight
  | _, _ => none

def removeLease (actor : Scope) (now : ℤ) (leaseId : String) (hasActor : Bool) (s : Keyspace) :
    Keyspace :=
  let s := s.update .allLeases fun c => c.remove now leaseId
  if hasActor then s.update actor fun c => c.remove now leaseId else s

/-- `_REDIS_RENEW_SCRIPT` -/
def renewScript (actor : Scope) (now expiry : ℤ) (leaseId : String) (hasActor : Bool)
    (s : Keyspace) : ℤ × Keyspace :=
  let renewed := fun c : Cell => (c.zadd now expiry leaseId).expire now (ttl expiry now)
  match (s .allLeases).held now leaseId with
  | none => (0, removeLease actor now leaseId hasActor s)
  | some globalWeight =>
    if hasActor then
      match (s actor).held now leaseId with
      | none => (0, removeLease actor now leaseId hasActor s)
      | some actorWeight =>
        if actorWeight ≠ globalWeight then (0, removeLease actor now leaseId hasActor s)
        else (1, (s.update .allLeases renewed).update actor renewed)
    else (1, s.update .allLeases renewed)

/-- `_keys`: the scope of an actor, `actor_key or "none"` -/
def actorScope : Option String → Scope
  | none => .actor "none"
  | some key => .actor (if key = "" then "none" else key)

/-- `int(time.time() * 1000)` -/
def milliseconds (now : ℚ) : ℤ := if 0 ≤ now then ⌊now * 1000⌋ else ⌈now * 1000⌉

/-- The reasons under the code that the script returns. -/
def reason (code : ℤ) : String := if code = 1 then "global" else if code = 2 then "actor" else ""

namespace RedisCapacityBackend

def reserve (P : CapacityPolicy) (r : CapacityReservation) (now : ℚ) (s : Keyspace) :
    CapacityDecision × Keyspace :=
  let nowMs := milliseconds now
  let expiryMs := nowMs + P.leaseSeconds * 1000
  let (result, s) := reserveScript (actorScope r.actorKey) nowMs expiryMs r.weight P.globalLimitOcu
    P.actorLimitOcu r.leaseId r.actorKey.isSome s
  (⟨result.1 = 1, result.2.1, result.2.2.1, reason result.2.2.2⟩, s)

def renew (P : CapacityPolicy) (r : CapacityReservation) (now : ℚ) (s : Keyspace) :
    Bool × Keyspace :=
  let nowMs := milliseconds now
  let expiryMs := nowMs + P.leaseSeconds * 1000
  let (result, s) := renewScript (actorScope r.actorKey) nowMs expiryMs r.leaseId
    r.actorKey.isSome s
  (result = 1, s)

/-- `_REDIS_RELEASE_SCRIPT` at a reading of the server -/
def release (r : CapacityReservation) (now : ℚ) (s : Keyspace) : Keyspace :=
  removeLease (actorScope r.actorKey) (milliseconds now) r.leaseId r.actorKey.isSome s

end RedisCapacityBackend

end MaestroKernel.Capacity.Runtime
