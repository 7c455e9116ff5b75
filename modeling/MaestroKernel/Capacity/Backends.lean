import MaestroKernel.Library.SortedSet
import MaestroKernel.Library.Table
import MaestroKernel.Durable.Job
import Mathlib.Data.String.Basic

/-! # The backends of domain capacity

A capacity lease counts against a global limit and against the limit of its domain
until it expires. The in-memory backend keeps the leases in a dict, the Redis backend
in two sorted sets scored by expiry, whose keys have a time to live of their own. -/

namespace MaestroKernel.Capacity

open Durable

structure DomainCapacityPolicy where
  globalLimit : ℕ
  domainLimits : List (String × ℕ)
  emergencyReserve : ℕ
  global_pos : 1 ≤ globalLimit
  reserve_lt : emergencyReserve < globalLimit
  domains_ne : domainLimits ≠ []
  names : ∀ d ∈ domainLimits, isBlank d.1 = false
  limits_pos : ∀ d ∈ domainLimits, 1 ≤ d.2

namespace DomainCapacityPolicy

/-- `__post_init__` -/
def validate (globalLimit : ℕ) (domainLimits : List (String × ℕ)) (emergencyReserve : ℕ) :
    Except String DomainCapacityPolicy :=
  if h₁ : globalLimit < 1 then .error "global_limit must be at least 1"
  else if h₂ : globalLimit ≤ emergencyReserve then
    .error "emergency_reserve must be between 0 and global_limit - 1"
  else if h₃ : domainLimits = [] then .error "at least one domain limit is required"
  else if h₄ : ∀ d ∈ domainLimits, isBlank d.1 = false ∧ 1 ≤ d.2 then
    .ok ⟨globalLimit, domainLimits, emergencyReserve, by omega, by omega, h₃,
      fun d hd => (h₄ d hd).1, fun d hd => (h₄ d hd).2⟩
  else
    match domainLimits.find? fun d => isBlank d.1 || d.2 < 1 with
    | some (name, _) =>
      if isBlank name then .error "domain names cannot be empty"
      else .error "domain limits must be at least 1"
    | none => .error "domain limits must be at least 1"

def limitFor (P : DomainCapacityPolicy) (domain : String) : Except String ℕ :=
  match P.domainLimits.lookup domain with
  | some limit => .ok limit
  | none => .error ("unconfigured execution domain: " ++ domain)

end DomainCapacityPolicy

structure DomainCapacityReservation where
  leaseId : String
  domain : String
  priority : ExecutionPriority

structure DomainCapacityDecision where
  admitted : Bool
  globalUsed : ℕ
  domainUsed : ℕ
  reason : String
deriving DecidableEq

/-- The methods of `DomainCapacityBackend`: each is one atomic function of the state at
a clock reading. `expiry` is the time up to which a lease granted or renewed at a
reading runs. -/
structure Backend (I D : Type) where
  State : Type
  init : State
  expiry : I → D → I
  reserve (reservation : DomainCapacityReservation) (globalLimit domainLimit emergencyReserve : ℕ)
    (leaseSeconds : D) (now : I) : State → DomainCapacityDecision × State
  renew (reservation : DomainCapacityReservation) (leaseSeconds : D) (now : I) :
    State → Bool × State
  release (reservation : DomainCapacityReservation) (now : I) : State → State

/-! ## The in-memory reference -/

/-- An entry of `_leases`. -/
structure Lease (T : Type) where
  leaseId : String
  expiry : T
  domain : String
  priority : ExecutionPriority

structure InMemoryDomainCapacityBackend (T : Type) where
  leases : List (Lease T)
  nodup : (leases.map Lease.leaseId).Nodup

namespace InMemoryDomainCapacityBackend

variable {T : Type}

def empty : InMemoryDomainCapacityBackend T := ⟨[], List.nodup_nil⟩

/-- `_leases.get(lease_id)` -/
def get? (s : InMemoryDomainCapacityBackend T) (leaseId : String) : Option (Lease T) :=
  Table.get? Lease.leaseId s.leases leaseId

/-- `_leases[lease_id] = …` -/
def set (s : InMemoryDomainCapacityBackend T) (lease : Lease T) :
    InMemoryDomainCapacityBackend T :=
  ⟨Table.upsert Lease.leaseId s.leases lease, Table.nodup_upsert s.nodup⟩

def filter (s : InMemoryDomainCapacityBackend T) (p : Lease T → Bool) :
    InMemoryDomainCapacityBackend T :=
  ⟨s.leases.filter p, s.nodup.sublist (List.filter_sublist.map _)⟩

variable [LinearOrder T] [Add T]

def cleanup (s : InMemoryDomainCapacityBackend T) (now : T) : InMemoryDomainCapacityBackend T :=
  s.filter fun lease => ¬ lease.expiry ≤ now

def reserve (reservation : DomainCapacityReservation)
    (globalLimit domainLimit emergencyReserve : ℕ) (leaseSeconds now : T)
    (s : InMemoryDomainCapacityBackend T) :
    DomainCapacityDecision × InMemoryDomainCapacityBackend T :=
  let s := s.cleanup now
  let globalUsed := s.leases.length
  let domainUsed := (s.leases.filter fun lease => lease.domain = reservation.domain).length
  if globalUsed ≥ globalLimit then (⟨false, globalUsed, domainUsed, "global"⟩, s)
  else if domainUsed ≥ domainLimit then (⟨false, globalUsed, domainUsed, "domain"⟩, s)
  else if reservation.priority ≠ .emergency ∧ globalUsed ≥ globalLimit - emergencyReserve then
    (⟨false, globalUsed, domainUsed, "emergency_reserve"⟩, s)
  else
    (⟨true, globalUsed + 1, domainUsed + 1, ""⟩,
      s.set ⟨reservation.leaseId, now + leaseSeconds, reservation.domain, reservation.priority⟩)

def renew (reservation : DomainCapacityReservation) (leaseSeconds now : T)
    (s : InMemoryDomainCapacityBackend T) : Bool × InMemoryDomainCapacityBackend T :=
  let s := s.cleanup now
  match s.get? reservation.leaseId with
  | none => (false, s)
  | some current =>
    if current.domain ≠ reservation.domain then (false, s)
    else
      (true, s.set ⟨reservation.leaseId, now + leaseSeconds, current.domain, current.priority⟩)

def release (reservation : DomainCapacityReservation) (_now : T)
    (s : InMemoryDomainCapacityBackend T) : InMemoryDomainCapacityBackend T :=
  s.filter fun lease => lease.leaseId ≠ reservation.leaseId

end InMemoryDomainCapacityBackend

/-- `InMemoryDomainCapacityBackend`, on a monotonic clock. -/
def memory (T : Type) [LinearOrder T] [Add T] : Backend T T where
  State := InMemoryDomainCapacityBackend T
  init := .empty
  expiry now leaseSeconds := now + leaseSeconds
  reserve := InMemoryDomainCapacityBackend.reserve
  renew := InMemoryDomainCapacityBackend.renew
  release := InMemoryDomainCapacityBackend.release

/-! ## Redis -/

namespace Redis

/-- `_keys`: the one global key, and the key of each domain. -/
inductive Key where
  | globalKey
  | domainKey (domain : String)
deriving DecidableEq

/-- A sorted set, and the time in milliseconds after which its key is expired. -/
structure Stored where
  members : SortedSet String ℕ
  deadline : Option ℕ

/-- No key: what a read of it sees. -/
def Stored.absent : Stored := ⟨.empty, none⟩

/-- A key is deleted with its last member, and its time to live with it. -/
def Stored.keep (k : Stored) (members : SortedSet String ℕ) : Stored :=
  if members.card = 0 then .absent else { k with members := members }

def Stored.expired (k : Stored) (now : ℕ) : Bool := k.deadline.any fun deadline => deadline < now

abbrev Keyspace : Type := Key → Stored

namespace Keyspace

variable (s : Keyspace) (now : ℕ) (k : Key)

/-- What a command at `now` finds under a key. -/
def read : Stored := if (s k).expired now then .absent else s k

def zcard : ℕ := (s.read now k).members.card

def zscore (member : String) : Option ℕ := (s.read now k).members.score member

def zadd (score : ℕ) (member : String) : Keyspace :=
  Function.update s k { s.read now k with members := (s.read now k).members.zadd member score }

def zrem (member : String) : Keyspace :=
  Function.update s k ((s.read now k).keep ((s.read now k).members.zrem [member]))

/-- `ZREMRANGEBYSCORE key -inf max` -/
def zremrangebyscore (max : ℕ) : Keyspace :=
  Function.update s k ((s.read now k).keep
    ((s.read now k).members.zrem ((s.read now k).members.rangeByScore max)))

/-- `EXPIRE key ttl`, with `ttl` in seconds; nothing happens to an absent key. -/
def expire (ttl : ℕ) : Keyspace :=
  Function.update s k (if (s.read now k).members.card = 0 then .absent
    else { s.read now k with deadline := some (now + ttl * 1000) })

end Keyspace

/-- `max(int(lease_seconds * 1000), 1)` -/
def leaseMs (leaseSeconds : ℚ) : ℕ := max ⌊leaseSeconds * 1000⌋.toNat 1

/-- `_REDIS_RESERVE_SCRIPT` -/
def reserveScript (key₁ key₂ : Key) (leaseMs : ℕ) (leaseId : String)
    (globalLimit domainLimit emergencyReserve isEmergency : ℕ) (now : ℕ) (s : Keyspace) :
    (ℕ × ℕ × ℕ × ℕ) × Keyspace :=
  let expiry := now + leaseMs
  let s := s.zremrangebyscore now key₁ now
  let s := s.zremrangebyscore now key₂ now
  let globalUsed := s.zcard now key₁
  let domainUsed := s.zcard now key₂
  if globalUsed ≥ globalLimit then ((0, globalUsed, domainUsed, 1), s)
  else if domainUsed ≥ domainLimit then ((0, globalUsed, domainUsed, 2), s)
  else if isEmergency = 0 ∧ globalUsed ≥ globalLimit - emergencyReserve then
    ((0, globalUsed, domainUsed, 3), s)
  else
    let s := s.zadd now key₁ expiry leaseId
    let s := s.zadd now key₂ expiry leaseId
    -- `math.ceil(lease_ms / 1000)`
    let ttl := max ((leaseMs + 999) / 1000 * 2) 10
    let s := s.expire now key₁ ttl
    let s := s.expire now key₂ ttl
    ((1, globalUsed + 1, domainUsed + 1, 0), s)

/-- `_REDIS_RENEW_SCRIPT`: the keys keep the time to live that they have. -/
def renewScript (key₁ key₂ : Key) (leaseMs : ℕ) (leaseId : String) (now : ℕ)
    (s : Keyspace) : ℕ × Keyspace :=
  let expiry := now + leaseMs
  let globalExpiry := s.zscore now key₁ leaseId
  let domainExpiry := s.zscore now key₂ leaseId
  if globalExpiry.all (fun e => e ≤ now) ∨ domainExpiry.all (fun e => e ≤ now) then
    let s := s.zrem now key₁ leaseId
    let s := s.zrem now key₂ leaseId
    (0, s)
  else
    let s := s.zadd now key₁ expiry leaseId
    let s := s.zadd now key₂ expiry leaseId
    (1, s)

/-- `_REDIS_RELEASE_SCRIPT` -/
def releaseScript (key₁ key₂ : Key) (leaseId : String) (now : ℕ) (s : Keyspace) :
    Keyspace :=
  let s := s.zrem now key₁ leaseId
  s.zrem now key₂ leaseId

/-- The reasons under the code that the script returns. -/
def reason : ℕ → String
  | 1 => "global"
  | 2 => "domain"
  | 3 => "emergency_reserve"
  | _ => ""

def reserve (reservation : DomainCapacityReservation)
    (globalLimit domainLimit emergencyReserve : ℕ) (leaseSeconds : ℚ) (now : ℕ) (s : Keyspace) :
    DomainCapacityDecision × Keyspace :=
  let (result, s) := reserveScript .globalKey (.domainKey reservation.domain) (leaseMs leaseSeconds)
    reservation.leaseId globalLimit domainLimit emergencyReserve
    (if reservation.priority = .emergency then 1 else 0) now s
  (⟨result.1 = 1, result.2.1, result.2.2.1, reason result.2.2.2⟩, s)

def renew (reservation : DomainCapacityReservation) (leaseSeconds : ℚ) (now : ℕ) (s : Keyspace) :
    Bool × Keyspace :=
  let (result, s) := renewScript .globalKey (.domainKey reservation.domain) (leaseMs leaseSeconds)
    reservation.leaseId now s
  (result = 1, s)

def release (reservation : DomainCapacityReservation) (now : ℕ) (s : Keyspace) : Keyspace :=
  releaseScript .globalKey (.domainKey reservation.domain) reservation.leaseId now s

end Redis

/-- `RedisDomainCapacityBackend`, on the clock of the server in milliseconds. -/
def redis : Backend ℕ ℚ where
  State := Redis.Keyspace
  init := fun _ => .absent
  expiry now leaseSeconds := now + Redis.leaseMs leaseSeconds
  reserve := Redis.reserve
  renew := Redis.renew
  release := Redis.release

end MaestroKernel.Capacity
