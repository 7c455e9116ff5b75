import MaestroKernel.Library.SortedSet
import MaestroKernel.Redis.Codec
import MaestroKernel.Durable.Store
import Mathlib.Data.String.Basic

/-! # The Redis server

Each command is one atomic step, and so is a `MULTI` block with its watched keys.
A key has a version, which grows whenever the server signals the key as
modified; `EXEC` succeeds when every watched key still has the version that it
had at `WATCH`. -/

namespace MaestroKernel.Durable.Redis

open Interaction

/-- The sorted sets of a prefix; `priorityQueue` is used by the optimized store only. -/
inductive ZKey where
  | queue
  | priorityQueue (priority : ExecutionPriority)
  | running
deriving DecidableEq

/-- The keys of a prefix. -/
inductive Key where
  | job (jobId : String)
  | idem (idempotencyKey : String)
  | zset (key : ZKey)
deriving DecidableEq

/-- What is known of a uuid: nobody drew it, a client holds it for a job or a
lease, or it names one. -/
inductive UuidState where
  | unissued
  | held (client : ℕ)
  | used (client : ℕ)
deriving DecidableEq

variable {T : Type} [LinearOrder T] [Zero T]

/-- What is stored under the prefix. -/
structure Data (T : Type) [LinearOrder T] [Zero T] where
  jobs : String → Option (JobHash T)
  idem : String → Option String
  zset : ZKey → SortedSet String T

/-- `watching` are the keys that the open transaction of a client watches, with
the versions they had. -/
structure Server (T : Type) [LinearOrder T] [Zero T] where
  data : Data T
  version : Key → ℕ
  watching : ℕ → List (Key × ℕ)
  uuids : String → UuidState

def Server.empty : Server T where
  data := ⟨fun _ => none, fun _ => none, fun _ => .empty⟩
  version := fun _ => 0
  watching := fun _ => []
  uuids := fun _ => .unissued

/-- The writes that a `MULTI` block queues. -/
inductive Write (T : Type) [LinearOrder T] [Zero T] where
  | hset (jobId : String) (mapping : JobHash T)
  | set (idempotencyKey jobId : String)
  | zadd (key : ZKey) (member : String) (score : T)
  | zrem (key : ZKey) (members : List String)

/-- The key that a write signals as modified, if it modifies one. -/
def Write.touches (d : Data T) : Write T → Option Key
  | .hset id _ => some (.job id)
  | .set key _ => some (.idem key)
  | .zadd k m s => if (d.zset k).score m = some s then none else some (.zset k)
  | .zrem k ms => if ms.all fun m => (d.zset k).score m = none then none else some (.zset k)

def Write.apply (d : Data T) : Write T → Data T
  | .hset id h => { d with jobs := Function.update d.jobs id (some h) }
  | .set key id => { d with idem := Function.update d.idem key (some id) }
  | .zadd k m s => { d with zset := Function.update d.zset k ((d.zset k).zadd m s) }
  | .zrem k ms => { d with zset := Function.update d.zset k ((d.zset k).zrem ms) }

namespace Server

def write (s : Server T) (w : Write T) : Server T :=
  { s with
    data := w.apply s.data
    version := fun key => if w.touches s.data = some key then s.version key + 1 else s.version key }

def writes (s : Server T) (ws : List (Write T)) : Server T := ws.foldl write s

/-- The uuids that the client holds name a job or a lease from now on. -/
def useUuids (s : Server T) (t : ℕ) : Server T :=
  { s with uuids := fun u => if s.uuids u = .held t then .used t else s.uuids u }

def unwatch (s : Server T) (t : ℕ) : Server T :=
  { s with watching := Function.update s.watching t [] }

/-- No watched key of the client was modified since it was watched. -/
def intact (s : Server T) (t : ℕ) : Bool := (s.watching t).all fun kv => s.version kv.1 = kv.2

end Server

/-! ## The claim script -/

/-- The arguments of `_ATOMIC_CLAIM_LUA`. -/
structure ScriptArgs (T : Type) where
  now : T
  workerId : String
  leaseExpiresAt : T
  leaseToken : String
  window : ℕ

def priorityOrder : List ExecutionPriority := [.emergency, .interactive, .normal, .batch]

/-- Remove an entry from the index it was found in and from the shared queue. -/
def scriptDequeue (p : ExecutionPriority) (jobId : String) : List (Write T) :=
  [.zrem (.priorityQueue p) [jobId], .zrem .queue [jobId]]

/-- What the script does with one index entry: its writes, and whether it
returns the job. `tostring` is how Lua writes a number. -/
def scriptEntry (tostring : T → T) (args : ScriptArgs T) (p : ExecutionPriority) (jobId : String)
    (d : Data T) : List (Write T) × Bool :=
  match d.jobs jobId with
  | none => (scriptDequeue p jobId, false)
  | some data =>
    if !data.status.isWaiting then (scriptDequeue p jobId, false)
    else if data.cancelRequested then
      (.hset jobId
        { data with
          status := .cancelled
          updatedAt := tostring args.now
          workerId := ""
          leaseToken := ""
          leaseExpiresAt := none } :: scriptDequeue p jobId, false)
    else if data.toJob.deadlineExpired args.now then
      (.hset jobId
        { data with
          status := .failed
          lastError := "deadline_exceeded"
          updatedAt := tostring args.now
          workerId := ""
          leaseToken := ""
          leaseExpiresAt := none } :: scriptDequeue p jobId, false)
    else if data.availableAt ≤ args.now then
      (.hset jobId
        { data with
          attempt := data.attempt + 1
          status := .running
          updatedAt := tostring args.now
          workerId := args.workerId
          leaseToken := args.leaseToken
          leaseExpiresAt := some (tostring args.leaseExpiresAt) } ::
        scriptDequeue p jobId ++ [.zadd .running jobId args.leaseExpiresAt], true)
    else ([], false)

/-- The inner loop of the script over the entries of one index. -/
def scriptEntries (tostring : T → T) (args : ScriptArgs T) (p : ExecutionPriority) :
    List String → Server T → Option String × Server T
  | [], s => (none, s)
  | jobId :: ids, s =>
    let (ws, found) := scriptEntry tostring args p jobId s.data
    if found then (some jobId, s.writes ws)
    else scriptEntries tostring args p ids (s.writes ws)

/-- The outer loop of the script over the priorities. -/
def scriptPriorities (tostring : T → T) (args : ScriptArgs T) :
    List ExecutionPriority → Server T → Option String × Server T
  | [], s => (none, s)
  | p :: ps, s =>
    let ids := ((s.data.zset (.priorityQueue p)).rangeByScore args.now).take args.window
    match scriptEntries tostring args p ids s with
    | (some jobId, s') => (some jobId, s')
    | (none, s') => scriptPriorities tostring args ps s'

inductive Command (T : Type) [LinearOrder T] [Zero T] where
  | time
  | uuid4
  | watch (keys : List Key)
  | get (idempotencyKey : String)
  | hgetall (jobId : String)
  | zrangebyscore (key : ZKey) (max : T) (num : Option ℕ)
  | zrem (key : ZKey) (members : List String)
  | exec (writes : List (Write T))
  | claimScript (args : ScriptArgs T)

/-- The reply to a command; `EXEC` replies whether the block ran. -/
def Command.Response : Command T → Type
  | .time => T
  | .uuid4 => String
  | .watch _ => Unit
  | .get _ => Option String
  | .hgetall _ => Option (JobHash T)
  | .zrangebyscore .. => List String
  | .zrem .. => Unit
  | .exec _ => Bool
  | .claimScript _ => Option String

/-- `uuid4` never repeats a uuid, and its `hex` is not empty. -/
def Server.exec (tostring : T → T) (e : Env T) (t : ℕ) (c : Command T) (s : Server T) :
    Option (c.Response × Server T) :=
  match c with
  | .time => some (e.now, s)
  | .uuid4 =>
    if e.uuid = "" ∨ s.uuids e.uuid ≠ .unissued then none
    else some (e.uuid, { s with uuids := Function.update s.uuids e.uuid (.held t) })
  | .watch keys =>
    some ((), { s with
      watching := Function.update s.watching t (keys.map fun key => (key, s.version key)) })
  | .get key => some (s.data.idem key, s)
  | .hgetall id => some (s.data.jobs id, s)
  | .zrangebyscore k max num =>
    let ids := (s.data.zset k).rangeByScore max
    some ((match num with
      | none => ids
      | some n => ids.take n), s)
  | .zrem k ms => some ((), s.write (.zrem k ms))
  | .exec ws =>
    if s.intact t then some (true, ((s.writes ws).useUuids t).unwatch t)
    else some (false, s.unwatch t)
  | .claimScript args =>
    let (r, s') := scriptPriorities tostring args priorityOrder s
    some (r, s'.useUuids t)

end MaestroKernel.Durable.Redis
