import MaestroKernel.Library.Interaction
import MaestroKernel.Durable.Board

/-! # Durable stores

A store is a machine whose clients run the operations of `DurableJobStore`, with
the board that its state shows. A client is one call of an operation. -/

namespace MaestroKernel.Durable

open Interaction

variable {T : Type} [LT T] [Zero T]

/-- What a step reads that its client does not choose: the clock, and the next
`uuid.uuid4().hex`. -/
structure Env (T : Type) where
  now : T
  uuid : String

structure DurableStore (T : Type) [LT T] [Zero T] where
  Command : Type
  Response : Command → Type
  State : Type
  /-- What is stored: jobs, indexes and idempotency keys. -/
  Data : Type
  machine : Machine (Op T) Command Response (Except DurableError (Reply T)) (Env T) State
  start : State
  data : State → Data
  board : State → Board T
  /-- The client whose uuid this is. -/
  creator : State → String → Option ℕ
  /-- The command writes the job that the operation names. -/
  commits : Env T → ℕ → Op T → Command → State → Prop
  /-- The command leaves the job that the operation names without a lease and
  without a new status. -/
  strands : Env T → Op T → Command → State → Prop

namespace DurableStore

abbrev Config (D : DurableStore T) : Type :=
  Interaction.Config (Op T) D.Command D.Response (Except DurableError (Reply T)) D.State

abbrev Event (_ : DurableStore T) : Type := Interaction.Event (Op T) (Env T)

variable (D : DurableStore T)

/-- No client has started. -/
def init : D.Config := Machine.init D.start

/-- A client that has started and performs `c` next. -/
def Performs (cfg : D.Config) (ev : D.Event) (t : ℕ) (e : Env T) (op : Op T) (c : D.Command) :
    Prop :=
  ev = .run t e ∧ ∃ k, cfg.threads t = some (op, .call c k)

/-- Every schedule of every client is allowed. -/
def Any (_ : D.Event) (_ : D.Config) : Prop := True

def job? (cfg : D.Config) (id : String) : Option (ExecutionJob T) := (D.board cfg.shared).jobs id

/-- Every command moves the board by one action of its operation, and only a
command that commits or strands can take the two edges named here. -/
structure Refines : Prop where
  start : D.board D.start = Board.empty
  step : ∀ {a b : D.Config} {t e op c}, D.machine.Reaches D.Any D.init a →
    (D.board a.shared).Inv → D.Performs a (.run t e) t e op c →
    D.machine.next (.run t e) a = some b →
    Board.Step op (D.board a.shared) (D.board b.shared) ∧
      (D.job? b = D.job? a ∨ D.commits e t op c a.shared) ∧
      ∀ id job job', D.job? a id = some job → D.job? b id = some job' →
        job.WellFormed → job'.WellFormed ∨ D.strands e op c a.shared

variable {D} {a b c : D.Config}

theorem Refines.next_of_inv (hD : D.Refines) (ha : D.machine.Reaches D.Any D.init a)
    (hi : (D.board a.shared).Inv) {ev : D.Event} (h : D.machine.next ev a = some b) :
    D.board b.shared = D.board a.shared ∨
      ∃ t e op c, D.Performs a ev t e op c ∧
        Board.Step op (D.board a.shared) (D.board b.shared) := by
  cases ev with
  | start t op => exact .inl (congrArg D.board (Machine.next_start h).2.1)
  | run t e =>
    obtain ⟨op, c, k, _, hthread, _, _⟩ := Machine.next_run h
    have hp : D.Performs a (.run t e) t e op c := ⟨rfl, k, hthread⟩
    exact .inr ⟨t, e, op, c, hp, (hD.step ha hi hp h).1⟩

theorem Refines.inv (hD : D.Refines) (ha : D.machine.Reaches D.Any D.init a) :
    (D.board a.shared).Inv := by
  induction ha with
  | refl =>
    have hstart : D.board D.init.shared = Board.empty := hD.start
    rw [hstart]
    exact Board.inv_empty
  | tail ev ha _ hnext ih =>
    rcases hD.next_of_inv ha ih hnext with hsame | ⟨_, _, op, _, _, hstep⟩
    · rw [hsame]
      exact ih
    · exact hstep.inv ih

theorem Refines.next (hD : D.Refines) (ha : D.machine.Reaches D.Any D.init a) {ev : D.Event}
    (h : D.machine.next ev a = some b) :
    D.board b.shared = D.board a.shared ∨
      ∃ t e op c, D.Performs a ev t e op c ∧
        Board.Step op (D.board a.shared) (D.board b.shared) :=
  hD.next_of_inv ha (hD.inv ha) h

theorem Refines.run (hD : D.Refines) (ha : D.machine.Reaches D.Any D.init a)
    (h : D.machine.Reaches D.Any a b) : Board.Run (D.board a.shared) (D.board b.shared) := by
  induction h with
  | refl => exact .refl
  | tail ev hab _ hnext ih =>
    rcases hD.next (ha.trans hab) hnext with hsame | ⟨_, _, op, _, _, hstep⟩
    · rw [hsame]
      exact ih
    · exact ih.tail ⟨op, hstep⟩

end DurableStore

end MaestroKernel.Durable
