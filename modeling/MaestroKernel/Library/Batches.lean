import Mathlib.Data.List.Basic
import Mathlib.Data.Nat.Basic

/-! # A list in batches

`range(0, len(xs), n)` gives the offsets at which the batches of length `n` begin. The batches are
the list, so a loop over them is a loop over the list. -/

namespace MaestroKernel

variable {α β : Type}

/-- `xs[offset : offset + n]` for the offsets of `range(0, len(xs), n)` -/
def batches (n : ℕ) (xs : List α) : List (List α) :=
  (List.range ((xs.length + n - 1) / n)).map fun i => (xs.drop (i * n)).take n

theorem flatten_batches {n : ℕ} (hn : 1 ≤ n) (xs : List α) : (batches n xs).flatten = xs := by
  have hprefix : ∀ k, ((List.range k).map fun i => (xs.drop (i * n)).take n).flatten =
      xs.take (k * n) := by
    intro k
    induction k with
    | zero => simp
    | succ k ih =>
      rw [List.range_succ, List.map_append, List.flatten_append, ih, List.map_singleton,
        List.flatten_singleton, Nat.succ_mul, List.take_add]
  have hlength : xs.length ≤ (xs.length + n - 1) / n * n := by
    have hlt := Nat.lt_div_mul_add (a := xs.length + n - 1) (by omega : 0 < n)
    omega
  rw [batches, hprefix, List.take_of_length_le hlength]

end MaestroKernel
