import Mathlib.Data.List.Range
import Mathlib.Logic.Function.Basic

/-!
# Memories that are written and read run by run

`cell i` is the address a memory counts `i` steps on from where a run starts; how it counts (with
or without carries, wrapping round or not) is left open. Where the cells of a run are distinct,
reading the run gives back what was written (`fetch_store`), and no other cell has changed
(`store_other`).
-/

namespace Cells

variable {ι β : Type*} [DecidableEq ι]

/-- Write `data` to the cells from `cell 0` on. -/
def store : (Nat → ι) → List β → (ι → β) → ι → β
  | _, [], mem => mem
  | cell, b :: data, mem => store (fun i => cell (i + 1)) data (Function.update mem (cell 0) b)

/-- Read the first `n` cells. -/
def fetch (cell : Nat → ι) (n : Nat) (mem : ι → β) : List β :=
  (List.range n).map fun i => mem (cell i)

variable {cell : Nat → ι} {data : List β} {mem : ι → β}

theorem store_other {c : ι} (h : ∀ j < data.length, c ≠ cell j) : store cell data mem c = mem c := by
  induction data generalizing cell mem with
  | nil => rfl
  | cons b data ih =>
    have hrest : ∀ j < data.length, c ≠ cell (j + 1) := fun j hj => h (j + 1) (Nat.succ_lt_succ hj)
    have hfirst : c ≠ cell 0 := h 0 (Nat.succ_pos _)
    rw [store, ih hrest, Function.update_of_ne hfirst]

/-- The `j`-th cell holds the `j`-th value written, unless a later one is the same cell. -/
theorem store_cell {j : Nat} (hj : j < data.length)
    (h : ∀ k < data.length, j < k → cell j ≠ cell k) : store cell data mem (cell j) = data[j] := by
  induction data generalizing cell j mem with
  | nil => simp at hj
  | cons b data ih =>
    rw [store]
    cases j with
    | zero =>
      have hrest : ∀ k < data.length, cell 0 ≠ cell (k + 1) :=
        fun k hk => h (k + 1) (Nat.succ_lt_succ hk) (Nat.succ_pos k)
      rw [store_other hrest, Function.update_self]
      rfl
    | succ j =>
      refine ih (Nat.lt_of_succ_lt_succ hj) fun k hk hjk => ?_
      exact h (k + 1) (Nat.succ_lt_succ hk) (Nat.succ_lt_succ hjk)

theorem fetch_store (h : ∀ i < data.length, ∀ j < data.length, cell i = cell j → i = j) :
    fetch cell data.length (store cell data mem) = data := by
  apply List.ext_getElem (by simp [fetch])
  intro j _ hj
  have hlast : ∀ k < data.length, j < k → cell j ≠ cell k :=
    fun k hk hjk he => absurd (h j hj k hk he) (Nat.ne_of_lt hjk)
  simpa [fetch] using store_cell hj hlast

end Cells
