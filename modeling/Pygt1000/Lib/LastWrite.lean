import Mathlib.Data.List.Induction

/-!
# The last write

A register that some messages of a sequence write to holds what the last of them wrote, or what
it held before. `last w xs` is that write, where `w x` is what message `x` writes, if anything.

* `last_concat`: one message more;
* `exists_of_last`: a write comes from a message.
-/

namespace LastWrite

variable {α β : Type*} {w : α → Option β} {xs : List α} {x : α} {b : β}

def last (w : α → Option β) (xs : List α) : Option β := (xs.filterMap w).getLast?

@[simp] theorem last_nil : last w [] = none := rfl

theorem last_concat (w : α → Option β) (xs : List α) (x : α) :
    last w (xs ++ [x]) = (w x).or (last w xs) := by
  unfold last
  cases hx : w x with
  | none => simp [List.filterMap_append, hx]
  | some b => simp [List.filterMap_append, hx]

theorem exists_of_last (h : last w xs = some b) : ∃ x ∈ xs, w x = some b :=
  List.mem_filterMap.1 (List.mem_of_getLast? h)

/-- What the register holds in the end. -/
def register (w : α → Option β) (init : β) (xs : List α) : β := (last w xs).getD init

@[simp] theorem register_nil (init : β) : register w init [] = init := rfl

theorem register_concat (w : α → Option β) (init : β) (xs : List α) (x : α) :
    register w init (xs ++ [x]) = (w x).getD (register w init xs) := by
  unfold register
  rw [last_concat]
  cases w x <;> rfl

end LastWrite
