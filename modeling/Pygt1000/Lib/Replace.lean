import Mathlib.Data.List.Infix

/-!
# `str.replace`

`replace old new s` puts `new` for the occurrences of `old` in `s`, from left to right and without
overlap, for an `old` that is not empty.
-/

namespace Text

variable {α : Type*} [DecidableEq α]

/-- `replace` after the next `skip` characters, which belong to an occurrence already replaced. -/
def replaceFrom (old new : List α) : Nat → List α → List α
  | _, [] => []
  | skip + 1, _ :: s => replaceFrom old new skip s
  | 0, c :: s =>
    if old <+: c :: s then new ++ replaceFrom old new (old.length - 1) s
    else c :: replaceFrom old new 0 s

def replace (old new s : List α) : List α := replaceFrom old new 0 s

variable {old new s : List α}

theorem replaceFrom_drop (skip : Nat) :
    replaceFrom old new skip s = replace old new (s.drop skip) := by
  induction skip generalizing s with
  | zero => rfl
  | succ skip ih =>
    cases s with
    | nil => rfl
    | cons c s => exact ih

theorem replace_of_not_infix (h : ¬ old <:+: s) : replace old new s = s := by
  induction s with
  | nil => rfl
  | cons c s ih =>
    rw [List.infix_cons_iff, not_or] at h
    rw [replace, replaceFrom, if_neg h.1]
    exact congrArg (c :: ·) (ih h.2)

theorem replace_append (h : old ≠ []) : replace old new (old ++ s) = new ++ replace old new s := by
  cases old with
  | nil => exact absurd rfl h
  | cons c old =>
    have hpre : c :: old <+: c :: (old ++ s) := List.prefix_append (c :: old) s
    rw [List.cons_append, replace, replaceFrom, if_pos hpre, replaceFrom_drop]
    simp

end Text
