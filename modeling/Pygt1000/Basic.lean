import Mathlib.Data.Int.Basic
import Mathlib.Data.List.Infix

/-!
# Values that cross module seams

Python gives a block's id and a decoded label either type (`Union[str, int]` in
`patch_state.py:68`, a label or the raw byte in `address_map.py:411-417`), and several
comparisons go through `str(..)`; `StrOrInt` keeps both forms. Exceptions are values of
`PyErr`; a function that may raise returns in `Except PyErr`.
-/

namespace Pygt1000

/-- A value that is a `str` or an `int`. The two are never equal, as in Python. -/
inductive StrOrInt where
  | str (s : String)
  | int (n : Int)
deriving DecidableEq, Repr

/-- Python's `str(..)`. -/
def StrOrInt.toStr : StrOrInt → String
  | .str s => s
  | .int n => toString n

/-- The exceptions the modelled code can raise. -/
inductive PyErr where
  | keyError
  | indexError
  | typeError
  | attributeError
  | overflowError
  | valueError
deriving DecidableEq, Repr

/-- `d[key]` of a dictionary that has `found` there. -/
def subscript {α : Type} (found : Option α) : Except PyErr α :=
  match found with
  | some v => .ok v
  | none => .error .keyError

@[simp] theorem subscript_some {α : Type} (v : α) : subscript (some v) = .ok v := rfl
@[simp] theorem subscript_none {α : Type} : subscript (none : Option α) = .error .keyError := rfl

theorem subscript_eq_ok {α : Type} {found : Option α} {v : α} :
    subscript found = .ok v ↔ found = some v := by
  cases found <;> simp

section
variable {ε α β : Type} (e : ε) (a : α) (f : α → Except ε β)

@[simp] theorem ok_bind : (Except.ok a >>= f) = f a := rfl
@[simp] theorem error_bind : (Except.error e >>= f) = .error e := rfl
@[simp] theorem pure_eq_ok : (pure a : Except ε α) = .ok a := rfl
@[simp] theorem map_ok (g : α → β) : (Except.ok a : Except ε α).map g = .ok (g a) := rfl
@[simp] theorem map_error (g : α → β) : (Except.error e : Except ε α).map g = .error e := rfl

end

/-- The one inversion of `do` blocks: both parts of a computation that returned returned. -/
theorem bind_eq_ok {ε α β : Type} {x : Except ε α} {f : α → Except ε β} {r : β}
    (h : (x >>= f) = .ok r) : ∃ a, x = .ok a ∧ f a = .ok r := by
  cases x with
  | error e => cases h
  | ok a => exact ⟨a, rfl, h⟩

/-- Two computations in a row return if both do. -/
theorem pair_ok_iff {ε α β : Type} {x : Except ε α} {y : Except ε β} :
    (∃ r, (do let a ← x; let b ← y; return (a, b)) = .ok r) ↔ (∃ a, x = .ok a) ∧ ∃ b, y = .ok b := by
  cases x <;> cases y <;> simp

/-! ## Strings -/

/-- `name.startswith(pre)`. -/
def startsWith (name pre : String) : Bool := pre.toList.isPrefixOf name.toList

/-- What `replace(old, "")` leaves after the next `skip` characters, which belong to an
occurrence already taken out. -/
def removeFrom (old : List Char) : Nat → List Char → List Char
  | _, [] => []
  | skip + 1, _ :: cs => removeFrom old skip cs
  | 0, c :: cs =>
    if old.isPrefixOf (c :: cs) then removeFrom old (old.length - 1) cs
    else c :: removeFrom old 0 cs

/-- `s.replace(old, "")`, for a non-empty `old`. -/
def removeAll (s old : String) : String := String.ofList (removeFrom old.toList 0 s.toList)

theorem startsWith_append (pre s : String) : startsWith (pre ++ s) pre = true := by
  simp [startsWith, List.isPrefixOf_iff_prefix]

section

variable {old cs : List Char}

theorem removeFrom_drop (skip : Nat) : removeFrom old skip cs = removeFrom old 0 (cs.drop skip) := by
  induction skip generalizing cs with
  | zero => rfl
  | succ skip ih =>
    cases cs with
    | nil => rfl
    | cons c cs => exact ih

theorem removeFrom_append (h : old ≠ []) : removeFrom old 0 (old ++ cs) = removeFrom old 0 cs := by
  cases old with
  | nil => exact absurd rfl h
  | cons c old =>
    have hpre : (c :: old).isPrefixOf (c :: (old ++ cs)) = true :=
      List.isPrefixOf_iff_prefix.2 (List.prefix_append (c :: old) cs)
    rw [List.cons_append, removeFrom, if_pos hpre, removeFrom_drop]
    simp

theorem removeFrom_of_not_infix (h : ¬ old <:+: cs) : removeFrom old 0 cs = cs := by
  induction cs with
  | nil => rfl
  | cons c cs ih =>
    rw [List.infix_cons_iff, not_or] at h
    have hpre : ¬ old.isPrefixOf (c :: cs) = true := fun hp => h.1 (List.isPrefixOf_iff_prefix.1 hp)
    rw [removeFrom, if_neg hpre, ih h.2]

end

/-- Taking out an occurrence at the front leaves what has none. -/
theorem removeAll_append {old s : String} (hne : old.toList ≠ []) (h : ¬ old.toList <:+: s.toList) :
    removeAll (old ++ s) old = s := by
  rw [removeAll, String.toList_append, removeFrom_append hne, removeFrom_of_not_infix h,
    String.ofList_toList]

end Pygt1000
