import Mathlib.Data.Nat.Digits.Lemmas
import Mathlib.Data.List.Induction
import Mathlib.Tactic.Ring

/-!
# Numbers written most significant digit first

`value b` reads a list of digits in base `b`; `digits b` writes a number with as few digits as
it needs, `fixed b w` with exactly `w`, dropping what does not fit (`value_fixed`). `digits` gives
back a list of digits that does not start with zero (`digits_value`), `fixed` any list of digits
(`fixed_value`): what fits and the lists of `w` digits are the same (`bijOn_fixed`).
-/

namespace BigEndian

variable {b : Nat}

def value (b : Nat) (l : List Nat) : Nat := l.foldl (fun n d => b * n + d) 0

def digits (b n : Nat) : List Nat := (Nat.digits b n).reverse

def fixed (b w n : Nat) : List Nat := (List.range w).map fun i => n / b ^ (w - 1 - i) % b

@[simp] theorem value_nil : value b [] = 0 := rfl

theorem value_concat (l : List Nat) (d : Nat) : value b (l ++ [d]) = b * value b l + d := by
  simp [value]

theorem value_eq_ofDigits (l : List Nat) : value b l = Nat.ofDigits b l.reverse := by
  induction l using List.reverseRecOn with
  | nil => simp
  | append_singleton l d ih => simp [value_concat, Nat.ofDigits_cons, ih, add_comm]

theorem digits_value (hb : 1 < b) {l : List Nat} (hl : ∀ d ∈ l, d < b) (h0 : l.head? ≠ some 0) :
    digits b (value b l) = l := by
  rw [digits, value_eq_ofDigits, Nat.digits_ofDigits b hb, List.reverse_reverse]
  · simpa using hl
  · intro hne
    rw [List.getLast_reverse]
    intro hz
    exact h0 (by rw [List.head?_eq_some_head (by simpa using hne), hz])

theorem value_lt (hb : 1 < b) {l : List Nat} (hl : ∀ d ∈ l, d < b) : value b l < b ^ l.length := by
  rw [value_eq_ofDigits, ← List.length_reverse]
  exact Nat.ofDigits_lt_base_pow_length hb (by simpa using hl)

theorem length_digits (hb : 1 < b) {k n : Nat} (hlo : b ^ k ≤ n) (hhi : n < b ^ (k + 1)) :
    (digits b n).length = k + 1 := by
  rw [digits, List.length_reverse]
  have hlt : k < (Nat.digits b n).length := (Nat.lt_digits_length_iff hb n).2 hlo
  have hle : ¬ k + 1 < (Nat.digits b n).length :=
    fun h => absurd ((Nat.lt_digits_length_iff hb n).1 h) (Nat.not_le.2 hhi)
  omega

theorem fixed_lt (hb : 0 < b) {w n d : Nat} (hd : d ∈ fixed b w n) : d < b := by
  obtain ⟨i, -, rfl⟩ := List.mem_map.1 hd
  exact Nat.mod_lt _ hb

/-- Writing one digit more than `w`: the rest of the number, then its last digit. -/
theorem fixed_succ (w n : Nat) : fixed b (w + 1) n = fixed b w (n / b) ++ [n % b] := by
  simp only [fixed, List.range_succ, List.map_append, List.map_cons, List.map_nil]
  congr 1
  · refine List.map_congr_left fun i hi => ?_
    have hi : i < w := List.mem_range.1 hi
    rw [show w + 1 - 1 - i = 1 + (w - 1 - i) by omega, Nat.pow_add, Nat.pow_one,
      Nat.div_div_eq_div_mul]
  · simp

theorem value_fixed (w n : Nat) : value b (fixed b w n) = n % b ^ w := by
  induction w generalizing n with
  | zero => simp [fixed, Nat.mod_one]
  | succ w ih =>
    rw [fixed_succ, value_concat, ih, Nat.pow_succ', Nat.mod_mul]
    ring

/-- A digit of an integer is not touched by dropping what is above it. -/
theorem digit_emod {b : Int} (hb : b ≠ 0) {k w : Nat} (hk : k < w) (v : Int) :
    v % b ^ w / b ^ k % b = v / b ^ k % b := by
  obtain ⟨j, rfl⟩ := Nat.exists_eq_add_of_lt hk
  -- What is dropped is a multiple of `b` at the digit.
  have hdrop : v % b ^ (k + j + 1) = v + b ^ k * (b * -(b ^ j * (v / b ^ (k + j + 1)))) := by
    rw [Int.emod_def]
    ring
  rw [hdrop, Int.add_mul_ediv_left _ _ (pow_ne_zero k hb), Int.add_mul_emod_self_left]

@[simp] theorem length_fixed (w n : Nat) : (fixed b w n).length = w := by simp [fixed]

/-- A list of digits is what its number comes out as when as many are written. -/
theorem fixed_value (hb : 1 < b) {l : List Nat} (hl : ∀ d ∈ l, d < b) :
    fixed b l.length (value b l) = l := by
  have hvalue : value b (fixed b l.length (value b l)) = value b l := by
    rw [value_fixed, Nat.mod_eq_of_lt (value_lt hb hl)]
  have hdigits : ∀ d ∈ (fixed b l.length (value b l)).reverse, d < b := by
    intro d hd
    exact fixed_lt (by omega) (List.mem_reverse.1 hd)
  have hofDigits := (value_eq_ofDigits _).symm.trans (hvalue.trans (value_eq_ofDigits l))
  exact List.reverse_injective
    (Nat.ofDigits_inj_of_len_eq hb (by simp) hdigits (by simpa using hl) hofDigits)

theorem invOn_fixed (hb : 1 < b) (w : Nat) :
    Set.InvOn (value b) (fixed b w) (Set.Iio (b ^ w)) {l | l.length = w ∧ ∀ d ∈ l, d < b} := by
  constructor
  · intro n hn
    rw [value_fixed, Nat.mod_eq_of_lt hn]
  · rintro l ⟨rfl, hl⟩
    exact fixed_value hb hl

/-- The numbers below `b ^ w` are the lists of `w` digits. -/
theorem bijOn_fixed (hb : 1 < b) (w : Nat) :
    Set.BijOn (fixed b w) (Set.Iio (b ^ w)) {l | l.length = w ∧ ∀ d ∈ l, d < b} := by
  refine (invOn_fixed hb w).bijOn (fun n _ => ?_) ?_
  · exact ⟨length_fixed w n, fun d hd => fixed_lt (by omega) hd⟩
  · rintro l ⟨rfl, hl⟩
    exact value_lt hb hl

end BigEndian
