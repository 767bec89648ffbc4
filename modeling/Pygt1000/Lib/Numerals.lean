import Pygt1000.Lib.Spacing

/-!
# Numbers, written and read

`int` reads what `str` writes of a number, also between spaces (`int?_of_strip`).
-/

namespace Text

variable {c : Char} {s : List Char}

theorem exists_digit_of_mem {n : Nat} (h : c ∈ Nat.toDigits 10 n) : ∃ d < 10, c = Nat.digitChar d := by
  induction n using Nat.strongRecOn with
  | ind n ih =>
    by_cases hn : n < 10
    · rw [Nat.toDigits_of_lt_base hn] at h
      exact ⟨n, hn, List.mem_singleton.1 h⟩
    · rw [Nat.toDigits_of_base_le (by decide) (by omega)] at h
      rcases List.mem_append.1 h with h | h
      · exact ih (n / 10) (by omega) h
      · exact ⟨n % 10, by omega, List.mem_singleton.1 h⟩

theorem digitChar_reads : ∀ d < 10, digitBelow? 10 (Nat.digitChar d) = some d ∧
    toAscii (Nat.digitChar d) = Nat.digitChar d ∧ isAsciiSpace (Nat.digitChar d) = false ∧
    (Nat.digitChar d).toNat - '0'.toNat = d ∧ Nat.digitChar d ∉ ['_', '-', '+'] ∧
    isSpace (Nat.digitChar d) = false := by decide

/-- Decimal digits. -/
def Digits (s : List Char) : Prop := ∀ c ∈ s, ∃ d < 10, c = Nat.digitChar d

theorem digits_toDigits (n : Nat) : Digits (Nat.toDigits 10 n) := fun _ h => exists_digit_of_mem h

theorem digitsFrom?_digits (hs : Digits s) (n : Nat) :
    digitsFrom? 10 n s = some (Nat.ofDigitChars 10 s n) := by
  induction s generalizing n with
  | nil => simp [digitsFrom?]
  | cons c s ih =>
    obtain ⟨d, hd, rfl⟩ := hs c List.mem_cons_self
    obtain ⟨hbelow, -, -, hvalue, hother, -⟩ := digitChar_reads d hd
    rw [digitsFrom?, hbelow, Option.bind_some, ih fun c hc => hs c (List.mem_cons_of_mem _ hc),
      Nat.ofDigitChars_cons, hvalue]
    rintro _ _ heq -
    exact hother (by simp [heq])

theorem strip_digits (hs : Digits s) : strip isAsciiSpace (s.map toAscii) = s := by
  have hascii : s.map toAscii = s := by
    refine (List.map_congr_left fun c hc => ?_).trans (List.map_id s)
    obtain ⟨d, hd, rfl⟩ := hs c hc
    exact (digitChar_reads d hd).2.1
  rw [hascii]
  refine strip_eq_self fun c hc => ?_
  obtain ⟨d, hd, rfl⟩ := hs c hc
  exact (digitChar_reads d hd).2.2.1

/-- `int` of the digits of a number, which may stand between spaces. -/
theorem int?_of_strip {n : Nat} (h : strip isAsciiSpace (s.map toAscii) = Nat.toDigits 10 n) :
    int? 10 s = some (n : Int) := by
  have hdigits := digits_toDigits n
  have hvalue : nat? 10 (Nat.toDigits 10 n) = some n := by
    have hread := Nat.ofDigitChars_ten_toDigits (n := n)
    cases hs : Nat.toDigits 10 n with
    | nil => exact absurd hs Nat.toDigits_ne_nil
    | cons c t =>
      rw [hs] at hdigits hread
      obtain ⟨d, hd, rfl⟩ := hdigits c List.mem_cons_self
      obtain ⟨hbelow, -, -, hval, -, -⟩ := digitChar_reads d hd
      rw [Nat.ofDigitChars_cons, hval, Nat.mul_zero, Nat.zero_add] at hread
      rw [nat?, if_neg (by decide)]
      dsimp only
      rw [hbelow, Option.bind_some, digitsFrom?_digits fun c hc => hdigits c (List.mem_cons_of_mem _ hc),
        hread]
  rw [int?, h]
  cases hs : Nat.toDigits 10 n with
  | nil => exact absurd hs Nat.toDigits_ne_nil
  | cons c t =>
    rw [hs] at hdigits hvalue
    obtain ⟨d, hd, rfl⟩ := hdigits c List.mem_cons_self
    have hother := (digitChar_reads d hd).2.2.2.2.1
    split
    · next heq => exact absurd (List.cons.inj heq).1 fun h => hother (by simp [h])
    · next heq => exact absurd (List.cons.inj heq).1 fun h => hother (by simp [h])
    · rw [hvalue]
      rfl

end Text
