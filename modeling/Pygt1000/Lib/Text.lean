import Mathlib.Data.List.Infix
import Mathlib.Data.List.DropRight
import Mathlib.Data.Nat.Digits.Defs

/-!
# Text functions of a scripting language

`str` methods on lists of characters, as Python 3.11 documents them: `strip`, `split` at white
space (`words`; at one character it is `List.splitOn`), `rsplit` with one cut (`splitLast`) and
`int` with a base (`int?`). White space and decimal digits are those of Unicode 14.

The last section is about names with a number appended, where one number runs into another:
"A" with 12 is "A1" with 2.
-/

namespace Text

/-- The code points of white space. -/
def isSpaceCode (n : Nat) : Bool :=
  (0x9 ≤ n && n ≤ 0xD) || (0x1C ≤ n && n ≤ 0x20) || (0x2000 ≤ n && n ≤ 0x200A) ||
    [0x85, 0xA0, 0x1680, 0x2028, 0x2029, 0x202F, 0x205F, 0x3000].contains n

/-- `str.isspace` of one character. -/
def isSpace (c : Char) : Bool := isSpaceCode c.toNat

/-- The zeros of the decimal digits; the nine digits after each follow it. -/
def zeros : List Nat :=
  [0x30, 0x660, 0x6F0, 0x7C0, 0x966, 0x9E6, 0xA66, 0xAE6, 0xB66, 0xBE6, 0xC66, 0xCE6, 0xD66,
    0xDE6, 0xE50, 0xED0, 0xF20, 0x1040, 0x1090, 0x17E0, 0x1810, 0x1946, 0x19D0, 0x1A80, 0x1A90,
    0x1B50, 0x1BB0, 0x1C40, 0x1C50, 0xA620, 0xA8D0, 0xA900, 0xA9D0, 0xA9F0, 0xAA50, 0xABF0,
    0xFF10, 0x104A0, 0x10D30, 0x11066, 0x110F0, 0x11136, 0x111D0, 0x112F0, 0x11450, 0x114D0,
    0x11650, 0x116C0, 0x11730, 0x118E0, 0x11950, 0x11C50, 0x11D50, 0x11DA0, 0x16A60, 0x16AC0,
    0x16B50, 0x1D7CE, 0x1D7D8, 0x1D7E2, 0x1D7EC, 0x1D7F6, 0x1E140, 0x1E2F0, 0x1E950, 0x1FBF0]

/-- The value of a decimal digit. -/
def digit? (c : Char) : Option Nat :=
  (zeros.find? fun z => z ≤ c.toNat && c.toNat < z + 10).map fun z => c.toNat - z

theorem digit?_isSome {c : Char} : (digit? c).isSome ↔ ∃ z ∈ zeros, z ≤ c.toNat ∧ c.toNat < z + 10 := by
  simp [digit?, List.find?_isSome]

theorem not_isSpace_of_digit {c : Char} (h : (digit? c).isSome) : isSpace c = false := by
  obtain ⟨z, hz, hle, hlt⟩ := digit?_isSome.1 h
  have hall : ∀ z ∈ zeros, ∀ i < 10, isSpaceCode (z + i) = false := by decide +kernel
  have hc := hall z hz (c.toNat - z) (by omega)
  rwa [Nat.add_sub_cancel' hle] at hc

/-- `s.strip(..)` of the characters that meet `p`. -/
def strip (p : Char → Bool) (s : List Char) : List Char := (s.dropWhile p).rdropWhile p

/-- `s.split()`. -/
def words (s : List Char) : List (List Char) := (s.splitOnP isSpace).filter (· ≠ [])

/-- `s.rsplit(c, 1)`, for a string with a `c` in it. -/
def splitLast (c : Char) : List Char → Option (List Char × List Char)
  | [] => none
  | x :: s =>
    match splitLast c s with
    | some (before, after) => some (x :: before, after)
    | none => if x = c then some ([], s) else none

/-! ## Numbers -/

/-- What `int` makes of a character first. -/
def toAscii (c : Char) : Char :=
  if c.toNat < 127 then c
  else if isSpace c then ' '
  else match digit? c with
    | some d => Nat.digitChar d
    | none => '?'

def isAsciiSpace (c : Char) : Bool := c = ' ' || (0x9 ≤ c.toNat && c.toNat ≤ 0xD)

def digitBelow? (base : Nat) (c : Char) : Option Nat :=
  let value :=
    if '0' ≤ c ∧ c ≤ '9' then some (c.toNat - '0'.toNat)
    else if 'a' ≤ c ∧ c ≤ 'z' then some (c.toNat - 'a'.toNat + 10)
    else if 'A' ≤ c ∧ c ≤ 'Z' then some (c.toNat - 'A'.toNat + 10)
    else none
  value.filter (· < base)

/-- The digits that follow the first; one underscore may stand before each. -/
def digitsFrom? (base : Nat) : Nat → List Char → Option Nat
  | n, [] => some n
  | n, '_' :: c :: s => (digitBelow? base c).bind fun d => digitsFrom? base (base * n + d) s
  | n, c :: s => (digitBelow? base c).bind fun d => digitsFrom? base (base * n + d) s

def dropHexPrefix : List Char → List Char
  | '0' :: 'x' :: '_' :: s | '0' :: 'X' :: '_' :: s | '0' :: 'x' :: s | '0' :: 'X' :: s => s
  | s => s

def nat? (base : Nat) (s : List Char) : Option Nat :=
  match if base = 16 then dropHexPrefix s else s with
  | [] => none
  | c :: s => (digitBelow? base c).bind fun d => digitsFrom? base d s

/-- `int(s, base)`, for base 10 or 16; the limit of newer interpreters on the number of decimal
digits is left out. -/
def int? (base : Nat) (s : List Char) : Option Int :=
  match strip isAsciiSpace (s.map toAscii) with
  | '-' :: s => (nat? base s).map fun n => -(n : Int)
  | '+' :: s => (nat? base s).map Int.ofNat
  | s => (nat? base s).map Int.ofNat

example : int? 10 " 12 ".toList = some 12 ∧ int? 16 "0x_1f".toList = some 31 ∧
    int? 10 "1__0".toList = none ∧ int? 10 "".toList = none := by decide

/-- No part of a split has the character the split is at. -/
theorem not_mem_of_mem_splitOn {c : Char} {s part : List Char} (h : part ∈ s.splitOn c) : c ∉ part := by
  induction s generalizing part with
  | nil =>
    obtain rfl : part = [] := by simpa using h
    simp
  | cons x s ih =>
    rw [List.splitOn_cons_eq_if_modifyHead] at h
    split at h
    · rcases List.mem_cons.1 h with rfl | h
      · simp
      · exact ih h
    · next hx =>
      cases hs : s.splitOn c with
      | nil => exact absurd hs (List.splitOn_ne_nil c s)
      | cons first rest =>
        rw [hs, List.modifyHead_cons] at h
        rcases List.mem_cons.1 h with rfl | h
        · have hfirst := ih (hs ▸ List.mem_cons_self)
          have hne : c ≠ x := fun hc => hx (by simp [hc])
          simp [hfirst, hne]
        · exact ih (hs ▸ List.mem_cons_of_mem first h)

theorem toAscii_eq_minus {c : Char} (h : toAscii c = '-') : c = '-' := by
  unfold toAscii at h
  split at h
  · exact h
  · split at h
    · exact absurd h (by decide)
    · split at h
      · exact absurd h (Nat.digitChar_ne '-' (by decide))
      · exact absurd h (by decide)

theorem mem_of_mem_strip {p : Char → Bool} {c : Char} {s : List Char} (h : c ∈ strip p s) : c ∈ s :=
  (List.dropWhile_sublist p).subset ((List.rdropWhile_prefix p _).subset h)

/-- A number without a minus sign is not negative. -/
theorem int?_nonneg {base : Nat} {s : List Char} {n : Int} (hminus : '-' ∉ s) (h : int? base s = some n) :
    0 ≤ n := by
  have hstrip : '-' ∉ strip isAsciiSpace (s.map toAscii) := by
    intro hmem
    obtain ⟨c, hc, hascii⟩ := List.mem_map.1 (mem_of_mem_strip hmem)
    exact hminus (toAscii_eq_minus hascii ▸ hc)
  unfold int? at h
  split at h
  · next rest heq => exact absurd (heq ▸ List.mem_cons_self) hstrip
  · obtain ⟨m, -, rfl⟩ := Option.map_eq_some_iff.1 h
    exact Int.natCast_nonneg m
  · obtain ⟨m, -, rfl⟩ := Option.map_eq_some_iff.1 h
    exact Int.natCast_nonneg m

/-! ## Names with a number appended -/

/-- A beginning of a number is a number. -/
theorem toDigits_prefix {n : Nat} {p : List Char} (hp : p <+: Nat.toDigits 10 n) (hne : p ≠ []) :
    ∃ d, p = Nat.toDigits 10 d := by
  induction n using Nat.strongRecOn with
  | ind n ih =>
    by_cases hn : n < 10
    · rw [Nat.toDigits_of_lt_base hn] at hp
      rcases List.prefix_cons_iff.1 hp with rfl | ⟨t, rfl, ht⟩
      · exact absurd rfl hne
      · rw [List.prefix_nil.1 ht]
        exact ⟨n, (Nat.toDigits_of_lt_base hn).symm⟩
    · rw [Nat.toDigits_of_base_le (by decide) (by omega)] at hp
      rcases List.prefix_concat_iff.1 hp with rfl | hp
      · exact ⟨n, (Nat.toDigits_of_base_le (by decide) (by omega)).symm⟩
      · exact ih (n / 10) (by omega) hp

theorem toList_toString (n : Nat) : (toString n).toList = Nat.toDigits 10 n := by
  rw [Nat.toString_eq_repr, Nat.toList_repr]

theorem append_toString_inj {a : String} {m n : Nat} (h : a ++ toString m = a ++ toString n) : m = n := by
  have hlist : (toString m).toList = (toString n).toList := by simpa using congrArg String.toList h
  rw [toList_toString, toList_toString] at hlist
  simpa using congrArg (fun digits => Nat.ofDigitChars 10 digits 0) hlist

/-- Of two names that a number makes equal, one is the other with a number. -/
theorem append_toString_eq {a b : String} {m n : Nat} (h : a ++ toString m = b ++ toString n) :
    a = b ∨ (∃ d : Nat, a = b ++ toString d) ∨ ∃ d : Nat, b = a ++ toString d := by
  have named {p : List Char} {k : Nat} {x : String} (hp : p <+: Nat.toDigits 10 k) (hne : p ≠ []) :
      ∃ d : Nat, String.ofList (x.toList ++ p) = x ++ toString d := by
    obtain ⟨d, rfl⟩ := toDigits_prefix hp hne
    exact ⟨d, String.toList_inj.1 (by simp)⟩
  have hlist : a.toList ++ Nat.toDigits 10 m = b.toList ++ Nat.toDigits 10 n := by
    simpa [toList_toString] using congrArg String.toList h
  rcases List.append_eq_append_iff.1 hlist with ⟨p, hb, hm⟩ | ⟨p, ha, hn⟩
  · by_cases hp : p = []
    · exact .inl (String.toList_inj.1 (by rw [hb, hp, List.append_nil]))
    · obtain ⟨d, hd⟩ := named (x := a) (p := p) (k := m) ⟨_, hm.symm⟩ hp
      exact .inr (.inr ⟨d, by rw [← hd, ← hb, String.ofList_toList]⟩)
  · by_cases hp : p = []
    · exact .inl (String.toList_inj.1 (by rw [ha, hp, List.append_nil]))
    · obtain ⟨d, hd⟩ := named (x := b) (p := p) (k := n) ⟨_, hn.symm⟩ hp
      exact .inr (.inl ⟨d, by rw [← hd, ← ha, String.ofList_toList]⟩)

end Text
