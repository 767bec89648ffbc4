import Pygt1000.AddressMap
import Mathlib.Data.Int.Bitwise

/-!
# Values over several addresses (`address_map.py:69-83`)

`pack_nibbles` shifts and masks, from the most significant nibble down; `unpack_nibbles` shifts and
ors. In arithmetic the one writes a number in base 16 with a given number of digits
(`packNibbles_natCast`), and the other reads digits in base 16 (`unpackNibbles_eq`). A value loses
what is above its low nibbles (`packNibbles_emod`), a byte what is above its low four bits
(`packNibbles_unpackNibbles`), and on what is left the two undo each other
(`packNibbles_bijection`). Every read and write of a value over several addresses goes through them.
-/

namespace Pygt1000

/-! ## Masks and shifts -/

/-- `x & 0x0F` of an integer of either sign, which has its bits in two's complement. -/
theorem land_mask (x : Int) : x.land 0x0F = x % 16 := by
  cases x with
  | ofNat n =>
    change ((n &&& 0x0F : Nat) : Int) = (n : Int) % 16
    have hn : n &&& 0x0F = n % 16 := Nat.and_two_pow_sub_one_eq_mod n 4
    rw [hn]
    norm_cast
  | negSucc n =>
    change ((Nat.ldiff 0x0F n : Nat) : Int) = Int.negSucc n % 16
    have hlt : n % 2 ^ 4 < 2 ^ 4 := Nat.mod_lt n (by decide)
    have hn : Nat.ldiff (2 ^ 4 - 1) n = 2 ^ 4 - (n % 2 ^ 4 + 1) := by
      refine Nat.eq_of_testBit_eq fun i => ?_
      rw [Nat.testBit_ldiff, Nat.testBit_two_pow_sub_one, Nat.testBit_two_pow_sub_succ hlt,
        Nat.testBit_mod_two_pow]
      cases decide (i < 4) <;> rfl
    norm_num only at hn
    rw [hn]
    omega

/-- The comprehension as the source has it. -/
theorem packNibbles_eq_land (value : Int) (width : Nat) :
    packNibbles value width =
      (List.range width).map fun i => ((value >>> (4 * (width - 1 - i))).land 0x0F).toNat := by
  simp only [packNibbles, land_mask]

/-- One turn of the loop. -/
theorem shift_or_mask (n b : Nat) : (n <<< 4) ||| (b &&& 0x0F) = 16 * n + b % 16 := by
  have hb : b &&& 0x0F = b % 16 := Nat.and_two_pow_sub_one_eq_mod b 4
  have hlt : b % 16 < 2 ^ 4 := Nat.mod_lt _ (by decide)
  rw [hb, ← Nat.shiftLeft_add_eq_or_of_lt hlt, Nat.shiftLeft_eq]
  ring

theorem unpackNibbles_eq (data : List Nat) :
    unpackNibbles data = BigEndian.value 16 (data.map (· % 16)) := by
  simp [unpackNibbles, BigEndian.value, shift_or_mask, List.foldl_map]

theorem packNibbles_natCast (v width : Nat) : packNibbles v width = BigEndian.fixed 16 width v := by
  refine List.map_congr_left fun i _ => ?_
  rw [Int.shiftRight_eq_div_pow, Nat.pow_mul]
  norm_cast

/-! ## What is packed -/

@[simp] theorem length_packNibbles (v : Int) (width : Nat) : (packNibbles v width).length = width := by
  simp [packNibbles]

theorem packNibbles_lt (v : Int) (width : Nat) : ∀ b ∈ packNibbles v width, b < 16 := by
  intro b hb
  obtain ⟨i, -, rfl⟩ := List.mem_map.1 hb
  omega

/-- Only the low nibbles are packed. -/
theorem packNibbles_emod (v : Int) (width : Nat) :
    packNibbles v width = packNibbles (v % 16 ^ width) width := by
  refine List.map_congr_left fun i hi => ?_
  have hk : width - 1 - i < width := by
    have := List.mem_range.1 hi
    omega
  rw [Int.shiftRight_eq_div_pow, Int.shiftRight_eq_div_pow, Nat.pow_mul]
  norm_num only [Nat.cast_pow, Nat.cast_ofNat]
  rw [BigEndian.digit_emod (by decide) hk]

/-! ## There and back -/

theorem map_mod_of_lt {data : List Nat} (h : ∀ b ∈ data, b < 16) : data.map (· % 16) = data :=
  (List.map_congr_left fun b hb => Nat.mod_eq_of_lt (h b hb)).trans (List.map_id _)

theorem unpackNibbles_packNibbles (v width : Nat) :
    unpackNibbles (packNibbles v width) = v % 16 ^ width := by
  rw [unpackNibbles_eq, map_mod_of_lt (packNibbles_lt v width), packNibbles_natCast, BigEndian.value_fixed]

theorem unpackNibbles_packNibbles_int (v : Int) (width : Nat) :
    (unpackNibbles (packNibbles v width) : Int) = v % 16 ^ width := by
  have hpos : (0 : Int) < 16 ^ width := by positivity
  obtain ⟨n, hn⟩ := Int.eq_ofNat_of_zero_le (Int.emod_nonneg v hpos.ne')
  have hlt : n < 16 ^ width := by
    have := Int.emod_lt_of_pos v hpos
    rw [hn] at this
    exact_mod_cast this
  rw [packNibbles_emod, hn, unpackNibbles_packNibbles, Nat.mod_eq_of_lt hlt]

/-- Of any bytes the low nibbles come back. -/
theorem packNibbles_unpackNibbles (data : List Nat) :
    packNibbles (unpackNibbles data) data.length = data.map (· % 16) := by
  have hlt : ∀ b ∈ data.map (· % 16), b < 16 := by
    intro b hb
    obtain ⟨c, -, rfl⟩ := List.mem_map.1 hb
    exact Nat.mod_lt c (by decide)
  rw [unpackNibbles_eq, packNibbles_natCast, ← List.length_map (· % 16)]
  exact BigEndian.fixed_value (by decide) hlt

/-- **Nibble packing is a bijection.** Every integer is packed into nibbles, as many as the width
says, that give it back up to multiples of `16 ^ w`, so itself if it is below; every list of nibbles
is packed again from the number it gives; and so the numbers below `16 ^ w` are the lists of `w`
nibbles. -/
theorem packNibbles_bijection (w : Nat) :
    (∀ v : Int, (packNibbles v w).length = w ∧ (∀ b ∈ packNibbles v w, b ≤ 0x0F) ∧
      (unpackNibbles (packNibbles v w) : Int) = v % 16 ^ w ∧
      (0 ≤ v → v < 16 ^ w → (unpackNibbles (packNibbles v w) : Int) = v)) ∧
    (∀ d : List Nat, (∀ b ∈ d, b ≤ 0x0F) → packNibbles (unpackNibbles d) d.length = d) ∧
    Set.BijOn (fun v : Nat => packNibbles v w) {v | v < 16 ^ w} {d | d.length = w ∧ ∀ b ∈ d, b < 16} := by
  refine ⟨fun v => ⟨length_packNibbles v w, fun b hb => ?_, unpackNibbles_packNibbles_int v w,
    fun h0 hlt => ?_⟩, fun d hd => ?_, ?_⟩
  · have := packNibbles_lt v w b hb
    omega
  · rw [unpackNibbles_packNibbles_int, Int.emod_eq_of_lt h0 hlt]
  · rw [packNibbles_unpackNibbles, map_mod_of_lt fun b hb => Nat.lt_succ_of_le (hd b hb)]
  · simp only [packNibbles_natCast]
    exact BigEndian.bijOn_fixed (by decide) w

/-! ## Wide settings -/

theorem rawInt_packNibbles {e : Specs.Param} (hw : 1 < e.bytes) (v : Int) :
    rawInt e (.list (packNibbles v e.bytes)) = .ok (unpackNibbles (packNibbles v e.bytes)) := by
  have htake : (packNibbles v e.bytes).take e.bytes = packNibbles v e.bytes :=
    List.take_of_length_le (Nat.le_of_eq (length_packNibbles v e.bytes))
  simp only [rawInt, if_pos hw, htake]

end Pygt1000
