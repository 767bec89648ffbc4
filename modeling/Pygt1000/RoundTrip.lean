import Pygt1000.ShippedMap

/-!
# `decode` against `address_for`

The encoder adds up three full offsets; the decoder looks up two bytes of the section, one byte
of the block and one byte of the setting. What one byte cannot tell apart is lost:

* `fx1Dist` to `fx4Dist` and `fx1MasterFx` to `fx4MasterFx` share their block byte;
* in `PatchEfct` the offsets run past `0x7F`, so `CHAIN ELEMENT25` and what follows share their
  setting byte with the first parameters, and sit in the next block.

`decode_addressFor_iff` says that nothing else is lost: a round trip gives back what went in
exactly where no other block of the section has the block's byte, the setting's offset has a
zero high byte and no other setting of the table has its low byte (`Unshared`).
-/

namespace Pygt1000

open Specs

/-- The values a setting can hold. -/
def Specs.Param.Fits (e : Param) (v : Nat) : Prop := if 1 < e.bytes then v < 16 ^ e.bytes else v < 128

instance (e : Param) (v : Nat) : Decidable (e.Fits v) := inferInstanceAs (Decidable (ite ..))

/-- The bytes `addressFor` appends for a value that fits are the ones `decode` reads it from. -/
theorem rawInt_encodeValue {e : Param} {v : Nat} (hv : e.Fits v) :
    ∃ data, AddressMap.encodeValue e (.int v) = .ok data ∧ rawInt e (.list data) = .ok v := by
  unfold Param.Fits at hv
  by_cases hw : 1 < e.bytes
  · rw [if_pos hw] at hv
    refine ⟨packNibbles v e.bytes, by simp [AddressMap.encodeValue, hw], ?_⟩
    rw [rawInt_packNibbles hw, unpackNibbles_packNibbles, Nat.mod_eq_of_lt hv]
  · rw [if_neg hw] at hv
    have hrange : (0 : Int) ≤ v ∧ (v : Int) ≤ 255 := by omega
    exact ⟨[v], by simp [AddressMap.encodeValue, hw, hrange], by simp [rawInt, hw]⟩

/-- Nothing else answers to the bytes this setting is decoded by. -/
def Unshared (sectionName option setting : String) : Prop :=
  ∃ s : Slot addressMap sectionName option setting,
    blocksAt s.container s.block = 1 ∧ s.param.offsetByte 0 = 0 ∧ settingsAt s.table s.param = 1

namespace Slot

variable {sectionName option setting : String} (s : Slot addressMap sectionName option setting)

theorem blockIndex_of_alone (h : blocksAt s.container s.block = 1) :
    blockIndex s.container (s.block.addressByte 1) = some (option, s.block.table) :=
  Index.index_unique (x := (option, s.block)) s.mem_block fun _ hy hk =>
    Index.eq_of_countP_one h hy s.mem_block (by simpa using hk) (by simp)

theorem settingIndex_of_alone (h : settingsAt s.table s.param = 1) :
    settingIndex s.table (s.param.offsetByte 1) = some (setting, s.param) :=
  Index.index_unique (x := (setting, s.param)) s.mem_param fun _ hy hk =>
    Index.eq_of_countP_one h hy s.mem_param (by simpa using hk) (by simp)

/-- A block that is alone with its byte starts at the lower half of it. -/
theorem block_low (h : blocksAt s.container s.block = 1) : s.block.addressByte 2 = 0 := by
  rcases blocks_low _ s.mem_container _ s.mem_block with h0 | ha | ⟨-, hn, -⟩
  · exact h0
  · exact absurd ha (assign_missing _ s.mem_table)
  · exact absurd h hn

/-- The address of an unshared setting resolves to that setting. -/
theorem locate_of_unshared (hb : blocksAt s.container s.block = 1) (h0 : s.param.offsetByte 0 = 0)
    (hs : settingsAt s.table s.param = 1) :
    addressMap.locate s.address =
      some ⟨sectionName, s.base.table, option, s.block.table, setting, s.param⟩ := by
  rw [s.address_eq, third, fourth, h0, s.block_low hb, Nat.add_zero, Nat.zero_add]
  exact locate_eq s.firstTwoBytes_address (offsetInPatchTables_eq s.mem_container)
    (s.blockIndex_of_alone hb) s.lastByteOption_table (s.settingIndex_of_alone hs)

/-- Where the address of a setting resolves to a setting of that name, the setting is unshared. -/
theorem unshared_of_locate {l : Located} (hl : addressMap.locate s.address = some l)
    (hname : l.name = option) (hvalue : l.valueName = setting) :
    blocksAt s.container s.block = 1 ∧ s.param.offsetByte 0 = 0 ∧ settingsAt s.table s.param = 1 := by
  obtain ⟨a, b, c, d, haddr, htwo, ⟨blocks, hblocks, hc⟩, settings, hsettings, hd⟩ := locate_some hl
  rw [s.address_eq] at haddr
  cases haddr
  rw [s.firstTwoBytes_address] at htwo
  obtain ⟨-, htable⟩ := Prod.mk.inj (Option.some.inj htwo)
  rw [← htable, offsetInPatchTables_eq s.mem_container] at hblocks
  cases hblocks
  rw [hname] at hc
  rw [hvalue] at hd
  -- A setting past the low byte would sit in the next block, and there is none.
  have hhigh : s.param.offsetByte 0 = 0 := by
    rcases params_high _ s.mem_table _ s.mem_param with h | h
    · exact h
    · obtain ⟨-, hlt, -⟩ := params_sevenBit _ s.mem_table _ s.mem_param
      obtain ⟨y, hy, hyk, -⟩ := Index.index_eq_some hc
      have hnext := efct_overrun _ s.mem_container _ s.mem_block h y hy
      simp only [third] at hyk hlt hnext ⊢
      omega
  have hthird : s.third = s.block.addressByte 1 := by rw [third, hhigh, Nat.add_zero]
  rw [hthird] at hc
  -- A block in the upper half of its byte is decoded by a table that ends below it.
  have hlow : s.block.addressByte 2 = 0 := by
    rcases blocks_low _ s.mem_container _ s.mem_block with h | ha | ⟨h64, -, hm, hi⟩
    · exact h
    · exact absurd ha (assign_missing _ s.mem_table)
    · have hpatch : l.patchTable = s.block.table := by
        simp only [hc, Option.map_some, Option.some.injEq] at hi
        exact hi.trans hm.symm
      rw [hpatch, s.lastByteOption_table] at hsettings
      cases hsettings
      obtain ⟨y, hy, hyk, -⟩ := Index.index_eq_some hd
      have hy64 := masterFx_low _ s.mem_table hm y hy
      simp only [fourth] at hyk h64
      omega
  have hfourth : s.fourth = s.param.offsetByte 1 := by rw [fourth, hlow, Nat.zero_add]
  rw [hfourth] at hd
  have hblock : blocksAt s.container s.block = 1 := by
    rcases blocks_shared _ s.mem_container _ s.mem_block with h | ha | ⟨h, -⟩ | ⟨h, -⟩
    · exact h
    · exact absurd ha (assign_missing _ s.mem_table)
    · exact absurd hlow h
    · exact absurd (by rw [hc]; rfl) h
  have hpatch : l.patchTable = s.block.table := by
    have := s.blockIndex_of_alone hblock
    rw [hc] at this
    exact (Prod.mk.inj (Option.some.inj this)).2
  rw [hpatch, s.lastByteOption_table] at hsettings
  cases hsettings
  refine ⟨hblock, hhigh, ?_⟩
  rcases settings_shared s.mem_table s.mem_param with h | h | h
  · exact absurd hhigh h
  · exact h
  · exact absurd (by rw [hd]; rfl) h

end Slot

/-- **`decode` undoes `address_for`, exactly** where nothing else answers to the same bytes: for
every address the map builds and every value that fits the setting. -/
theorem decode_addressFor_iff {sectionName option setting : String} {address : List Nat} {e : Param}
    {v : Nat} (ha : addressMap.addressFor sectionName option setting none = .ok (some address))
    (he : addressMap.settingEntry sectionName option setting = .ok (some (.param e))) (hv : e.Fits v) :
    ∃ data, addressMap.addressFor sectionName option setting (some (.int v)) =
        .ok (some (address ++ data)) ∧
      ((∃ d, addressMap.decode address (.list data) = .ok (some d) ∧ d.sectionName = sectionName ∧
          d.name = option ∧ d.valueName = setting ∧ d.intValue = v) ↔
        Unshared sectionName option setting) := by
  obtain ⟨s, rfl⟩ := exists_slot ha
  obtain rfl : s.param = e := by simpa using s.settingEntry_eq.symm.trans he
  obtain ⟨data, henc, hraw⟩ := rawInt_encodeValue hv
  refine ⟨data, by rw [s.addressFor_value, henc, map_ok], fun ⟨d, hd, hsec, hopt, hset, hint⟩ => ?_,
    fun ⟨s', hb, h0, hs⟩ => ?_⟩
  · obtain ⟨l, hl, -, -, hfields⟩ := decode_eq_some hd
    refine ⟨s, s.unshared_of_locate hl ?_ ?_⟩
    · rw [← hopt, hfields]
    · rw [← hset, hfields]
  · have hparam : s.param = s'.param := by
      simpa using s.settingEntry_eq.symm.trans s'.settingEntry_eq
    have haddr : s.address = s'.address := by
      simpa using s.addressFor_eq.symm.trans s'.addressFor_eq
    have hl := s'.locate_of_unshared hb h0 hs
    rw [← haddr] at hl
    obtain ⟨d, hd, h1, h2, h3, h4⟩ := decode_of_locate hl (hparam ▸ hraw)
    exact ⟨d, hd, h1, h2, h3, h4⟩

/-- `comp` SUSTAIN at 71. -/
theorem decode_addressFor_sustain :
    ∃ data, addressMap.addressFor AddressMap.patchSection "comp" "SUSTAIN" (some (.int 71)) =
        .ok (some ([0x10, 0, 0x12, 2] ++ data)) ∧
      ((∃ d, addressMap.decode [0x10, 0, 0x12, 2] (.list data) = .ok (some d) ∧
          d.sectionName = AddressMap.patchSection ∧ d.name = "comp" ∧ d.valueName = "SUSTAIN" ∧
          d.intValue = 71) ↔
        Unshared AddressMap.patchSection "comp" "SUSTAIN") :=
  decode_addressFor_iff (e := ⟨[0, 2], [0, 100], 1, []⟩) (v := 71) (by decide)
    (by decide) (by decide)

/-- A write to `fx1Dist` TYPE comes back as one to `fx1MasterFx`, and one to `CHAIN ELEMENT25`
does not come back at all. -/
theorem decode_fx1Dist_lost :
    (addressMap.addressFor AddressMap.patch3Section "fx1Dist" "TYPE" (some (.int 0)) =
        .ok (some ([0x10, 2, 0x1F, 0] ++ [0])) ∧
      (addressMap.decode [0x10, 2, 0x1F, 0] (.list [0])).map (Option.map (·.name)) =
        .ok (some "fx1MasterFx")) ∧
    addressMap.addressFor AddressMap.patchSection "efct" "CHAIN ELEMENT25" (some (.int 0)) =
        .ok (some ([0x10, 0, 0x11, 0] ++ [0])) ∧
      addressMap.decode [0x10, 0, 0x11, 0] (.list [0]) = .ok none := by
  decide

end Pygt1000
