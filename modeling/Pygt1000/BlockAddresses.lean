import Pygt1000.TopBlocks
import Pygt1000.RoundTrip

/-!
# Addresses of the top-level blocks, and what they decode to

For a block of `topBlocks` and a setting of its table: the address `address_for_block` gives it
(`addressForBlock_topBlock`), and what `decode` says of a frame there (`decode_topBlock`).
-/

namespace Pygt1000

open Specs

theorem mem_blocksOf {t : String} {n : Nat} {b : TopBlock} (h : b ∈ blocksOf t n) :
    b ∈ topBlocks ∧ b.fxType = t := by
  have := List.mem_filter.1 (List.mem_of_mem_take h)
  exact ⟨this.1, by simpa using this.2⟩

theorem length_blocksOf {t : String} {n : Nat} (h : (t, n) ∈ blockCounts) :
    (blocksOf t n).length = n := by
  have := congrArg List.length (blocksOf_normalized _ h).1
  simpa using this.symm

namespace TopBlock

variable {b : TopBlock} (hb : b ∈ topBlocks) {setting : String} {e : Param}
include hb

theorem valueTables_lookup : valueTables.lookup b.fxType = some (b.tableName, b.table) := by
  obtain ⟨t, ht⟩ := Option.isSome_iff_exists.1 (topBlocks_table b hb).2.2.2.2
  simp [tableName, table, ht]

theorem mem_valueTables : (b.fxType, b.tableName, b.table) ∈ valueTables :=
  mem_of_lookup (valueTables_lookup hb)

theorem table_mem : (b.tableName, b.table) ∈ params := valueTables_shipped _ (mem_valueTables hb)

theorem fxValueTable_eq : addressMap.fxValueTable b.fxType = .ok (.params b.table) := by
  simp [AddressMap.fxValueTable, AddressMap.valueTable, fxTables_valueTables _ (mem_valueTables hb),
    tables_params (table_mem hb)]

/-- The lookups of a setting of the block's table. -/
theorem exists_slot (he : b.table.lookup setting = some e) :
    ∃ s : Slot addressMap b.sectionName b.option setting,
      s.base.address = [0x10, b.second, 0, 0] ∧ s.block = ⟨[0, b.third, 0], b.tableName⟩ ∧
      s.table = b.table ∧ s.param = e := by
  obtain ⟨container, hfound⟩ := topBlocks_found b hb
  obtain ⟨hbase, t, ht, hblock⟩ := findOption_some hfound
  obtain ⟨blocks, rfl, hlookup⟩ := find?_eq_ref hblock
  exact ⟨⟨_, blocks, _, b.table, e, hbase, ht, hlookup, tables_params (table_mem hb), he⟩,
    rfl, rfl, rfl, rfl⟩

theorem locate_slot (s : Slot addressMap b.sectionName b.option setting)
    (hbase : s.base.address = [0x10, b.second, 0, 0])
    (hblock : s.block = ⟨[0, b.third, 0], b.tableName⟩) :
    s.address = [0x10, b.second, b.third, s.param.offsetByte 1] ∧
    addressMap.locate s.address =
      some ⟨b.sectionName, s.base.table, b.option, b.tableName, setting, s.param⟩ := by
  obtain ⟨hassign, hdist, hmaster, hefct, -⟩ := topBlocks_table b hb
  have hname : s.block.table = b.tableName := by rw [hblock]
  have halone : blocksAt s.container s.block = 1 := by
    rcases blocks_shared _ s.mem_container _ s.mem_block with h | h | ⟨-, h⟩ | ⟨-, h⟩
    · exact h
    · exact absurd (hname ▸ h) hassign
    · exact absurd (hname ▸ h) hmaster
    · exact absurd (hname ▸ h) hdist
  have hhigh : s.param.offsetByte 0 = 0 := by
    rcases params_high _ s.mem_table _ s.mem_param with h | h
    · exact h
    · exact absurd (hname ▸ h) hefct
  have hlow : settingsAt s.table s.param = 1 := by
    rcases settings_ascending _ s.mem_table with h | h
    · exact absurd (hname ▸ h) hefct
    · exact settingsAt_of_ascending h s.mem_param
  constructor
  · rw [s.address_eq, Slot.third, Slot.fourth, hhigh, hblock]
    simp [Ref.addressByte, hbase]
  · rw [s.locate_of_unshared halone hhigh hlow, hname]

theorem addressFor_eq (he : b.table.lookup setting = some e) :
    addressMap.addressFor b.sectionName b.option setting none =
      .ok (some [0x10, b.second, b.third, e.offsetByte 1]) := by
  obtain ⟨s, hbase, hblock, -, rfl⟩ := exists_slot hb he
  rw [s.addressFor_eq, (locate_slot hb s hbase hblock).1]

theorem decode_eq (he : b.table.lookup setting = some e) {value : RawValue} {v : Nat}
    (hv : rawInt e value = .ok v) :
    ∃ d, addressMap.decode [0x10, b.second, b.third, e.offsetByte 1] value = .ok (some d) ∧
      d.fxType = some b.fxType ∧ d.fxId = some b.decodedId ∧ d.valueName = setting ∧
      d.strValue = labelForRaw e.values v ∧ d.intValue = v ∧ d.fxTableSuffix = none := by
  obtain ⟨s, hbase, hblock, -, rfl⟩ := exists_slot hb he
  obtain ⟨haddr, hl⟩ := locate_slot hb s hbase hblock
  have hfx : fxOf addressMap.fxTypes b.option = .ok (some b.fxType, some b.decodedId, none) :=
    topBlocks_fxOf b hb
  rw [← haddr]
  exact ⟨_, by simp only [AddressMap.decode, hl, AddressMap.decodeAt, hv, hfx, ok_bind]; rfl,
    rfl, rfl, rfl, rfl, rfl, rfl⟩

end TopBlock

/-- `b` is a block of the map `m`. -/
def HasBlock (m : AddressMap) (b : TopBlock) : Prop :=
  Loaded m ∧ ∃ n, m.fxBlockCount b.fxType = .ok n ∧ (b.fxType, n) ∈ blockCounts ∧
    b ∈ blocksOf b.fxType n

section

variable {m : AddressMap} {b : TopBlock}

theorem HasBlock.mem (h : HasBlock m b) : b ∈ topBlocks := by
  obtain ⟨-, n, -, -, hb⟩ := h
  exact (mem_blocksOf hb).1

theorem mem_blocksOf_shipped : ∀ b ∈ topBlocks, ∀ t ∈ blockCounts, t.1 = b.fxType →
    (t.1 = "fx" → t.2 = 4) → b ∈ blocksOf t.1 t.2 := by decide

/-- The shipped map has them all. -/
theorem hasBlock_shipped (hb : b ∈ topBlocks) : HasBlock addressMap b := by
  have ht : b.fxType ∈ fxTypes := topBlocks_fxTypes b hb
  obtain ⟨n, hn, hc⟩ := Loaded.count (m := addressMap) (Or.inl rfl) ht
  refine ⟨Or.inl rfl, n, hc, hn, mem_blocksOf_shipped b hb _ hn rfl fun hfx => ?_⟩
  have hfour := fxBlockCount_fx
  rw [← hfx, hc] at hfour
  exact Except.ok.inj hfour

/-- The blocks of an fx type, by their number. -/
theorem Loaded.block (hm : Loaded m) {t : String} (ht : t ∈ fxTypes) {n i : Nat}
    (hc : m.fxBlockCount t = .ok n) (hi : i < n) :
    ∃ b, HasBlock m b ∧ b.fxType = t ∧ AddressMap.normalId n t (.int (i + 1)) = b.fxId := by
  obtain ⟨n', hn, hc'⟩ := hm.count ht
  obtain rfl : n' = n := Except.ok.inj (hc'.symm.trans hc)
  have hlt : i < (blocksOf t n').length := by rwa [length_blocksOf hn]
  have hmem := List.getElem_mem hlt
  obtain ⟨-, htype⟩ := mem_blocksOf hmem
  have hid := congrArg (·[i]?) (blocksOf_normalized _ hn).1
  simp only [List.getElem?_map, List.getElem?_eq_getElem hlt, List.getElem?_range hi, Option.map_some,
    Option.some.injEq] at hid
  exact ⟨(blocksOf t n')[i], ⟨hm, n', by rw [htype]; exact ⟨hc, hn, hmem⟩⟩, htype, hid⟩

/-- The fx blocks keep their numbers as ids. -/
theorem Loaded.normalId_fx (hm : Loaded m) {n : Nat} (hc : m.fxBlockCount "fx" = .ok n) (i : Int) :
    AddressMap.normalId n "fx" (.int i) = .int i := by
  obtain ⟨n', hn, hc'⟩ := hm.count (t := "fx") (by decide)
  obtain rfl : n' = n := Except.ok.inj (hc'.symm.trans hc)
  have hne : n' ≠ 1 := by
    rintro rfl
    revert hn
    decide
  simp [AddressMap.normalId, hne]

namespace HasBlock

variable (h : HasBlock m b) {setting : String} {e : Param}
include h

/-- A block's section and option, from the id the scan records. -/
theorem blockSectionOption_eq :
    m.blockSectionOption b.fxType b.fxId none = .ok (b.sectionName, b.option) := by
  obtain ⟨-, n, hc, hn, hb⟩ := h
  simp only [AddressMap.blockSectionOption, AddressMap.normalizeBlock, hc, ok_bind,
    (blocksOf_normalized _ hn).2.1 b hb, pure_eq_ok]
  rfl

theorem addressForBlock_eq (he : b.table.lookup setting = some e) :
    m.addressForBlock b.fxType b.fxId setting none none =
      .ok (some [0x10, b.second, b.third, e.offsetByte 1]) := by
  rw [AddressMap.addressForBlock_routed h.blockSectionOption_eq, h.1.addressFor_eq]
  exact TopBlock.addressFor_eq h.mem he

theorem blockSettingBytes_eq (he : b.table.lookup setting = some e) :
    m.blockSettingBytes b.fxType b.fxId setting none = .ok e.bytes := by
  obtain ⟨s, -, -, -, rfl⟩ := TopBlock.exists_slot h.mem he
  refine AddressMap.blockSettingBytes_routed h.blockSectionOption_eq ?_
  rw [h.1.settingEntry_eq, s.settingEntry_eq]

theorem fxValueTable_eq : m.fxValueTable b.fxType = .ok (.params b.table) := by
  rw [h.1.fxValueTable_eq, TopBlock.fxValueTable_eq h.mem]

/-- A frame at an address of the block decodes to the block, under `decodedId`. -/
theorem decode_eq (he : b.table.lookup setting = some e) {value : RawValue} {v : Nat}
    (hv : rawInt e value = .ok v) :
    ∃ d, m.decode [0x10, b.second, b.third, e.offsetByte 1] value = .ok (some d) ∧
      d.fxType = some b.fxType ∧ d.fxId = some b.decodedId ∧ d.valueName = setting ∧
      d.strValue = labelForRaw e.values v ∧ d.intValue = v ∧ d.fxTableSuffix = none := by
  rw [h.1.decode_eq]
  exact TopBlock.decode_eq h.mem he hv

end HasBlock

end

end Pygt1000
