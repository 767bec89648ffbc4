import Pygt1000.BlockAddresses
import Pygt1000.BlockReader
import Pygt1000.Lib.Cells
import Pygt1000.SysExCodec

/-!
# A written value reads back

`address_for_block` with a value says where a setting is and what bytes stand for the value; a
read takes the address from the same function, but the width from `block_setting_bytes`, which
looks the entry up again, and puts the bytes together in `_fetch_value`. Between the two lies the
unit. What it does is kept to what the protocol says of it: the data of a DT1 goes to consecutive
addresses (`stored`), an RQ1 is answered with what is there (`answering`). How it counts
addresses, and what it is called, is left open.

Both sides agree for every entry, width and value (`written_reads_back`): the map may be any whose
tables have the format of the spec files (`TableFormat`), as long as the section starts at `10`,
so that the sum of the three offsets fills the four address bytes of a frame.
-/

namespace Pygt1000

open Specs

/-! ## The unit -/

section

variable {ι : Type} [DecidableEq ι] (cell : List Nat → Nat → ι) (deviceId : Nat)

/-- The unit's memory after a message: the data of a DT1 goes to consecutive addresses. -/
def stored (memory : ι → Nat) (message : List Nat) : ι → Nat :=
  match parseDataReply deviceId message with
  | some (address, data) => Cells.store (cell address) data memory
  | none => memory

/-- `fetch_mem` (`gt1000.py:199-202`) on a unit that answers: the reply to an RQ1 is a data frame
with the bytes stored there, and the link hands back its data. -/
def answering (memory : ι → Nat) : Fetch := fun offset length =>
  (parseDataReply deviceId (encodeDt1 deviceId
    (offset ++ Cells.fetch (cell offset) (BigEndian.value 128 length) memory) none)).map Prod.snd

variable {cell deviceId} {memory : ι → Nat} {address data : List Nat}

theorem stored_encodeDt1 (ha : address.length = 4) :
    stored cell deviceId memory (encodeDt1 deviceId (address ++ data) none) =
      Cells.store (cell address) data memory := by
  rw [stored, parseDataReply_encodeDt1 deviceId data ha]

omit [DecidableEq ι] in
theorem answering_eq (ha : address.length = 4) (width : Nat) :
    answering cell deviceId memory address [0, 0, 0, width] =
      some (Cells.fetch (cell address) width memory) := by
  rw [answering, parseDataReply_encodeDt1 deviceId _ ha]
  simp [BigEndian.value]

/-- What was written is what the next read of that many bytes is answered with. -/
theorem answering_stored (deviceId : Nat) (memory : ι → Nat) (ha : address.length = 4)
    (hcell : ∀ i < data.length, ∀ j < data.length, cell address i = cell address j → i = j) :
    answering cell deviceId (stored cell deviceId memory (encodeDt1 deviceId (address ++ data) none))
      address [0, 0, 0, data.length] = some data := by
  rw [answering_eq ha, stored_encodeDt1 ha, Cells.fetch_store hcell]

end

/-! ## Four address bytes -/

/-- The format of the spec files: bytes, four of them for a section and at most three for what is
added to it. -/
structure TableFormat (m : AddressMap) : Prop where
  base : ∀ x ∈ m.baseAddresses, x.2.address.length = 4 ∧ ∀ b ∈ x.2.address, b < 256
  block : ∀ name container, m.tables name = some (.refs container) →
    ∀ x ∈ container, x.2.address.length ≤ 3 ∧ ∀ b ∈ x.2.address, b < 256
  setting : ∀ name table, m.tables name = some (.params table) →
    ∀ x ∈ table, x.2.offset.length ≤ 3 ∧ ∀ b ∈ x.2.offset, b < 256

/-- Three bytes at most. -/
theorem bytesToInt_lt {l : List Nat} (h : l.length ≤ 3 ∧ ∀ b ∈ l, b < 256) :
    bytesToInt l < 256 ^ 3 :=
  (BigEndian.value_lt (by decide) h.2).trans_le (Nat.pow_le_pow_right (by decide) h.1)

/-- A temporary-patch section, as a number. -/
theorem bytesToInt_section {l : List Nat} (hlen : l.length = 4) (hl : ∀ b ∈ l, b < 256)
    (h10 : l.head? = some 0x10) : 0x10 * 256 ^ 3 ≤ bytesToInt l ∧ bytesToInt l < 0x11 * 256 ^ 3 := by
  obtain ⟨a, b, c, d, rfl⟩ : ∃ a b c d, l = [a, b, c, d] := by
    match l, hlen with
    | [a, b, c, d], _ => exact ⟨a, b, c, d, rfl⟩
  obtain rfl : a = 0x10 := by simpa using h10
  have hb := hl b (by simp)
  have hc := hl c (by simp)
  have hd := hl d (by simp)
  simp only [bytesToInt, BigEndian.value, List.foldl_cons, List.foldl_nil]
  omega

namespace Slot

variable {m : AddressMap} {sectionName option setting : String}

theorem address_length (s : Slot m sectionName option setting) (hm : TableFormat m)
    (h10 : s.base.address.head? = some 0x10) : s.address.length = 4 := by
  obtain ⟨hlen, hbytes⟩ := hm.base _ (mem_of_lookup s.base_lookup)
  have ⟨hlo, hhi⟩ : 0x10 * 256 ^ 3 ≤ bytesToInt s.base.address ∧
      bytesToInt s.base.address < 0x11 * 256 ^ 3 := bytesToInt_section hlen hbytes h10
  have hblock : bytesToInt s.block.address < 256 ^ 3 :=
    bytesToInt_lt (hm.block _ _ s.container_lookup _ (mem_of_lookup s.block_lookup))
  have hsetting : bytesToInt s.param.offset < 256 ^ 3 :=
    bytesToInt_lt (hm.setting _ _ s.table_lookup _ (mem_of_lookup s.param_lookup))
  exact BigEndian.length_digits (by decide) (by omega) (by omega)

end Slot

/-! ## Both sides of the unit -/

/-- The bytes written for a value, as many as the entry says. -/
theorem length_encodeValue {e : Param} {n : Int} {data : List Nat} (hw : 0 < e.bytes)
    (h : AddressMap.encodeValue e (.int n) = .ok data) : data.length = e.bytes := by
  simp only [AddressMap.encodeValue] at h
  split at h
  · cases h
    exact length_packNibbles n e.bytes
  · split at h
    · cases h
      simp only [List.length_singleton]
      omega
    · cases h

section

variable {m : AddressMap} {fxType setting sectionName option : String} {fxId : StrOrInt}
  {fxName : Option StrOrInt} {address : List Nat}

/-- Where `address_for_block` returns an address there is a slot, in the section and under the
option that `_block_section_option` names. -/
theorem exists_blockSlot (hso : m.blockSectionOption fxType fxId fxName = .ok (sectionName, option))
    (ha : m.addressForBlock fxType fxId setting none fxName = .ok (some address)) :
    ∃ s : Slot m sectionName option setting, s.address = address := by
  unfold AddressMap.addressForBlock at ha
  rw [hso, ok_bind] at ha
  exact exists_slot ha

theorem Slot.blockSettingBytes_eq (s : Slot m sectionName option setting)
    (hso : m.blockSectionOption fxType fxId fxName = .ok (sectionName, option)) :
    m.blockSettingBytes fxType fxId setting fxName = .ok s.param.bytes :=
  AddressMap.blockSettingBytes_routed hso s.settingEntry_eq

theorem Slot.addressForBlock_value (s : Slot m sectionName option setting)
    (hso : m.blockSectionOption fxType fxId fxName = .ok (sectionName, option)) (value : StrOrInt) :
    m.addressForBlock fxType fxId setting (some value) fxName =
      (AddressMap.encodeValue s.param value).map fun data => some (s.address ++ data) := by
  rw [AddressMap.addressForBlock_routed hso, s.addressFor_value]

/-- **A written value reads back**: on any map in the format of the spec files, for every block and
setting that resolve in a section starting at `10`, and every value that fits the setting's width,
the unit that is sent `address_for_block` with the value answers the read with that value, and no
address but the setting's own has changed. -/
theorem written_reads_back (hm : TableFormat m) {base : Ref} {e : Param} {v : Nat}
    (hso : m.blockSectionOption fxType fxId fxName = .ok (sectionName, option))
    (hbase : m.baseAddresses.lookup sectionName = some base) (h10 : base.address.head? = some 0x10)
    (ha : m.addressForBlock fxType fxId setting none fxName = .ok (some address))
    (he : m.settingEntry sectionName option setting = .ok (some (.param e)))
    (hw : 0 < e.bytes) (hv : e.Fits v) {ι : Type} [DecidableEq ι] {cell : List Nat → Nat → ι}
    (hcell : ∀ i < e.bytes, ∀ j < e.bytes, cell address i = cell address j → i = j)
    (deviceId : Nat) (memory : ι → Nat) :
    ∃ addressValue after,
      m.addressForBlock fxType fxId setting (some (.int v)) fxName = .ok (some addressValue) ∧
      after = stored cell deviceId memory (encodeDt1 deviceId addressValue none) ∧
      m.blockSettingBytes fxType fxId setting fxName = .ok e.bytes ∧
      BlockReader.fetchValue (answering cell deviceId after) (some address) e.bytes = .ok (some v) ∧
      (fxName = none → BlockReader.read m (answering cell deviceId after) fxType fxId setting true =
        .ok (some (.int v))) ∧
      (∀ s : PatchState, s.fxName fxId = .ok fxName →
        BlockReader.readFx m (answering cell deviceId after) s fxType fxId setting =
          (do
            let table ← m.fxNameValueTable (← AddressMap.tableSuffix (← subscript fxName))
            return some (← readLabel table setting v))) ∧
      ∀ c, (∀ i < e.bytes, c ≠ cell address i) → after c = memory c := by
  obtain ⟨s, rfl⟩ := exists_blockSlot hso ha
  obtain rfl : s.param = e := by simpa using s.settingEntry_eq.symm.trans he
  obtain rfl : s.base = base := by simpa using s.base_lookup.symm.trans hbase
  have hlen : s.address.length = 4 := s.address_length hm h10
  obtain ⟨data, henc, hraw⟩ := rawInt_encodeValue hv
  have hdata : data.length = s.param.bytes := length_encodeValue hw henc
  have hwrite := s.addressForBlock_value hso (.int v)
  rw [henc, map_ok] at hwrite
  have hwidth := s.blockSettingBytes_eq hso
  have hanswer := answering_stored deviceId memory hlen (hdata.symm ▸ hcell)
  rw [hdata] at hanswer
  have hfetch := fetchValue_rawInt hanswer
  rw [hraw, map_ok] at hfetch
  refine ⟨s.address ++ data, _, hwrite, rfl, hwidth, hfetch, fun hnone => ?_, fun st hst => ?_,
    fun c hc => ?_⟩
  · subst hnone
    simp [BlockReader.read, ha, hwidth, hfetch]
  · simp only [BlockReader.readFx, hst, ha, hwidth, hfetch, ok_bind]
  · rw [stored_encodeDt1 hlen]
    exact Cells.store_other (hdata.symm ▸ hc)

end

/-! ## The shipped map -/

theorem tableFormat_shipped : TableFormat addressMap where
  base := by
    show ∀ x ∈ baseAddresses, _
    decide
  block name container h x hx := by
    obtain ⟨haddr, h1, h2⟩ := blocks_sevenBit _ (mem_containers h) x hx
    rw [haddr]
    refine ⟨by simp, ?_⟩
    simp only [List.forall_mem_cons, List.not_mem_nil, false_imp_iff, implies_true, and_true]
    omega
  setting name table h x hx := by
    obtain ⟨hoff, h0, h1⟩ := params_sevenBit _ (mem_params h) x hx
    rw [hoff]
    refine ⟨by simp, ?_⟩
    simp only [List.forall_mem_cons, List.not_mem_nil, false_imp_iff, implies_true, and_true]
    omega

/-- One second of delay, spread over four addresses. -/
theorem written_reads_back_delay :
    let cell (address : List Nat) (i : Nat) := BigEndian.value 128 address + i
    ∃ addressValue after,
      addressMap.addressForBlock "delay" (.int 1) "TIME" (some (.int 1000)) none =
        .ok (some addressValue) ∧
      after = stored cell 0x10 (fun _ => 0) (encodeDt1 0x10 addressValue none) ∧
      BlockReader.read addressMap (answering cell 0x10 after) "delay" (.int 1) "TIME" true =
        .ok (some (.int 1000)) := by
  intro cell
  have hdelay : HasBlock addressMap ⟨"delay", .int 1, 0, 0x1D, "1"⟩ := hasBlock_shipped (by decide)
  have hlookup : (TopBlock.table ⟨"delay", .int 1, 0, 0x1D, "1"⟩).lookup "TIME" =
      some ⟨[0, 1], [1, 2018], 4, numbered 2001 noteTimes⟩ := by decide
  have hsetting : addressMap.settingEntry AddressMap.patchSection "delay1" "TIME" =
      .ok (some (.param ⟨[0, 1], [1, 2018], 4, numbered 2001 noteTimes⟩)) := by decide
  have hbase : addressMap.baseAddresses.lookup AddressMap.patchSection =
      some ⟨[0x10, 0, 0, 0], "Patch"⟩ := by decide
  have hcell : ∀ i < 4, ∀ j < 4, cell [0x10, 0, 0x1D, 1] i = cell [0x10, 0, 0x1D, 1] j → i = j :=
    fun i _ j _ h => Nat.add_left_cancel h
  obtain ⟨addressValue, after, hwrite, hafter, -, -, hread, -⟩ :=
    written_reads_back tableFormat_shipped (v := 1000) hdelay.blockSectionOption_eq hbase rfl
      (hdelay.addressForBlock_eq hlookup) hsetting (by decide) (by decide) hcell 0x10 (fun _ => 0)
  exact ⟨addressValue, after, hwrite, hafter, hread rfl⟩

end Pygt1000
