import Pygt1000.Scan

/-!
# Writing a value (`address_map.py:287-309`, `gt1000.py:225-251`)

| here | there |
| --- | --- |
| `encodeValue`   | the value bytes of `address_for` (`address_map.py:293-309`) |
| `setFxTypeType` | `set_fx_type_type` (`gt1000.py:244-251`) |

Nothing compares a value with what its setting can hold. A value of one byte goes through
`to_bytes(1)`, which raises below 0 and from 256 on and lets 128 to 255 through, no data bytes of
SysEx; a wider value is cut into nibbles, of a negative one as well, and what does not fit is
dropped. `encode_intact_iff` says which values arrive as they are.

An unknown name of a type is logged by `set_fx_type_type`, which then goes on with the `None` it
got, and to `address_for` that `None` means: the address alone. `unknown_type_silent_iff` says
where nothing is sent all the same.
-/

namespace Pygt1000

open Specs

/-! ## Values that arrive -/

/-- The values that a parameter is sent as they are, or refused: a nibble for every byte of a wide
one, and of a narrow one not the numbers that fill a byte and are no data byte. -/
def Specs.Param.Intact (e : Param) (v : Int) : Prop :=
  if 1 < e.bytes then 0 ≤ v ∧ v < 16 ^ e.bytes else ¬ (0x80 ≤ v ∧ v ≤ 0xFF)

instance (e : Param) (v : Int) : Decidable (e.Intact v) := inferInstanceAs (Decidable (ite ..))

/-- What the bytes `data` carry to the reader of `e`: each a data byte, as many as it is wide, and
together `v`. -/
structure Carries (e : Param) (v : Int) (data : List Nat) : Prop where
  width : data.length = e.bytes
  sevenBit : ∀ b ∈ data, b < 0x80
  value : ∃ n : Nat, rawInt e (.list data) = .ok n ∧ (n : Int) = v

variable {e : Param} {v : Int} {data : List Nat}

/-- A wide value: the bytes are always made, and carry it where it fits. -/
theorem carries_packNibbles_iff (hw : 1 < e.bytes) :
    Carries e v (packNibbles v e.bytes) ↔ 0 ≤ v ∧ v < 16 ^ e.bytes := by
  have hraw := rawInt_packNibbles hw v
  have hvalue := unpackNibbles_packNibbles_int v e.bytes
  constructor
  · rintro ⟨-, -, n, hn, hnv⟩
    obtain rfl : unpackNibbles (packNibbles v e.bytes) = n := Except.ok.inj (hraw.symm.trans hn)
    have hmod : v % 16 ^ e.bytes = v := by rw [← hvalue, hnv]
    have hpos : (0 : Int) < 16 ^ e.bytes := by positivity
    exact ⟨hmod ▸ Int.emod_nonneg v hpos.ne', hmod ▸ Int.emod_lt_of_pos v hpos⟩
  · rintro ⟨h0, hlt⟩
    refine ⟨length_packNibbles v e.bytes, fun b hb => ?_, _, hraw, ?_⟩
    · have := packNibbles_lt v e.bytes b hb
      omega
    · rw [hvalue, Int.emod_eq_of_lt h0 hlt]

/-- A narrow one: the byte carries it where it is a data byte. -/
theorem carries_byte_iff (hw : e.bytes = 1) (h0 : 0 ≤ v) : Carries e v [v.toNat] ↔ v < 0x80 := by
  constructor
  · rintro ⟨-, hseven, -⟩
    have := hseven v.toNat List.mem_cons_self
    omega
  · intro hlt
    refine ⟨by rw [hw]; rfl, fun b hb => ?_, v.toNat, by simp [rawInt, hw], by omega⟩
    rw [List.mem_singleton.1 hb]
    omega

/-- The bytes of a value, where any are made, carry it exactly if it is intact. -/
theorem encodeValue_carries_iff (hpos : 0 < e.bytes) :
    (∀ data, AddressMap.encodeValue e (.int v) = .ok data → Carries e v data) ↔ e.Intact v := by
  unfold Specs.Param.Intact
  by_cases hw : 1 < e.bytes
  · have hmade : AddressMap.encodeValue e (.int v) = .ok (packNibbles v e.bytes) := by
      simp only [AddressMap.encodeValue, if_pos hw]
    rw [if_pos hw, ← carries_packNibbles_iff hw, hmade]
    exact ⟨fun h => h _ rfl, fun h data hd => Except.ok.inj hd ▸ h⟩
  · rw [if_neg hw]
    by_cases hrange : 0 ≤ v ∧ v ≤ 255
    · have hmade : AddressMap.encodeValue e (.int v) = .ok [v.toNat] := by
        simp only [AddressMap.encodeValue, if_neg hw, if_pos hrange]
      have hbyte := carries_byte_iff (e := e) (by omega) hrange.1
      rw [hmade]
      constructor
      · intro h
        have := hbyte.1 (h _ rfl)
        omega
      · intro h data hd
        exact Except.ok.inj hd ▸ hbyte.2 (by omega)
    · have hraises : AddressMap.encodeValue e (.int v) = .error .overflowError := by
        simp only [AddressMap.encodeValue, if_neg hw, if_neg hrange]
      rw [hraises]
      refine iff_of_true (fun data hd => ?_) (by omega)
      cases hd

/-- **What arrives of a value, exactly**: for every setting that resolves and every integer,
`address_for` refuses it or appends to the address as many data bytes as the setting is wide, from
which the reader gets the integer back, if and only if the integer is intact there. -/
theorem encode_intact_iff {m : AddressMap} (hm : Loaded m) {sectionName option setting : String}
    {address : List Nat} {e : Param}
    (ha : m.addressFor sectionName option setting none = .ok (some address))
    (he : m.settingEntry sectionName option setting = .ok (some (.param e))) (v : Int) :
    (∀ payload, m.addressFor sectionName option setting (some (.int v)) = .ok (some payload) →
        ∃ data, payload = address ++ data ∧ Carries e v data) ↔ e.Intact v := by
  rw [hm.addressFor_eq] at ha ⊢
  rw [hm.settingEntry_eq] at he
  obtain ⟨s, rfl⟩ := exists_slot ha
  obtain rfl : s.param = e := by simpa using s.settingEntry_eq.symm.trans he
  have hpos : 0 < s.param.bytes := params_bytes _ s.mem_table _ s.mem_param
  rw [← encodeValue_carries_iff hpos, s.addressFor_value]
  constructor
  · intro h data hd
    obtain ⟨data', heq, hcarries⟩ := h (s.address ++ data) (by rw [hd, map_ok])
    rwa [List.append_cancel_left heq]
  · intro h payload hp
    cases hd : AddressMap.encodeValue s.param (.int v) with
    | error err => simp [hd] at hp
    | ok data =>
      rw [hd, map_ok, Except.ok.injEq, Option.some.injEq] at hp
      exact ⟨data, hp.symm, h data hd⟩

/-- `comp` SUSTAIN takes 71, and refuses 300. -/
theorem encode_intact_sustain :
    (∀ payload, addressMap.addressFor AddressMap.patchSection "comp" "SUSTAIN" (some (.int 71)) =
        .ok (some payload) →
      ∃ data, payload = [0x10, 0, 0x12, 2] ++ data ∧ Carries ⟨[0, 2], [0, 100], 1, []⟩ 71 data) ↔
      Specs.Param.Intact ⟨[0, 2], [0, 100], 1, []⟩ 71 :=
  encode_intact_iff (Or.inl rfl) (by decide) (by decide) 71

/-- 200 goes to `comp` SUSTAIN as a status byte, and -1 to `delay1` TIME as 65535. -/
theorem encode_alters :
    ¬ (∀ payload, addressMap.addressFor AddressMap.patchSection "comp" "SUSTAIN" (some (.int 200)) =
        .ok (some payload) →
      ∃ data, payload = [0x10, 0, 0x12, 2] ++ data ∧ Carries ⟨[0, 2], [0, 100], 1, []⟩ 200 data) ∧
    ¬ (∀ payload, addressMap.addressFor AddressMap.patchSection "delay1" "TIME" (some (.int (-1))) =
        .ok (some payload) →
      ∃ data, payload = [0x10, 0, 0x1D, 1] ++ data ∧
        Carries ⟨[0, 1], [1, 2018], 4, numbered 2001 noteTimes⟩ (-1) data) := by
  constructor
  · intro h
    obtain ⟨data, heq, hcarries⟩ := h ([0x10, 0, 0x12, 2] ++ [200]) (by decide)
    obtain rfl : [200] = data := List.append_cancel_left heq
    exact absurd (hcarries.sevenBit 200 List.mem_cons_self) (by decide)
  · intro h
    obtain ⟨data, -, hcarries⟩ := h ([0x10, 0, 0x1D, 1] ++ [15, 15, 15, 15]) (by decide)
    obtain ⟨n, -, hn⟩ := hcarries.value
    omega

/-! ## Unknown names of a type -/

namespace Gt1000

/-- `set_fx_type_type` (`gt1000.py:244-251`). -/
def setFxTypeType (m : AddressMap) (link : DeviceLink.Link) (fxType : String) (fxId : StrOrInt)
    (newType : String) : Except PyErr DeviceLink.Link := do
  let typeValue ← m.valueFor fxType "TYPE" newType
  let addressValue ← m.addressForBlock fxType fxId "TYPE" (typeValue.map fun n : Nat => .int n) none
  DeviceLink.set link addressValue

end Gt1000

/-- The id names a block that has a TYPE: the section it is routed to has an option of that name,
whose table has the setting. -/
def NamesTyped (m : AddressMap) (fxType : String) (fxId : StrOrInt) : Prop :=
  ∃ fxId', m.normalizeBlock fxType fxId = .ok (fxType, fxId') ∧
    Nonempty (Slot addressMap (AddressMap.startSection fxType fxId') (fxType ++ fxId'.toStr) "TYPE")

section

variable {m : AddressMap} (hm : Loaded m) {fxType : String} {fxId : StrOrInt}
include hm

theorem Loaded.valueFor_eq {name : String} {table : List (String × Param)}
    (ht : (fxType, name, table) ∈ valueTables) {prop : String} {e : Param}
    (he : table.lookup prop = some e) (valueName : String) :
    m.valueFor fxType prop valueName = .ok (e.values.lookup valueName) := by
  have hname : fxTypeTableName fxType = name := fxTypeTableName_shipped (fxType, name, table) ht
  have htable : m.tables name = some (.params table) := by
    rw [hm.tables_eq]
    exact tables_params (valueTables_shipped (fxType, name, table) ht)
  simp [AddressMap.valueFor, hname, htable, he]

/-- The bare address of the TYPE is built exactly where the id names a block that has one. -/
theorem Loaded.addressForBlock_some_iff :
    (∃ address, m.addressForBlock fxType fxId "TYPE" none none = .ok (some address)) ↔
      NamesTyped m fxType fxId := by
  simp only [AddressMap.addressForBlock, AddressMap.blockSectionOption, hm.addressFor_eq, NamesTyped]
  cases hn : m.normalizeBlock fxType fxId with
  | error err => simp
  | ok normal =>
    obtain ⟨count, -, heq⟩ := bind_eq_ok hn
    obtain rfl : (fxType, AddressMap.normalId count fxType fxId) = normal := Except.ok.inj heq
    simp only [ok_bind, pure_eq_ok, Except.ok.injEq, Prod.mk.injEq, true_and, exists_eq_left']
    constructor
    · rintro ⟨address, ha⟩
      obtain ⟨s, -⟩ := exists_slot ha
      exact ⟨s⟩
    · rintro ⟨s⟩
      exact ⟨_, s.addressFor_eq⟩

end

/-- Every block of the unit that has a TYPE is named so. -/
theorem HasBlock.namesTyped {m : AddressMap} {b : TopBlock} (h : HasBlock m b) {e : Param}
    (he : b.table.lookup "TYPE" = some e) : NamesTyped m b.fxType b.fxId :=
  h.1.addressForBlock_some_iff.1 ⟨_, h.addressForBlock_eq he⟩

/-- **An unknown name of a type sends nothing, exactly** where the id names no block of the type
that has a TYPE. Where it names one, a DT1 without data goes out. -/
theorem unknown_type_silent_iff {m : AddressMap} (hm : Loaded m) {fxType name : String}
    {table : List (String × Param)} {e : Param} (ht : (fxType, name, table) ∈ valueTables)
    (he : table.lookup "TYPE" = some e) {newType : String} (hnew : e.values.lookup newType = none)
    (fxId : StrOrInt) (link : DeviceLink.Link) :
    (∀ link', Gt1000.setFxTypeType m link fxType fxId newType = .ok link' → link'.sent = link.sent) ↔
      ¬ NamesTyped m fxType fxId := by
  rw [← hm.addressForBlock_some_iff]
  have hcall : Gt1000.setFxTypeType m link fxType fxId newType =
      (m.addressForBlock fxType fxId "TYPE" none none >>= DeviceLink.set link) := by
    simp only [Gt1000.setFxTypeType, hm.valueFor_eq ht he, hnew, ok_bind, Option.map_none]
  rw [hcall]
  cases ha : m.addressForBlock fxType fxId "TYPE" none none with
  | error err => simp
  | ok found =>
    cases found with
    | none => simp [DeviceLink.set]
    | some address => simp [DeviceLink.set, DeviceLink.send]

/-- There is no fifth fx block. -/
theorem unknown_type_silent_fx5 :
    (∀ link', Gt1000.setFxTypeType addressMap (DeviceLink.fresh 0x10) "fx" (.int 5) "WAH WAH" =
        .ok link' → link'.sent = (DeviceLink.fresh 0x10).sent) ↔
      ¬ NamesTyped addressMap "fx" (.int 5) :=
  have ht : ("fx", "PatchFx", patchFx) ∈ valueTables := by decide
  unknown_type_silent_iff (Or.inl rfl) ht (fxType_selector _ ht rfl) (by decide) (.int 5)
    (DeviceLink.fresh 0x10)

/-- An effect nobody knows, for fx 1: the address of its TYPE goes out with no data. -/
theorem unknown_type_sent :
    fxType.values.lookup "WAH WAH" = none ∧
      ∃ link', Gt1000.setFxTypeType addressMap (DeviceLink.fresh 0x10) "fx" (.int 1) "WAH WAH" =
        .ok link' ∧ link'.sent = [encodeDt1 0x10 [0x10, 0, 0x23, 1] none] := by
  have hb : HasBlock addressMap ⟨"fx", .int 1, 0, 0x23, "1"⟩ := hasBlock_shipped (by decide)
  have ht := TopBlock.mem_valueTables hb.mem
  have he := fxType_selector _ ht rfl
  have hnew : fxType.values.lookup "WAH WAH" = none := by decide
  have haddress := hb.addressForBlock_eq he
  refine ⟨hnew, DeviceLink.send (DeviceLink.fresh 0x10) (encodeDt1 0x10 [0x10, 0, 0x23, 1] none), ?_, rfl⟩
  simp only [Gt1000.setFxTypeType, Loaded.valueFor_eq (Or.inl rfl) ht he, hnew, ok_bind,
    Option.map_none, haddress]
  rfl

end Pygt1000
