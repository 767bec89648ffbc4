import Pygt1000.TopBlocks

/-!
# Three lookups written out three times (`address_map.py:249-324`)

`address_for`, `_setting_entry` and `value_range` go the same three hops: a section, an option of
its table, a setting of the option's table. They test the keys they were given for being there, and
subscript the rest: `self._tables[..]` with a table name out of a spec entry, and in `value_range`
the setting too. So a section whose table is not shipped (`midi`), an option that is itself a
parameter (`TUNER MODE` of `common`), a block whose table is not shipped (`assign 1`) and, in
`value_range` only, an unknown setting raise. `lookups_agree_iff` says that this is all.
-/

namespace Pygt1000

/-- The three lookups agree that there is nothing, or that there is something, the address being
four bytes. -/
inductive LookupsAgree (m : AddressMap) (sectionName option setting : String) : Prop
  | unknown (address : m.addressFor sectionName option setting none = .ok none)
      (entry : m.settingEntry sectionName option setting = .ok none)
      (range : m.valueRange sectionName option setting = .ok none)
  | found {address : List Nat} {entry : Entry} {range : List Nat}
      (address_eq : m.addressFor sectionName option setting none = .ok (some address))
      (four : address.length = 4)
      (entry_eq : m.settingEntry sectionName option setting = .ok (some entry))
      (range_eq : m.valueRange sectionName option setting = .ok (some range))

/-- The section is unknown; or its table is shipped, and either has no such option or has it as a
block with a shipped table of parameters, the setting among them. -/
inductive Charted (m : AddressMap) (sectionName option setting : String) : Prop
  | noSection (h : m.baseAddresses.lookup sectionName = none)
  | noOption {base : Specs.Ref} {t : Table} (hb : m.baseAddresses.lookup sectionName = some base)
      (ht : m.tables base.table = some t) (h : t.find? option = none)
  | setting (s : Slot m sectionName option setting)

section

variable {m : AddressMap} {sectionName option setting : String}

theorem findOption_noSection (h : m.baseAddresses.lookup sectionName = none) :
    m.findOption sectionName option = .ok none := by
  simp [AddressMap.findOption, h]

theorem findOption_table {base : Specs.Ref} {t : Table}
    (hb : m.baseAddresses.lookup sectionName = some base) (ht : m.tables base.table = some t) :
    m.findOption sectionName option = .ok ((t.find? option).map fun entry => (base, entry)) := by
  simp [AddressMap.findOption, hb, ht]

theorem findOption_noTable {base : Specs.Ref} (hb : m.baseAddresses.lookup sectionName = some base)
    (ht : m.tables base.table = none) : m.findOption sectionName option = .error .keyError := by
  simp [AddressMap.findOption, hb, ht]

/-- Without the option, all three are `None`. -/
theorem LookupsAgree.of_noOption (h : m.findOption sectionName option = .ok none) :
    LookupsAgree m sectionName option setting := by
  refine .unknown ?_ ?_ ?_
  · simp [AddressMap.addressFor, h]
  · simp [AddressMap.settingEntry, h]
  · simp [AddressMap.valueRange, h]

/-- None of the lookups of an agreement raises. -/
theorem LookupsAgree.returns (h : LookupsAgree m sectionName option setting) :
    (∃ r, m.addressFor sectionName option setting none = .ok r) ∧
      ∃ r, m.valueRange sectionName option setting = .ok r := by
  cases h with
  | unknown address _ range => exact ⟨⟨_, address⟩, _, range⟩
  | found address_eq _ _ range_eq => exact ⟨⟨_, address_eq⟩, _, range_eq⟩

/-- Past the option `value_range` tests nothing: where it returns, every hop succeeded. -/
theorem slot_of_valueRange {base : Specs.Ref} {entry : Entry} {r : Option (List Nat)}
    (hf : m.findOption sectionName option = .ok (some (base, entry)))
    (h : m.valueRange sectionName option setting = .ok r) :
    Nonempty (Slot m sectionName option setting) := by
  simp only [AddressMap.valueRange, hf, ok_bind] at h
  obtain ⟨block, hblock, h⟩ := bind_eq_ok h
  obtain ⟨t, ht, h⟩ := bind_eq_ok h
  obtain ⟨found, hfound, h⟩ := bind_eq_ok h
  obtain ⟨e, he, -⟩ := bind_eq_ok h
  obtain rfl := ref?_eq_ok hblock
  obtain rfl := param?_eq_ok he
  obtain ⟨hbase, bt, hbt, hoption⟩ := findOption_some hf
  obtain ⟨container, rfl, hlookup⟩ := find?_eq_ref hoption
  obtain ⟨table, rfl, hparam⟩ := find?_eq_param (subscript_eq_ok.1 hfound)
  exact ⟨⟨base, container, block, table, e, hbase, hbt, hlookup, subscript_eq_ok.1 ht, hparam⟩⟩

/-- Where the lookups agree, the keys are charted. -/
theorem LookupsAgree.charted (h : LookupsAgree m sectionName option setting) :
    Charted m sectionName option setting := by
  cases hb : m.baseAddresses.lookup sectionName with
  | none => exact .noSection hb
  | some base =>
    obtain ⟨⟨address, haddress⟩, range, hrange⟩ := h.returns
    cases ht : m.tables base.table with
    | none =>
      rw [AddressMap.addressFor, findOption_noTable hb ht] at haddress
      cases haddress
    | some t =>
      cases hopt : t.find? option with
      | none => exact .noOption hb ht hopt
      | some entry =>
        have hf : m.findOption sectionName option = .ok (some (base, entry)) := by
          rw [findOption_table hb ht, hopt, Option.map_some]
        obtain ⟨s⟩ := slot_of_valueRange hf hrange
        exact .setting s

end

/-- **The three lookups agree, exactly** on the charted keys. -/
theorem lookups_agree_iff (sectionName option setting : String) :
    LookupsAgree addressMap sectionName option setting ↔
      Charted addressMap sectionName option setting := by
  refine ⟨LookupsAgree.charted, fun h => ?_⟩
  cases h with
  | noSection h => exact .of_noOption (findOption_noSection h)
  | noOption hb ht h =>
    refine .of_noOption ?_
    rw [findOption_table hb ht, h, Option.map_none]
  | setting s =>
    exact .found s.addressFor_eq (by rw [s.address_eq]; rfl) s.settingEntry_eq s.valueRange_eq

/-- An unknown setting of the compressor has no range to return. -/
theorem lookups_disagree :
    addressMap.addressFor AddressMap.patchSection "comp" "NOPE" none = .ok none ∧
      addressMap.valueRange AddressMap.patchSection "comp" "NOPE" = .error .keyError ∧
      ¬ LookupsAgree addressMap AddressMap.patchSection "comp" "NOPE" := by
  have hrange : addressMap.valueRange AddressMap.patchSection "comp" "NOPE" = .error .keyError := by
    decide
  refine ⟨by decide, hrange, fun h => ?_⟩
  obtain ⟨-, r, hr⟩ := h.returns
  rw [hrange] at hr
  cases hr

end Pygt1000
