import Pygt1000.Nibbles

/-!
# What an address stands for

`Slot m sectionName option setting` is a setting that resolves: its five dictionary lookups, each
with the proof that it succeeds. Where there is a slot, `addressFor`, `settingEntry` and
`valueRange` return what the slot says (`Slot.addressFor_eq`, ..); where `addressFor` returns an
address there is a slot (`exists_slot`).

The second half reads `locate` backwards: what it finds is in the tables (`locate_some`), and no
option name makes the block id raise (`fxOf_ok`).
-/

namespace Pygt1000

open Specs

/-! ## Settings that resolve -/

structure Slot (m : AddressMap) (sectionName option setting : String) where
  base : Ref
  container : List (String × Ref)
  block : Ref
  table : List (String × Param)
  param : Param
  base_lookup : m.baseAddresses.lookup sectionName = some base
  container_lookup : m.tables base.table = some (.refs container)
  block_lookup : container.lookup option = some block
  table_lookup : m.tables block.table = some (.params table)
  param_lookup : table.lookup setting = some param

/-- A list that is looked up holds what is found. -/
theorem mem_of_lookup {α : Type} {l : List (String × α)} {key : String} {v : α}
    (h : l.lookup key = some v) : (key, v) ∈ l := by
  induction l with
  | nil => cases h
  | cons x l ih =>
    obtain ⟨k, w⟩ := x
    rw [List.lookup_cons] at h
    split at h
    · next hk =>
      cases h
      rw [beq_iff_eq.1 hk]
      exact List.mem_cons_self
    · exact List.mem_cons_of_mem _ (ih h)

namespace Slot

variable {m : AddressMap} {sectionName option setting : String}

/-- The bytes of the three offsets added up. -/
def address (s : Slot m sectionName option setting) : List Nat :=
  intToBytes (bytesToInt s.base.address + bytesToInt s.block.address + bytesToInt s.param.offset)

variable (s : Slot m sectionName option setting)

theorem findOption_eq : m.findOption sectionName option = .ok (some (s.base, .ref s.block)) := by
  simp [AddressMap.findOption, s.base_lookup, s.container_lookup, s.block_lookup]

theorem addressFor_eq : m.addressFor sectionName option setting none = .ok (some s.address) := by
  simp [AddressMap.addressFor, s.findOption_eq, s.table_lookup, s.param_lookup, address]

theorem addressFor_value (value : StrOrInt) :
    m.addressFor sectionName option setting (some value) =
      (AddressMap.encodeValue s.param value).map fun data => some (s.address ++ data) := by
  simp only [AddressMap.addressFor, s.findOption_eq, s.table_lookup, s.param_lookup, ok_bind,
    ref?_ref, param?_param, subscript_some, find?_params, Option.map_some, pure_eq_ok, address]
  cases AddressMap.encodeValue s.param value <;> rfl

theorem settingEntry_eq : m.settingEntry sectionName option setting = .ok (some (.param s.param)) := by
  simp [AddressMap.settingEntry, s.findOption_eq, s.table_lookup, s.param_lookup]

theorem valueRange_eq : m.valueRange sectionName option setting = .ok (some s.param.valueRange) := by
  simp [AddressMap.valueRange, s.findOption_eq, s.table_lookup, s.param_lookup]

end Slot

variable {m : AddressMap} {sectionName option setting : String}

theorem ref?_eq_ok {entry : Entry} {r : Ref} (h : entry.ref? = .ok r) : entry = .ref r := by
  cases entry with
  | ref r' => cases h; rfl
  | param e => cases h

theorem param?_eq_ok {entry : Entry} {e : Param} (h : entry.param? = .ok e) : entry = .param e := by
  cases entry with
  | ref r => cases h
  | param e' => cases h; rfl

theorem find?_eq_ref {t : Table} {key : String} {r : Ref} (h : t.find? key = some (.ref r)) :
    ∃ entries, t = .refs entries ∧ entries.lookup key = some r := by
  cases t with
  | refs entries => exact ⟨entries, rfl, by simpa using h⟩
  | params entries => simp at h

theorem find?_eq_param {t : Table} {key : String} {e : Param} (h : t.find? key = some (.param e)) :
    ∃ entries, t = .params entries ∧ entries.lookup key = some e := by
  cases t with
  | refs entries => simp at h
  | params entries => exact ⟨entries, rfl, by simpa using h⟩

theorem findOption_some {base : Ref} {entry : Entry}
    (h : m.findOption sectionName option = .ok (some (base, entry))) :
    m.baseAddresses.lookup sectionName = some base ∧
      ∃ t, m.tables base.table = some t ∧ t.find? option = some entry := by
  unfold AddressMap.findOption at h
  split at h
  · cases h
  · next sectionEntry hbase =>
    obtain ⟨t, ht, h⟩ := bind_eq_ok h
    obtain ⟨entry', hentry, he⟩ := Option.map_eq_some_iff.1 (Except.ok.inj h)
    cases he
    exact ⟨hbase, t, subscript_eq_ok.1 ht, hentry⟩

/-- Where `addressFor` returns an address, all five lookups succeeded. -/
theorem exists_slot {address : List Nat}
    (h : m.addressFor sectionName option setting none = .ok (some address)) :
    ∃ s : Slot m sectionName option setting, s.address = address := by
  obtain ⟨found, hfind, h1⟩ := bind_eq_ok h
  rcases found with _ | ⟨base, entry⟩
  · cases h1
  obtain ⟨r, hr, h2⟩ := bind_eq_ok h1
  obtain ⟨t, ht, h3⟩ := bind_eq_ok h2
  obtain rfl := ref?_eq_ok hr
  obtain ⟨hbase, bt, hbt, hfound⟩ := findOption_some hfind
  obtain ⟨container, rfl, hblock⟩ := find?_eq_ref hfound
  cases hs : t.find? setting with
  | none => simp [hs] at h3
  | some settingEntry =>
    rw [hs] at h3
    obtain ⟨e, he, h4⟩ := bind_eq_ok h3
    obtain rfl := param?_eq_ok he
    obtain ⟨table, rfl, hparam⟩ := find?_eq_param hs
    cases h4
    exact ⟨⟨base, container, r, table, e, hbase, hbt, hblock, subscript_eq_ok.1 ht, hparam⟩, rfl⟩

/-! ## What an address decodes to -/

theorem locate_some {address : List Nat} {l : Located} (h : m.locate address = some l) :
    ∃ a b c d, address = [a, b, c, d] ∧ m.firstTwoBytes [a, b] = some (l.sectionName, l.table) ∧
      (∃ blocks, m.offsetInPatchTables l.table = some blocks ∧
        blocks c = some (l.name, l.patchTable)) ∧
      ∃ settings, m.lastByteOption l.patchTable = some settings ∧
        settings d = some (l.valueName, l.entry) := by
  unfold AddressMap.locate at h
  split at h
  · next a b c d =>
    obtain ⟨⟨sectionName, table⟩, h1, h⟩ := Option.bind_eq_some_iff.1 h
    obtain ⟨blocks, h2, h⟩ := Option.bind_eq_some_iff.1 h
    obtain ⟨⟨name, patchTable⟩, h3, h⟩ := Option.bind_eq_some_iff.1 h
    obtain ⟨settings, h4, h⟩ := Option.bind_eq_some_iff.1 h
    obtain ⟨⟨valueName, entry⟩, h5, h⟩ := Option.map_eq_some_iff.1 h
    subst h
    exact ⟨a, b, c, d, rfl, h1, ⟨blocks, h2, h3⟩, settings, h4, h5⟩
  · cases h

theorem locate_eq {a b c d : Nat} {sectionName table name patchTable valueName : String}
    {entry : Param} {blocks : Nat → Option (String × String)}
    {settings : Nat → Option (String × Param)}
    (h1 : m.firstTwoBytes [a, b] = some (sectionName, table))
    (h2 : m.offsetInPatchTables table = some blocks) (h3 : blocks c = some (name, patchTable))
    (h4 : m.lastByteOption patchTable = some settings) (h5 : settings d = some (valueName, entry)) :
    m.locate [a, b, c, d] = some ⟨sectionName, table, name, patchTable, valueName, entry⟩ := by
  simp [AddressMap.locate, h1, h2, h3, h4, h5]

/-- What the loop over the fx types leaves: a type whose name starts the option's, and an id
already found if the option has the very name of a type. -/
theorem fxTypePrefix_spec (types : List String) (name : String) :
    (∀ t, (fxTypePrefix types name).1 = some t → t ∈ types ∧ startsWith name t = true) ∧
    ((fxTypePrefix types name).2 = none → ∀ t ∈ types, startsWith name t = true → name ≠ t) := by
  induction types using List.reverseRecOn with
  | nil => exact ⟨nofun, fun _ t ht => nomatch ht⟩
  | append_singleton types i ih =>
    have hstep : fxTypePrefix (types ++ [i]) name =
        if startsWith name i then
          (some i, if name = i then some "" else (fxTypePrefix types name).2)
        else fxTypePrefix types name := List.foldl_append
    rw [hstep]
    split
    · next hi =>
      refine ⟨fun t ht => ?_, fun hnone t ht hst => ?_⟩
      · cases ht
        exact ⟨by simp, hi⟩
      · split at hnone
        · cases hnone
        · next hne =>
          rcases List.mem_append.1 ht with ht | ht
          · exact ih.2 hnone t ht hst
          · rw [List.mem_singleton.1 ht]; exact hne
    · next hi =>
      refine ⟨fun t ht => ⟨by simp [(ih.1 t ht).1], (ih.1 t ht).2⟩, fun hnone t ht hst => ?_⟩
      rcases List.mem_append.1 ht with ht | ht
      · exact ih.2 hnone t ht hst
      · rw [List.mem_singleton.1 ht] at hst
        exact absurd hst hi

theorem startsWith_length {name pre : String} (h : startsWith name pre = true) :
    pre.toList <+: name.toList := List.isPrefixOf_iff_prefix.1 h

/-- No option name makes the block id raise: one that starts with `fx` and is not `fx` has a
third character. -/
theorem fxOf_ok (types : List String) (name : String) : ∃ r, fxOf types name = .ok r := by
  obtain ⟨h1, h2⟩ := fxTypePrefix_spec types name
  unfold fxOf
  split
  · exact ⟨_, rfl⟩
  · next fxType found heq =>
    rw [heq] at h1 h2
    cases found with
    | some fxId => exact ⟨_, rfl⟩
    | none =>
      obtain ⟨hmem, hst⟩ := h1 fxType rfl
      have hne := h2 rfl fxType hmem hst
      have hid : ∃ fxId, fxIdOf fxType name = .ok fxId := by
        unfold fxIdOf
        split
        · exact ⟨_, rfl⟩
        split
        · exact ⟨_, rfl⟩
        split
        · next hfx =>
          subst hfx
          obtain ⟨rest, hrest⟩ := startsWith_length hst
          cases rest with
          | nil =>
            have : "fx".toList = name.toList := by simpa using hrest
            exact absurd (String.toList_inj.1 this).symm hne
          | cons c cs =>
            have : name.toList[2]? = some c := by rw [← hrest]; rfl
            exact ⟨_, by rw [this]⟩
        · exact ⟨_, rfl⟩
      obtain ⟨fxId, hid⟩ := hid
      exact ⟨_, by simp only [hid, ok_bind]; rfl⟩

/-- What `decode` returns, field by field. -/
theorem decode_eq_some {m : AddressMap} {address : List Nat} {value : RawValue} {d : DecodedValue}
    (h : m.decode address value = .ok (some d)) :
    ∃ l, m.locate address = some l ∧ rawInt l.entry value = .ok d.intValue ∧
      fxOf m.fxTypes l.name = .ok (d.fxType, d.fxId, d.fxTableSuffix) ∧
      d = { sectionName := l.sectionName, table := l.table, name := l.name,
            patchTable := l.patchTable, valueName := l.valueName,
            strValue := labelForRaw l.entry.values d.intValue, intValue := d.intValue,
            fxType := d.fxType, fxId := d.fxId, fxTableSuffix := d.fxTableSuffix,
            fxName := d.fxTableSuffix.bind fun suffix => tableSuffixToName.lookup suffix } := by
  unfold AddressMap.decode at h
  cases hl : m.locate address with
  | none => simp [hl] at h
  | some l =>
    simp only [hl] at h
    cases hd : m.decodeAt l value with
    | error e => simp [hd] at h
    | ok d' =>
      obtain rfl : d' = d := by simpa [hd] using h
      obtain ⟨n, hn, h1⟩ := bind_eq_ok hd
      obtain ⟨⟨fxType, fxId, suffix⟩, hfx, h2⟩ := bind_eq_ok h1
      cases h2
      exact ⟨l, rfl, hn, hfx, rfl⟩

theorem decode_of_locate {m : AddressMap} {address : List Nat} {value : RawValue} {l : Located}
    {n : Nat} (hl : m.locate address = some l) (hn : rawInt l.entry value = .ok n) :
    ∃ d, m.decode address value = .ok (some d) ∧ d.sectionName = l.sectionName ∧
      d.name = l.name ∧ d.valueName = l.valueName ∧ d.intValue = n := by
  obtain ⟨⟨fxType, fxId, suffix⟩, hfx⟩ := fxOf_ok m.fxTypes l.name
  refine ⟨_, by simp only [AddressMap.decode, hl, AddressMap.decodeAt, hn, hfx, ok_bind]; rfl,
    rfl, rfl, rfl, rfl⟩

end Pygt1000
