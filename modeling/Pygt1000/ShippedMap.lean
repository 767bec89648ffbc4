import Pygt1000.Slots

/-!
# The shipped tables

What the spec files say, checked once on the tables themselves: which bytes occur, which blocks
and settings share the byte they are decoded by, and which do not. From these facts, what the
registries of `addressMap` hold, and the four bytes of every address it builds
(`Slot.address_eq`).
-/

namespace Pygt1000

open Specs

/-! ## The shipped tables -/

/-- Blocks of a container that share the byte of `r`. -/
def blocksAt (container : List (String × Ref)) (r : Ref) : Nat :=
  container.countP fun x => x.2.addressByte 1 == r.addressByte 1

/-- Settings of a table that share the low byte of `e`. -/
def settingsAt (table : List (String × Param)) (e : Param) : Nat :=
  table.countP fun x => x.2.offsetByte 1 == e.offsetByte 1

theorem files_nodup : (containers.map Prod.fst ++ params.map Prod.fst).Nodup := by decide +kernel

/-- A section that holds blocks starts at a byte pair of its own. -/
theorem sections_distinct : ∀ x ∈ baseAddresses, x.2.table ∈ containers.map Prod.fst →
    x.2.address = [x.2.addressByte 0, x.2.addressByte 1, 0, 0] ∧ 0 < x.2.addressByte 0 ∧
    x.2.addressByte 0 < 256 ∧ x.2.addressByte 1 < 256 ∧
    ∀ y ∈ baseAddresses, y.2.address.take 2 = x.2.address.take 2 → y = x := by decide +kernel

theorem blocks_sevenBit : ∀ c ∈ containers, ∀ x ∈ c.2,
    x.2.address = [0, x.2.addressByte 1, x.2.addressByte 2] ∧ x.2.addressByte 1 < 128 ∧
    x.2.addressByte 2 < 128 := by decide

theorem params_sevenBit : ∀ f ∈ params, ∀ x ∈ f.2,
    x.2.offset = [x.2.offsetByte 0, x.2.offsetByte 1] ∧ x.2.offsetByte 0 < 2 ∧
    x.2.offsetByte 1 < 128 := by decide +kernel

/-- A block in the upper half of its byte is `Assign`, which has no table, or `MasterFx`, which
shares the byte and is what it resolves to. -/
theorem blocks_low : ∀ c ∈ containers, ∀ x ∈ c.2, x.2.addressByte 2 = 0 ∨ x.2.table = "Assign" ∨
    (x.2.addressByte 2 = 64 ∧ blocksAt c.2 x.2 ≠ 1 ∧ x.2.table = "PatchFxMasteringFx" ∧
      (blockIndex c.2 (x.2.addressByte 1)).map Prod.snd = some "PatchFxMasteringFx") := by
  decide +kernel

/-- Of blocks that share a byte, `Dist` in the first half loses to `MasterFx` in the second. -/
theorem blocks_shared : ∀ c ∈ containers, ∀ x ∈ c.2, blocksAt c.2 x.2 = 1 ∨
    x.2.table = "Assign" ∨ (x.2.addressByte 2 ≠ 0 ∧ x.2.table = "PatchFxMasteringFx") ∨
    ((blockIndex c.2 (x.2.addressByte 1)).map Prod.fst ≠ some x.1 ∧ x.2.table = "PatchFxDist") := by
  decide +kernel

theorem masterFx_low : ∀ f ∈ params, f.1 = "PatchFxMasteringFx" → ∀ x ∈ f.2, x.2.offsetByte 1 < 64 := by
  decide

theorem assign_missing : ∀ f ∈ params, f.1 ≠ "Assign" := by decide

/-- Only `PatchEfct` runs past the low byte, and no block sits where it runs to. -/
theorem params_high : ∀ f ∈ params, ∀ x ∈ f.2, x.2.offsetByte 0 = 0 ∨ f.1 = "PatchEfct" := by
  decide +kernel

theorem efct_overrun : ∀ c ∈ containers, ∀ x ∈ c.2, x.2.table = "PatchEfct" →
    ∀ y ∈ c.2, y.2.addressByte 1 ≠ x.2.addressByte 1 + 1 := by decide

/-- Elsewhere the low bytes ascend, so no two settings share one. -/
theorem settings_ascending : ∀ f ∈ params, f.1 = "PatchEfct" ∨
    (f.2.map fun x => x.2.offsetByte 1).IsChain (· < ·) := by decide +kernel

/-- Of settings of `PatchEfct` that share a low byte, the one in the first block loses. -/
theorem efct_shared : ∀ x ∈ patchEfct, x.2.offsetByte 0 ≠ 0 ∨ settingsAt patchEfct x.2 = 1 ∨
    (settingIndex patchEfct (x.2.offsetByte 1)).map Prod.fst ≠ some x.1 := by decide +kernel

/-- A table a block refers to is one `decode` indexes. -/
theorem blockTables_indexed : ∀ f ∈ params, startsWith f.1 "Patch" = true ∨
    ∀ c ∈ containers, ∀ x ∈ c.2, x.2.table ≠ f.1 := by decide +kernel

theorem settingsAt_of_ascending {table : List (String × Param)}
    (h : (table.map fun x => x.2.offsetByte 1).IsChain (· < ·)) {x : String × Param} (hx : x ∈ table) :
    settingsAt table x.2 = 1 := by
  have hnodup : (table.map fun y => y.2.offsetByte 1).Nodup :=
    (List.isChain_iff_pairwise.1 h).imp Nat.ne_of_lt
  have hcount := List.count_eq_one_of_mem hnodup (List.mem_map_of_mem hx)
  rwa [List.count, List.countP_map] at hcount

/-- Of settings that share a low byte, the one in the first block loses. -/
theorem settings_shared {name : String} {table : List (String × Param)} (hf : (name, table) ∈ params)
    {x : String × Param} (hx : x ∈ table) : x.2.offsetByte 0 ≠ 0 ∨ settingsAt table x.2 = 1 ∨
      (settingIndex table (x.2.offsetByte 1)).map Prod.fst ≠ some x.1 := by
  rcases settings_ascending _ hf with hn | hasc
  · have hefct : (name, table) = ("PatchEfct", patchEfct) :=
      List.inj_on_of_nodup_map (List.Nodup.of_append_right files_nodup) hf (by simp [params]) hn
    cases hefct
    exact efct_shared x hx
  · exact Or.inr (Or.inl (settingsAt_of_ascending hasc hx))

/-! ## Registries of the shipped map -/

section Registries

variable {name : String} {table : List (String × Param)} {container : List (String × Ref)}

theorem mem_params (h : addressMap.tables name = some (.params table)) : (name, table) ∈ params := by
  obtain ⟨x, hx, rfl, hv⟩ := Index.index_eq_some h
  rcases List.mem_append.1 hx with hx | hx
  · obtain ⟨y, -, rfl⟩ := List.mem_map.1 hx
    cases hv
  · obtain ⟨y, hy, rfl⟩ := List.mem_map.1 hx
    cases hv
    exact hy

theorem mem_containers (h : addressMap.tables name = some (.refs container)) :
    (name, container) ∈ containers := by
  obtain ⟨x, hx, rfl, hv⟩ := Index.index_eq_some h
  rcases List.mem_append.1 hx with hx | hx
  · obtain ⟨y, hy, rfl⟩ := List.mem_map.1 hx
    cases hv
    exact hy
  · obtain ⟨y, -, rfl⟩ := List.mem_map.1 hx
    cases hv

/-- No two files have one name, so every file is found under its own. -/
theorem tables_mem {t : Table} (h : (name, t) ∈
    containers.map (Prod.map id Table.refs) ++ params.map (Prod.map id Table.params)) :
    addressMap.tables name = some t := by
  refine Index.index_unique (x := (name, t)) h fun y hy hk => ?_
  refine List.inj_on_of_nodup_map (f := Prod.fst) ?_ hy h hk
  simpa [List.map_map, Function.comp_def] using files_nodup

theorem tables_params (h : (name, table) ∈ params) : addressMap.tables name = some (.params table) :=
  tables_mem (List.mem_append.2 (Or.inr (List.mem_map.2 ⟨_, h, rfl⟩)))

theorem tables_containers (h : (name, container) ∈ containers) :
    addressMap.tables name = some (.refs container) :=
  tables_mem (List.mem_append.2 (Or.inl (List.mem_map.2 ⟨_, h, rfl⟩)))

theorem offsetInPatchTables_eq (h : (name, container) ∈ containers) :
    addressMap.offsetInPatchTables name = some (blockIndex container) :=
  Index.index_unique (x := (name, container)) h fun _ hy hk =>
    List.inj_on_of_nodup_map (List.Nodup.of_append_left files_nodup) hy h hk

theorem lastByteOption_eq (h : (name, table) ∈ params) (hs : startsWith name "Patch" = true) :
    addressMap.lastByteOption name = some (settingIndex table) :=
  Index.index_unique (x := (name, table)) (List.mem_filter.2 ⟨h, hs⟩) fun _ hy hk =>
    List.inj_on_of_nodup_map (List.Nodup.of_append_right files_nodup) (List.mem_filter.1 hy).1 h hk

theorem firstTwoBytes_eq {base : Ref} (h : (name, base) ∈ baseAddresses)
    (hc : base.table ∈ containers.map Prod.fst) :
    addressMap.firstTwoBytes (base.address.take 2) = some (name, base.table) :=
  Index.index_unique (x := (name, base)) h (sections_distinct _ h hc).2.2.2.2

theorem mem_of_offsetInPatchTables {blocks : Nat → Option (String × String)}
    (h : addressMap.offsetInPatchTables name = some blocks) :
    ∃ container, (name, container) ∈ containers ∧ blocks = blockIndex container := by
  obtain ⟨x, hx, rfl, rfl⟩ := Index.index_eq_some h
  exact ⟨x.2, hx, rfl⟩

theorem mem_of_lastByteOption {settings : Nat → Option (String × Param)}
    (h : addressMap.lastByteOption name = some settings) :
    ∃ table, (name, table) ∈ params ∧ settings = settingIndex table := by
  obtain ⟨x, hx, rfl, rfl⟩ := Index.index_eq_some h
  exact ⟨x.2, (List.mem_filter.1 hx).1, rfl⟩

/-- An option is looked up in the container of its section. -/
theorem findOption_container {sectionName : String} {base : Ref} {container : List (String × Ref)}
    (hb : baseAddresses.lookup sectionName = some base)
    (hc : containers.lookup base.table = some container) (option : String) :
    addressMap.findOption sectionName option =
      .ok ((container.lookup option).map fun r => (base, .ref r)) := by
  have hbase : addressMap.baseAddresses.lookup sectionName = some base := hb
  have htables := tables_containers (mem_of_lookup hc)
  simp only [AddressMap.findOption, hbase, htables, subscript_some, ok_bind, find?_refs,
    Option.map_map, pure_eq_ok]
  rfl

/-- What an address resolves to is a block of a container and a setting of its table. -/
theorem mem_of_locate {address : List Nat} {l : Located} (h : addressMap.locate address = some l) :
    (∃ container r, (l.table, container) ∈ containers ∧ (l.name, r) ∈ container ∧
      r.table = l.patchTable) ∧
    ∃ table, (l.patchTable, table) ∈ params ∧ (l.valueName, l.entry) ∈ table := by
  obtain ⟨a, b, c, d, -, -, ⟨blocks, hblocks, hc⟩, settings, hsettings, hd⟩ := locate_some h
  obtain ⟨container, hcontainer, rfl⟩ := mem_of_offsetInPatchTables hblocks
  obtain ⟨table, htable, rfl⟩ := mem_of_lastByteOption hsettings
  obtain ⟨⟨name, r⟩, hr, -, hname⟩ := Index.index_eq_some hc
  obtain ⟨x, hx, -, rfl⟩ := Index.index_eq_some hd
  simp only [Prod.mk.injEq] at hname
  exact ⟨⟨container, r, hcontainer, hname.1 ▸ hr, hname.2⟩, table, htable, hx⟩

end Registries

/-! ## Addresses of the shipped map -/

namespace Slot

variable {sectionName option setting : String} (s : Slot addressMap sectionName option setting)

theorem mem_base : (sectionName, s.base) ∈ baseAddresses := mem_of_lookup s.base_lookup
theorem mem_container : (s.base.table, s.container) ∈ containers := mem_containers s.container_lookup
theorem mem_block : (option, s.block) ∈ s.container := mem_of_lookup s.block_lookup
theorem mem_table : (s.block.table, s.table) ∈ params := mem_params s.table_lookup
theorem mem_param : (setting, s.param) ∈ s.table := mem_of_lookup s.param_lookup

theorem base_table_mem : s.base.table ∈ containers.map Prod.fst :=
  List.mem_map.2 ⟨_, s.mem_container, rfl⟩

/-- The block byte and the setting byte as they stand in the address. -/
def third : Nat := s.block.addressByte 1 + s.param.offsetByte 0
def fourth : Nat := s.block.addressByte 2 + s.param.offsetByte 1

theorem address_eq :
    s.address = [s.base.addressByte 0, s.base.addressByte 1, s.third, s.fourth] := by
  obtain ⟨hbase, h0, h1, h2, -⟩ := sections_distinct _ s.mem_base s.base_table_mem
  obtain ⟨hblock, h3, h4⟩ := blocks_sevenBit _ s.mem_container _ s.mem_block
  obtain ⟨hparam, h5, h6⟩ := params_sevenBit _ s.mem_table _ s.mem_param
  simp only at hbase hblock hparam h0 h1 h2 h3 h4 h5 h6
  have hsum : bytesToInt s.base.address + bytesToInt s.block.address + bytesToInt s.param.offset =
      bytesToInt [s.base.addressByte 0, s.base.addressByte 1, s.third, s.fourth] := by
    rw [hbase, hblock, hparam]
    simp only [bytesToInt, BigEndian.value, List.foldl_cons, List.foldl_nil, third, fourth,
      Ref.addressByte, Param.offsetByte]
    ring
  rw [address, hsum]
  refine BigEndian.digits_value (by decide) ?_ ?_
  · simp only [third, fourth, List.forall_mem_cons]
    exact ⟨h1, h2, by omega, by omega, by simp⟩
  · simp only [List.head?_cons, ne_eq, Option.some.injEq]
    omega

theorem firstTwoBytes_address : addressMap.firstTwoBytes [s.base.addressByte 0, s.base.addressByte 1] =
    some (sectionName, s.base.table) := by
  have h := firstTwoBytes_eq s.mem_base s.base_table_mem
  rwa [(sections_distinct _ s.mem_base s.base_table_mem).1] at h

theorem lastByteOption_table : addressMap.lastByteOption s.block.table = some (settingIndex s.table) := by
  refine lastByteOption_eq s.mem_table ?_
  rcases blockTables_indexed _ s.mem_table with h | h
  · exact h
  · exact absurd rfl (h _ s.mem_container _ s.mem_block)

end Slot

end Pygt1000
