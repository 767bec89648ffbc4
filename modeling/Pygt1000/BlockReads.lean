import Pygt1000.BlockAddresses
import Pygt1000.BlockSnapshot

/-!
# Reading the top-level blocks

What the reads of a scan return for a block of `topBlocks`, where every reply has the length asked
for (`Exact`). A setting of the block's own table can always be read (`HasBlock.read_eq`), and its
sliders resolved. The sliders of an fx block go through the table of the effect that is loaded:
for all but one effect they resolve or are missing, and for `MASTERING FX` the table is asked for
under a name no file has (`HasBlock.resolve_effect_iff`).
-/

namespace Pygt1000

open Specs

/-! ## Answers -/

/-- A reply has the requested length. -/
def Exact (fetch : Fetch) : Prop :=
  ∀ address width data, fetch address [0, 0, 0, width] = some data → data.length = width

/-- The raw value the unit answers a read with. -/
def answer (fetch : Fetch) (address : List Nat) (width : Nat) : Option Nat :=
  (fetch address [0, 0, 0, width]).map fun data =>
    if 1 < width then unpackNibbles (data.take width) else data.headD 0

/-- What `readLabel` makes of a raw value. -/
def presented (e : Param) (raw : Nat) : StrOrInt :=
  match labelForRaw e.values raw with
  | some label => .str label
  | none => .int raw

section

variable {fetch : Fetch}

theorem fetchValue_eq (hf : Exact fetch) {width : Nat} (hw : 0 < width) (address : List Nat) :
    BlockReader.fetchValue fetch (some address) width = .ok (answer fetch address width) := by
  cases hreply : fetch address [0, 0, 0, width] with
  | none => simp [BlockReader.fetchValue, answer, hreply]
  | some data =>
    have hlen := hf _ _ _ hreply
    cases data with
    | nil => exact absurd hlen.symm (by simpa using hw.ne')
    | cons byte rest =>
      simp only [BlockReader.fetchValue, answer, hreply, Option.map_some]
      split <;> rfl

/-- An answer of one byte is that byte. -/
theorem answer_eq_some (hf : Exact fetch) {address : List Nat} {v : Nat} :
    answer fetch address 1 = some v ↔ fetch address [0, 0, 0, 1] = some [v] := by
  constructor
  · intro h
    obtain ⟨data, hdata, hv⟩ := Option.map_eq_some_iff.1 h
    obtain ⟨byte, rfl⟩ := List.length_eq_one_iff.1 (hf _ _ _ hdata)
    rw [hdata]
    simpa using hv
  · intro h
    simp [answer, h]

theorem answer_isSome {address : List Nat} {width : Nat} :
    (answer fetch address width).isSome = (fetch address [0, 0, 0, width]).isSome := by
  simp [answer]

/-- A byte with a label is one of the numbered labels. -/
theorem mem_of_labelForRaw {values : List (String × Nat)} {raw : Nat} {label : String}
    (h : labelForRaw values raw = some label) : (label, raw) ∈ values := by
  obtain ⟨⟨l, n⟩, hx, rfl⟩ := Option.map_eq_some_iff.1 h
  obtain rfl : n = raw := by simpa using List.find?_some hx
  exact List.mem_of_find?_eq_some hx

theorem readLabel_eq {table : List (String × Param)} {setting : String} {e : Param}
    (he : table.lookup setting = some e) (raw : Nat) :
    readLabel (.params table) setting raw = .ok (presented e raw) := by
  simp only [readLabel, find?_params, he, Option.map_some, subscript_some, param?_param, ok_bind,
    pure_eq_ok]
  rfl

end

/-- Every parameter is at least one byte wide. -/
theorem params_bytes : ∀ t ∈ params, ∀ x ∈ t.2, 0 < x.2.bytes := by decide +kernel

/-- A setting that a slider can show: its table has it, with both ends of its range. -/
def slidable (table : List (String × Param)) (setting : String) : Bool :=
  (table.lookup setting).any fun e => decide (2 ≤ e.valueRange.length)

theorem slidable_eq_true {table : List (String × Param)} {setting : String} :
    slidable table setting = true ↔
      ∃ e, table.lookup setting = some e ∧ 2 ≤ e.valueRange.length := by
  simp [slidable, Option.any_eq_true]

theorem slider_ok (value : Option StrOrInt) (label : String) {range : List Nat}
    (h : 2 ≤ range.length) : ∃ r, BlockSnapshot.slider value label (some range) = .ok r := by
  match range, h with
  | lo :: hi :: rest, _ => exact ⟨_, rfl⟩

/-! ## The settings of a block's own table -/

section

variable {m : AddressMap} {b : TopBlock} {fetch : Fetch} {setting : String} {e : Param}

namespace HasBlock

variable (h : HasBlock m b) (hf : Exact fetch)
include h hf

/-- A read returns the byte or its label, or `None` when the unit does not answer. -/
theorem read_eq (he : b.table.lookup setting = some e) (justRange : Bool) :
    BlockReader.read m fetch b.fxType b.fxId setting justRange =
      .ok ((answer fetch [0x10, b.second, b.third, e.offsetByte 1] e.bytes).map fun raw : Nat =>
        if justRange then .int raw else presented e raw) := by
  have hpos : 0 < e.bytes :=
    params_bytes _ (TopBlock.table_mem h.mem) (setting, e) (mem_of_lookup he)
  simp only [BlockReader.read, h.addressForBlock_eq he, h.blockSettingBytes_eq he, ok_bind,
    fetchValue_eq hf hpos]
  cases answer fetch [0x10, b.second, b.third, e.offsetByte 1] e.bytes with
  | none => rfl
  | some raw =>
    simp only [h.fxValueTable_eq, ok_bind, readLabel_eq he, pure_eq_ok, Option.map_some]
    split <;> rfl

theorem read_label (he : b.table.lookup setting = some e) :
    BlockReader.read m fetch b.fxType b.fxId setting false =
      .ok ((answer fetch [0x10, b.second, b.third, e.offsetByte 1] e.bytes).map (presented e)) := by
  simpa using h.read_eq hf he false

theorem resolve_top (hne : b.fxType ≠ "fx") (s : PatchState) {param : Option String}
    (hp : param.all (slidable b.table) = true) :
    ∃ r, BlockSnapshot.resolve m fetch s b.fxType b.fxId param = .ok r := by
  cases param with
  | none => exact ⟨none, rfl⟩
  | some setting =>
    obtain ⟨e, he, hrange⟩ := slidable_eq_true.1 (by simpa using hp)
    obtain ⟨slot, -, -, -, rfl⟩ := TopBlock.exists_slot h.mem he
    have hvalueRange : m.valueRange (AddressMap.startSection b.fxType (.str b.fxId.toStr))
        (b.fxType ++ b.fxId.toStr) setting = .ok (some slot.param.valueRange) := by
      rw [h.1.valueRange_eq]
      exact slot.valueRange_eq
    have hread := h.read_eq hf he true
    obtain ⟨r, hr⟩ := slider_ok ((answer fetch [0x10, b.second, b.third, slot.param.offsetByte 1]
      slot.param.bytes).map fun raw : Nat => StrOrInt.int raw) setting hrange
    simp only [if_true] at hread
    refine ⟨some r, ?_⟩
    simp only [BlockSnapshot.resolve, BlockSnapshot.valueRange, BlockReader.readValue, hvalueRange,
      hread, hr, ok_bind, hne, false_and, if_false, pure_eq_ok]

end HasBlock

end

/-! ## The settings of the loaded effect -/

/-- The table of an effect, by its suffix. -/
def effectTable (suffix : String) : String :=
  if suffix = "MasterFx" then "PatchFxMasteringFx" else "PatchFx" ++ suffix

theorem fxTypeLabels_suffix : ∀ l ∈ fxTypeLabels, (fxToTableSuffix.lookup l).isSome = true := by
  decide

theorem effects_listed : ∀ b ∈ topBlocks, b.fxType = "fx" → ∀ x ∈ fxToTableSuffix,
    (baseAddresses.lookup (AddressMap.fxStartSection b.fxId x.2)).any (fun base =>
      (containers.lookup base.table).any fun container =>
        (container.lookup ("fx" ++ b.fxId.toStr ++ x.2)).elim (bassVariants.contains x.1) fun r =>
          !bassVariants.contains x.1 && r.table == effectTable x.2) = true := by decide +kernel

/-- The option of an effect in an fx block has the table of the effect, if the effect has one. -/
theorem effects_found {b : TopBlock} (hb : b ∈ topBlocks) (hfx : b.fxType = "fx")
    {x : String × String} (hx : x ∈ fxToTableSuffix) :
    x.1 ∈ bassVariants ∧ addressMap.findOption (AddressMap.fxStartSection b.fxId x.2)
        ("fx" ++ b.fxId.toStr ++ x.2) = .ok none ∨
      ∃ base r, addressMap.findOption (AddressMap.fxStartSection b.fxId x.2)
          ("fx" ++ b.fxId.toStr ++ x.2) = .ok (some (base, .ref r)) ∧
        x.1 ∉ bassVariants ∧ r.table = effectTable x.2 := by
  obtain ⟨base, hbase, hrest⟩ := (Option.any_eq_true _ _).1 (effects_listed b hb hfx x hx)
  obtain ⟨container, hc, hoption⟩ := (Option.any_eq_true _ _).1 hrest
  rw [findOption_container hbase hc]
  cases hl : container.lookup ("fx" ++ b.fxId.toStr ++ x.2) with
  | none =>
    rw [hl] at hoption
    exact Or.inl ⟨by simpa using hoption, rfl⟩
  | some r =>
    rw [hl] at hoption
    exact Or.inr ⟨base, r, rfl, by simpa using hoption⟩

theorem effects_slidable : ∀ x ∈ fxToTableSuffix, x.1 ∉ bassVariants →
    (params.lookup (effectTable x.2)).any (fun table =>
      (BlockSnapshot.fxNameSliderParams.lookup x.1).all fun sliders =>
        sliders.1.all (slidable table) && sliders.2.all (slidable table)) = true := by
  decide +kernel

/-- The name under which the table of `MASTERING FX` is asked for (`address_map.py:170-173`). -/
theorem masterFx_missing : addressMap.tables "PatchFxMasterFx" = none := by decide

/-- A slider of an fx block whose effect is `l`. -/
def EffectSlider (l setting : String) : Prop :=
  ∃ sliders, BlockSnapshot.fxNameSliderParams.lookup l = some sliders ∧
    (sliders.1 = some setting ∨ sliders.2 = some setting)

section

variable {m : AddressMap} {b : TopBlock} {fetch : Fetch} {l suffix setting : String} {s : PatchState}

/-- The lookups of a slider of the loaded effect, where the effect has an option. -/
theorem exists_effectSlot (hb : b ∈ topBlocks) (hfx : b.fxType = "fx")
    (hl : fxToTableSuffix.lookup l = some suffix) (hs : EffectSlider l setting) :
    l ∈ bassVariants ∧ addressMap.findOption (AddressMap.fxStartSection b.fxId suffix)
        ("fx" ++ b.fxId.toStr ++ suffix) = .ok none ∨
      ∃ slot : Slot addressMap (AddressMap.fxStartSection b.fxId suffix)
          ("fx" ++ b.fxId.toStr ++ suffix) setting,
        addressMap.tables (effectTable suffix) = some (.params slot.table) ∧
          2 ≤ slot.param.valueRange.length := by
  have hx := mem_of_lookup hl
  rcases effects_found hb hfx hx with heq | ⟨base, r, heq, hlisted, htable⟩
  · exact Or.inl heq
  · right
    obtain ⟨hbase, t, ht, hfind⟩ := findOption_some heq
    obtain ⟨blocks, rfl, hblock⟩ := find?_eq_ref hfind
    have hslidable := effects_slidable (l, suffix) hx hlisted
    obtain ⟨table, hparams, hslidable⟩ := (Option.any_eq_true _ _).1 hslidable
    obtain ⟨sliders, hsliders, hsetting⟩ := hs
    simp only [hsliders, Option.all_some, Bool.and_eq_true] at hslidable
    have hsetting : slidable table setting = true := by
      rcases hsetting with h | h
      · simpa [h] using hslidable.1
      · simpa [h] using hslidable.2
    obtain ⟨e, he, hrange⟩ := slidable_eq_true.1 hsetting
    have htables : addressMap.tables r.table = some (.params table) := by
      rw [htable]
      exact tables_params (mem_of_lookup hparams)
    exact ⟨⟨base, blocks, r, table, e, hbase, ht, hblock, htables, he⟩, htable ▸ htables, hrange⟩

namespace HasBlock

variable (h : HasBlock m b) (hl : fxToTableSuffix.lookup l = some suffix)
include h hl

theorem blockSectionOption_effect (hfx : b.fxType = "fx") :
    m.blockSectionOption "fx" b.fxId (some (.str l)) =
      .ok (AddressMap.fxStartSection b.fxId suffix, "fx" ++ b.fxId.toStr ++ suffix) := by
  obtain ⟨-, n, hc, hn, hb⟩ := h
  have hid := (blocksOf_normalized _ hn).2.1 b hb
  rw [hfx] at hc hid
  simp only [AddressMap.blockSectionOption, AddressMap.normalizeBlock, hc, ok_bind, hid, pure_eq_ok,
    AddressMap.tableSuffix, hl, subscript_some]

/-- The address of a setting of effect `l`, where the effect has an option. -/
theorem addressForBlock_effect (hfx : b.fxType = "fx")
    (slot : Slot addressMap (AddressMap.fxStartSection b.fxId suffix)
      ("fx" ++ b.fxId.toStr ++ suffix) setting) :
    m.addressForBlock "fx" b.fxId setting none (some (.str l)) = .ok (some slot.address) := by
  rw [AddressMap.addressForBlock_routed (h.blockSectionOption_effect hl hfx), h.1.addressFor_eq,
    slot.addressFor_eq]

theorem blockSettingBytes_effect (hfx : b.fxType = "fx")
    (slot : Slot addressMap (AddressMap.fxStartSection b.fxId suffix)
      ("fx" ++ b.fxId.toStr ++ suffix) setting) :
    m.blockSettingBytes "fx" b.fxId setting (some (.str l)) = .ok slot.param.bytes := by
  refine AddressMap.blockSettingBytes_routed (h.blockSectionOption_effect hl hfx) ?_
  rw [h.1.settingEntry_eq, slot.settingEntry_eq]

/-- Without an option there is none. -/
theorem addressForBlock_unlisted (hfx : b.fxType = "fx")
    (hnone : addressMap.findOption (AddressMap.fxStartSection b.fxId suffix)
      ("fx" ++ b.fxId.toStr ++ suffix) = .ok none) :
    m.addressForBlock "fx" b.fxId setting none (some (.str l)) = .ok none := by
  rw [AddressMap.addressForBlock_routed (h.blockSectionOption_effect hl hfx), h.1.addressFor_eq]
  simp [AddressMap.addressFor, hnone]

variable (hname : s.fxName b.fxId = .ok (some (.str l)))
include hname

theorem valueRange_effect :
    BlockSnapshot.valueRange m s "fx" b.fxId setting =
    addressMap.valueRange (AddressMap.fxStartSection b.fxId suffix) ("fx" ++ b.fxId.toStr ++ suffix)
      setting := by
  simp only [BlockSnapshot.valueRange, if_true, hname, ok_bind, subscript_some,
    AddressMap.tableSuffix, hl, h.1.valueRange_eq]

/-- Without an option, the range is `None` and so is the slider. -/
theorem resolve_unlisted (hfx : b.fxType = "fx")
    (hnone : addressMap.findOption (AddressMap.fxStartSection b.fxId suffix)
      ("fx" ++ b.fxId.toStr ++ suffix) = .ok none) :
    BlockSnapshot.resolve m fetch s "fx" b.fxId (some setting) = .ok none := by
  have hrange : addressMap.valueRange (AddressMap.fxStartSection b.fxId suffix)
      ("fx" ++ b.fxId.toStr ++ suffix) setting = .ok none := by
    simp [AddressMap.valueRange, hnone]
  have hoffset : m.addressForBlock "fx" b.fxId setting none (some (.str l)) = .ok none :=
    h.addressForBlock_unlisted hl hfx hnone
  simp [BlockSnapshot.resolve, h.valueRange_effect hl hname, hrange, BlockReader.readValue,
    BlockReader.readFx, hname, hoffset]

/-- With one, a slider is read and labelled through the table of the effect. -/
theorem resolve_listed (hf : Exact fetch) (hfx : b.fxType = "fx")
    (slot : Slot addressMap (AddressMap.fxStartSection b.fxId suffix)
      ("fx" ++ b.fxId.toStr ++ suffix) setting) :
    BlockSnapshot.resolve m fetch s "fx" b.fxId (some setting) =
      match answer fetch slot.address slot.param.bytes with
      | none => .ok none
      | some raw => do
        let table ← m.fxNameValueTable suffix
        let value ← readLabel table setting raw
        let slider ← BlockSnapshot.slider (some value) setting (some slot.param.valueRange)
        return some slider := by
  have hpos : 0 < slot.param.bytes := params_bytes _ slot.mem_table _ slot.mem_param
  have hoffset := h.addressForBlock_effect hl hfx slot
  have hwidth := h.blockSettingBytes_effect hl hfx slot
  simp only [BlockSnapshot.resolve, h.valueRange_effect hl hname, slot.valueRange_eq,
    BlockReader.readValue, if_true, BlockReader.readFx, hname, hoffset, hwidth, ok_bind,
    fetchValue_eq hf hpos]
  cases answer fetch slot.address slot.param.bytes with
  | none => simp
  | some raw =>
    simp only [subscript_some, ok_bind, AddressMap.tableSuffix, hl, pure_eq_ok]
    cases m.fxNameValueTable suffix with
    | error e => rfl
    | ok table =>
      simp only [ok_bind]
      cases readLabel table setting raw with
      | error e => rfl
      | ok value => simp

end HasBlock

end

/-! ## Which sliders can be resolved -/

/-- The read of a setting of the loaded effect is answered. -/
def Answered (m : AddressMap) (fetch : Fetch) (fxId : StrOrInt) (l setting : String) : Prop :=
  ∃ address width, m.addressForBlock "fx" fxId setting none (some (.str l)) = .ok (some address) ∧
    m.blockSettingBytes "fx" fxId setting (some (.str l)) = .ok width ∧
    (fetch address [0, 0, 0, width]).isSome = true

theorem masterFx_suffix : ∀ x ∈ fxToTableSuffix, x.2 = "MasterFx" ↔ x.1 = "MASTERING FX" := by
  decide

section

variable {m : AddressMap} {b : TopBlock} {fetch : Fetch} {l suffix setting : String}
  {s : PatchState} (h : HasBlock m b) (hf : Exact fetch) (hfx : b.fxType = "fx")
  (hname : s.fxName b.fxId = .ok (some (.str l)))
include h hf hfx hname

/-- A slider of an fx block resolves, unless it is one of `MASTERING FX` and its read is answered. -/
theorem HasBlock.resolve_effect_iff (hl : fxToTableSuffix.lookup l = some suffix)
    (hs : EffectSlider l setting) :
    (∃ r, BlockSnapshot.resolve m fetch s "fx" b.fxId (some setting) = .ok r) ↔
      ¬ (l = "MASTERING FX" ∧ Answered m fetch b.fxId l setting) := by
  have hsuffix : suffix = "MasterFx" ↔ l = "MASTERING FX" := masterFx_suffix _ (mem_of_lookup hl)
  rcases exists_effectSlot h.mem hfx hl hs with ⟨-, hnone⟩ | ⟨slot, htable, hrange⟩
  · refine iff_of_true ⟨none, h.resolve_unlisted hl hname hfx hnone⟩ ?_
    rintro ⟨-, address, width, haddress, -⟩
    rw [h.addressForBlock_unlisted hl hfx hnone] at haddress
    cases haddress
  · rw [h.resolve_listed hl hname hf hfx slot]
    have hanswered : Answered m fetch b.fxId l setting ↔
        (answer fetch slot.address slot.param.bytes).isSome = true := by
      simp [Answered, h.addressForBlock_effect hl hfx slot, h.blockSettingBytes_effect hl hfx slot,
        answer_isSome]
    rw [hanswered]
    cases answer fetch slot.address slot.param.bytes with
    | none => simp
    | some raw =>
      by_cases hmaster : l = "MASTERING FX"
      · have hnone : m.fxNameValueTable suffix = .error .keyError := by
          rw [hsuffix.2 hmaster, h.1.fxNameValueTable_eq]
          simp [AddressMap.fxNameValueTable, AddressMap.valueTable, masterFx_missing]
        simp [hnone, hmaster]
      · have hok : m.fxNameValueTable suffix = .ok (.params slot.table) := by
          rw [h.1.fxNameValueTable_eq, AddressMap.fxNameValueTable, AddressMap.valueTable]
          rw [effectTable, if_neg fun hm => hmaster (hsuffix.1 hm)] at htable
          rw [htable, subscript_some]
        obtain ⟨r, hr⟩ := slider_ok (some (presented slot.param raw)) setting hrange
        refine iff_of_true ⟨some r, ?_⟩ fun hm => hmaster hm.1
        simp [hok, readLabel_eq slot.param_lookup, hr]

/-- The same for a parameter of the slider policy, which may be no setting at all. -/
theorem HasBlock.resolve_param_iff (hl : fxToTableSuffix.lookup l = some suffix)
    {param : Option String} (hs : ∀ setting, param = some setting → EffectSlider l setting) :
    (∃ r, BlockSnapshot.resolve m fetch s "fx" b.fxId param = .ok r) ↔
      ∀ setting, param = some setting →
        ¬ (l = "MASTERING FX" ∧ Answered m fetch b.fxId l setting) := by
  cases param with
  | none => exact iff_of_true ⟨none, rfl⟩ nofun
  | some setting =>
    rw [h.resolve_effect_iff hf hfx hname hl (hs setting rfl)]
    exact ⟨fun hne _ heq => Option.some.inj heq ▸ hne, fun hne => hne setting rfl⟩

end

end Pygt1000
