import Pygt1000.BlockReads
import Pygt1000.Facade

/-!
# A full scan

A refresh reads the blocks of every fx type and records them. It returns unless an fx block has
`MASTERING FX` loaded and the unit answers the read of one of its two sliders
(`refreshState_iff`); then the state is `Scanned`: every fx type holds the blocks of the map, in
address order, each as it was read.
-/

namespace Pygt1000

open Specs

/-! ## One block -/

section

variable {m : AddressMap} {b : TopBlock} {fetch : Fetch} {s : PatchState}

/-- The switch of a block. -/
def switchParam : Param := ⟨[0, 0], [0, 1], 1, [("OFF", 0), ("ON", 1)]⟩

theorem switch_labels : ∀ t ∈ valueTables, t.2.2.lookup "SW" = some switchParam := by decide

theorem type_selectors : ∀ t ∈ valueTables,
    t.1 = "ns" ∨ t.1 = "delay" ∨ (t.2.2.lookup "TYPE").isSome = true := by decide

theorem nonFx_slidable : ∀ t ∈ valueTables, t.1 ≠ "fx" →
    (BlockSnapshot.nonFxSliderParams.lookup t.1).all (fun sliders =>
      sliders.1.all (slidable t.2.2) && sliders.2.all (slidable t.2.2)) = true := by decide

theorem eq_slidable : ∀ t ∈ valueTables, t.1 = "eq" →
    (slidable t.2.2 "LEVEL1" && slidable t.2.2 "LEVEL") = true := by decide

/-- The selector of an fx block's effect. -/
def fxType : Param := ⟨[0, 1], [0, 33], 1, numbered 0 fxTypeLabels⟩

theorem fxType_selector : ∀ t ∈ valueTables, t.1 = "fx" → t.2.2.lookup "TYPE" = some fxType := by
  decide

theorem fxType_labels : ∀ x ∈ numbered 0 fxTypeLabels,
    x.1 ∈ fxTypeLabels ∧ (x.1 = "MASTERING FX" ↔ x.2 = 33) := by decide

theorem masteringFx_sliders : BlockSnapshot.fxNameSliderParams.lookup "MASTERING FX" =
    some (some "TONE", some "NATURAL") := by decide

/-- The unit says an fx block has `MASTERING FX` loaded. -/
def MasteringLoaded (m : AddressMap) (fetch : Fetch) (fxId : StrOrInt) : Prop :=
  ∃ address, m.addressForBlock "fx" fxId "TYPE" none none = .ok (some address) ∧
    fetch address [0, 0, 0, 1] = some [33]

/-- It also answers the read of one of the sliders that effect shows. -/
def MasteringRead (m : AddressMap) (fetch : Fetch) (fxId : StrOrInt) : Prop :=
  MasteringLoaded m fetch fxId ∧
    ∃ setting ∈ ["TONE", "NATURAL"], Answered m fetch fxId "MASTERING FX" setting

namespace HasBlock

variable (h : HasBlock m b) (hf : Exact fetch)
include h hf

theorem blockName_ok : ∃ name, BlockSnapshot.blockName m fetch b.fxType b.fxId = .ok name := by
  rcases type_selectors _ (TopBlock.mem_valueTables h.mem) with ht | ht | ht
  · exact ⟨_, by rw [BlockSnapshot.blockName, if_pos (Or.inl ht)]⟩
  · exact ⟨_, by rw [BlockSnapshot.blockName, if_pos (Or.inr ht)]⟩
  · obtain ⟨e, he⟩ := Option.isSome_iff_exists.1 ht
    unfold BlockSnapshot.blockName
    split
    · exact ⟨_, rfl⟩
    · exact ⟨_, h.read_eq hf he false⟩

/-- The sliders of a block of any other type can be resolved. -/
theorem slidersFor_ok (hne : b.fxType ≠ "fx") (s : PatchState) (name : Option StrOrInt) :
    ∃ r, BlockSnapshot.slidersFor m fetch s b.fxType b.fxId name = .ok r := by
  have hmem := TopBlock.mem_valueTables h.mem
  by_cases heq : b.fxType = "eq"
  · have hs := eq_slidable _ hmem heq
    simp only [Bool.and_eq_true] at hs
    have hparam : ∃ r, BlockSnapshot.resolve m fetch s b.fxType b.fxId
        (some (if name = some (.str "PARAMETRIC") then "LEVEL1" else "LEVEL")) = .ok r := by
      split
      · exact h.resolve_top hf hne s (by simpa using hs.1)
      · exact h.resolve_top hf hne s (by simpa using hs.2)
    obtain ⟨r, hr⟩ := hparam
    exact ⟨_, by simp only [BlockSnapshot.slidersFor, if_pos heq, hr, ok_bind]; rfl⟩
  · have hparams : ∃ p1 p2, BlockSnapshot.sliderParams s b.fxType b.fxId = .ok (p1, p2) ∧
        p1.all (slidable b.table) = true ∧ p2.all (slidable b.table) = true := by
      have hs := nonFx_slidable _ hmem hne
      simp only [BlockSnapshot.sliderParams, if_neg hne, pure_eq_ok]
      cases hl : BlockSnapshot.nonFxSliderParams.lookup b.fxType with
      | none => exact ⟨none, none, rfl, rfl, rfl⟩
      | some sliders =>
        rw [hl] at hs
        simp only [Option.all_some, Bool.and_eq_true] at hs
        exact ⟨sliders.1, sliders.2, rfl, hs⟩
    obtain ⟨p1, p2, hsliders, hp1, hp2⟩ := hparams
    obtain ⟨r1, hr1⟩ := h.resolve_top hf hne s hp1
    obtain ⟨r2, hr2⟩ := h.resolve_top hf hne s hp2
    rw [BlockSnapshot.slidersFor_eq_resolve heq hsliders, hr1, ok_bind, hr2, ok_bind]
    exact ⟨_, rfl⟩

/-- What the scan takes for the name of an fx block's effect: a label of the selector, or none
that the slider policy knows. -/
theorem blockName_fx (hfx : b.fxType = "fx") {name : Option StrOrInt}
    (hname : BlockSnapshot.blockName m fetch b.fxType b.fxId = .ok name) :
    (∃ l ∈ fxTypeLabels, name = some (.str l) ∧ (l = "MASTERING FX" ↔ MasteringLoaded m fetch b.fxId)) ∨
      ((∀ l, name ≠ some (.str l)) ∧ ¬ MasteringLoaded m fetch b.fxId) := by
  have he := fxType_selector _ (TopBlock.mem_valueTables h.mem) hfx
  have hns : ¬ (b.fxType = "ns" ∨ b.fxType = "delay") := by simp [hfx]
  rw [BlockSnapshot.blockName, if_neg hns, h.read_label hf he, Except.ok.injEq] at hname
  have hloaded : MasteringLoaded m fetch b.fxId ↔
      answer fetch [0x10, b.second, b.third, fxType.offsetByte 1] fxType.bytes = some 33 := by
    have haddress := h.addressForBlock_eq he
    rw [hfx] at haddress
    simp only [MasteringLoaded, haddress, Except.ok.injEq, Option.some.injEq, exists_eq_left']
    exact (answer_eq_some hf).symm
  rw [← hname, hloaded]
  cases answer fetch [0x10, b.second, b.third, fxType.offsetByte 1] fxType.bytes with
  | none => exact Or.inr ⟨nofun, nofun⟩
  | some raw =>
    simp only [Option.map_some, Option.some.injEq]
    cases hlabel : labelForRaw fxType.values raw with
    | none =>
      have h33 : raw ≠ 33 := by
        rintro rfl
        revert hlabel
        decide
      right
      simpa [presented, hlabel] using h33
    | some l =>
      left
      obtain ⟨hl, hmaster⟩ := fxType_labels _ (mem_of_labelForRaw hlabel)
      exact ⟨l, hl, by simp [presented, hlabel], hmaster⟩

/-- The sliders of an fx block can be resolved, unless the effect is `MASTERING FX` and one of
their reads is answered. -/
theorem slidersFor_fx_iff (hfx : b.fxType = "fx") {name : Option StrOrInt}
    (hname : BlockSnapshot.blockName m fetch b.fxType b.fxId = .ok name)
    (hs : s.fxName b.fxId = .ok name) :
    (∃ r, BlockSnapshot.slidersFor m fetch s "fx" b.fxId name = .ok r) ↔
      ¬ MasteringRead m fetch b.fxId := by
  rcases h.blockName_fx hf hfx hname with ⟨l, hl, rfl, hmaster⟩ | ⟨hno, hnot⟩
  · obtain ⟨suffix, hsuffix⟩ := Option.isSome_iff_exists.1 (fxTypeLabels_suffix l hl)
    have hsliders : BlockSnapshot.sliderParams s "fx" b.fxId =
        .ok (((BlockSnapshot.fxNameSliderParams.lookup l).getD (none, none)).1,
          ((BlockSnapshot.fxNameSliderParams.lookup l).getD (none, none)).2) := by
      simp [BlockSnapshot.sliderParams, hs]
    rw [BlockSnapshot.slidersFor_eq_resolve (by decide) hsliders]
    have hsetting : ∀ setting,
        ((BlockSnapshot.fxNameSliderParams.lookup l).getD (none, none)).1 = some setting ∨
        ((BlockSnapshot.fxNameSliderParams.lookup l).getD (none, none)).2 = some setting →
          EffectSlider l setting := by
      intro setting hsetting
      cases hlookup : BlockSnapshot.fxNameSliderParams.lookup l with
      | none => simp [hlookup] at hsetting
      | some sliders => exact ⟨sliders, hlookup, by simpa [hlookup] using hsetting⟩
    simp only [pair_ok_iff,
      h.resolve_param_iff hf hfx hs hsuffix fun setting heq => hsetting setting (Or.inl heq),
      h.resolve_param_iff hf hfx hs hsuffix fun setting heq => hsetting setting (Or.inr heq)]
    by_cases heq : l = "MASTERING FX"
    · subst heq
      simp [MasteringRead, hmaster.1 rfl, masteringFx_sliders]
    · have hnot : ¬ MasteringLoaded m fetch b.fxId := fun hloaded => heq (hmaster.2 hloaded)
      simp [MasteringRead, heq, hnot]
  · have hsliders : BlockSnapshot.sliderParams s "fx" b.fxId = .ok (none, none) := by
      rcases name with _ | l | n
      · simp [BlockSnapshot.sliderParams, hs]
      · exact absurd rfl (hno l)
      · simp [BlockSnapshot.sliderParams, hs]
    refine iff_of_true ⟨(none, none), ?_⟩ fun hread => hnot hread.1
    rw [BlockSnapshot.slidersFor_eq_resolve (by decide) hsliders]
    rfl

/-- A block can be read, under the same condition. -/
theorem snapshot_iff (s : PatchState) :
    (∃ r, BlockSnapshot.snapshot m fetch s b.fxType b.fxId true = .ok r) ↔
      ¬ (b.fxType = "fx" ∧ MasteringRead m fetch b.fxId) := by
  have he := switch_labels _ (TopBlock.mem_valueTables h.mem)
  obtain ⟨name, hname⟩ := h.blockName_ok hf
  have hparts : (∃ r, BlockSnapshot.snapshot m fetch s b.fxType b.fxId true = .ok r) ↔
      ∃ r, BlockSnapshot.slidersFor m fetch (BlockSnapshot.named s b.fxType b.fxId name) b.fxType
        b.fxId name = .ok r := by
    constructor
    · rintro ⟨⟨s', fx⟩, hsnap⟩
      obtain ⟨state, name', slider1, slider2, -, hname', rfl, hsliders, -⟩ :=
        BlockSnapshot.snapshot_eq_ok hsnap
      rw [hname, Except.ok.injEq] at hname'
      rw [hname']
      exact ⟨_, hsliders⟩
    · rintro ⟨⟨slider1, slider2⟩, hsliders⟩
      exact ⟨_, BlockSnapshot.snapshot_ok (h.read_label hf he) hname hsliders⟩
  rw [hparts]
  by_cases hfx : b.fxType = "fx"
  · have hrecorded : (BlockSnapshot.named s b.fxType b.fxId name).fxName b.fxId = .ok name := by
      rw [BlockSnapshot.named, if_pos hfx]
      exact PatchState.fxName_setFxName s b.fxId name
    simpa [hfx] using h.slidersFor_fx_iff hf hfx hname hrecorded
  · exact iff_of_true (h.slidersFor_ok hf hfx _ name) fun hread => hfx hread.1

end HasBlock

end

/-! ## The blocks of a type -/

section

variable {m : AddressMap} {fetch : Fetch} {s s' : PatchState} {t : String} {n : Nat}

/-- What the loop records of each block, and that it leaves the recorded blocks alone. -/
theorem snapshotFrom_spec (hc : m.fxBlockCount t = .ok n) {is : List Nat} {out : List FxBlock}
    (h : BlockSnapshot.snapshotFrom m fetch t s is = .ok (s', out)) :
    (s'.blocks = s.blocks ∧ s'.fxTypes = s.fxTypes) ∧
      out.map (·.fxId) = is.map (fun i : Nat => AddressMap.normalId n t (.int (i + 1))) ∧
      ∀ fx ∈ out, BlockReader.read m fetch t fx.fxId "SW" false = .ok fx.state := by
  induction is generalizing s out with
  | nil => cases h; simp
  | cons i is ih =>
    obtain ⟨s1, fx, rest, hfx, hrest, rfl⟩ := BlockSnapshot.snapshotFrom_cons hc h
    obtain ⟨state, name, slider1, slider2, hstate, -, rfl, -, rfl⟩ := BlockSnapshot.snapshot_eq_ok hfx
    obtain ⟨hframe, hids, hreads⟩ := ih hrest
    rw [BlockSnapshot.named_blocks, BlockSnapshot.named_fxTypes] at hframe
    exact ⟨hframe, by simp [hids], List.forall_mem_cons.2 ⟨hstate, hreads⟩⟩

/-- The list holds the blocks of the type, under the ids of `topBlocks` and in address order. -/
def Complete (m : AddressMap) (t : String) (blocks : List FxBlock) : Prop :=
  ∃ n, m.fxBlockCount t = .ok n ∧ (t, n) ∈ blockCounts ∧
    blocks.map (·.fxId) = (blocksOf t n).map (·.fxId)

/-- No two of them have the same id. -/
theorem Complete.nodup {blocks : List FxBlock} (h : Complete m t blocks) :
    (blocks.map fun fx => fx.fxId.toStr).Nodup := by
  obtain ⟨n, -, hn, hids⟩ := h
  have hstr := congrArg (List.map StrOrInt.toStr) hids
  simp only [List.map_map, Function.comp_def] at hstr
  rw [hstr]
  exact (blocksOf_normalized _ hn).2.2

theorem Complete.hasBlock (hm : Loaded m) {blocks : List FxBlock} (h : Complete m t blocks)
    {fx : FxBlock} (hfx : fx ∈ blocks) : ∃ b, HasBlock m b ∧ b.fxType = t ∧ b.fxId = fx.fxId := by
  obtain ⟨n, hc, hn, hids⟩ := h
  have hid : fx.fxId ∈ (blocksOf t n).map (·.fxId) := hids ▸ List.mem_map_of_mem hfx
  obtain ⟨b, hb, hfxId⟩ := List.mem_map.1 hid
  obtain ⟨-, rfl⟩ := mem_blocksOf hb
  exact ⟨b, ⟨hm, n, hc, hn, hb⟩, rfl, hfxId⟩

/-- A block is found by its id. -/
theorem Complete.find?_eq {blocks : List FxBlock} (h : Complete m t blocks) {fx : FxBlock}
    (hfx : fx ∈ blocks) : blocks.find? (fun x => x.fxId.toStr == fx.fxId.toStr) = some fx := by
  have hsome : (blocks.find? fun x => x.fxId.toStr == fx.fxId.toStr).isSome = true :=
    List.find?_isSome.2 ⟨fx, hfx, by simp⟩
  obtain ⟨x, hx⟩ := Option.isSome_iff_exists.1 hsome
  have hid : x.fxId.toStr = fx.fxId.toStr := by simpa using List.find?_some hx
  rw [hx, List.inj_on_of_nodup_map h.nodup (List.mem_of_find?_eq_some hx) hfx hid]

theorem snapshotAll_spec (hm : Loaded m) (ht : t ∈ fxTypes) {out : List FxBlock}
    (h : BlockSnapshot.snapshotAll m fetch s t = .ok (s', out)) :
    (s'.blocks = s.blocks ∧ s'.fxTypes = s.fxTypes) ∧ Complete m t out ∧
      ∀ fx ∈ out, BlockReader.read m fetch t fx.fxId "SW" false = .ok fx.state := by
  obtain ⟨n, hn, hc⟩ := hm.count ht
  simp only [BlockSnapshot.snapshotAll, hc, ok_bind] at h
  obtain ⟨hframe, hids, hreads⟩ := snapshotFrom_spec hc h
  exact ⟨hframe, ⟨n, hc, hn, hids.trans (blocksOf_normalized _ hn).1⟩, hreads⟩

/-- No fx block answers the reads that raise. -/
def NoMasteringRead (m : AddressMap) (fetch : Fetch) : Prop :=
  ∀ n, m.fxBlockCount "fx" = .ok n → ∀ i < n, ¬ MasteringRead m fetch (.int (i + 1))

theorem snapshotFrom_iff (hm : Loaded m) (hf : Exact fetch) (ht : t ∈ fxTypes)
    (hc : m.fxBlockCount t = .ok n) {is : List Nat} (his : ∀ i ∈ is, i < n) :
    (∃ r, BlockSnapshot.snapshotFrom m fetch t s is = .ok r) ↔
      ∀ i ∈ is, ¬ (t = "fx" ∧ MasteringRead m fetch (AddressMap.normalId n t (.int (i + 1)))) := by
  induction is generalizing s with
  | nil => exact iff_of_true ⟨_, rfl⟩ nofun
  | cons i is ih =>
    obtain ⟨b, hb, htype, hid⟩ := hm.block ht hc (his i List.mem_cons_self)
    have hhead := hb.snapshot_iff hf s
    rw [htype] at hhead
    rw [List.forall_mem_cons, hid, ← hhead]
    simp only [BlockSnapshot.snapshotFrom, BlockSnapshot.normalizeBlock_eq hc, hid, ok_bind]
    cases BlockSnapshot.snapshot m fetch s t b.fxId true with
    | error e => simp
    | ok r =>
      obtain ⟨s1, fx⟩ := r
      rw [← ih (s := s1) fun j hj => his j (List.mem_cons_of_mem i hj)]
      simp only [ok_bind]
      cases BlockSnapshot.snapshotFrom m fetch t s1 is <;> simp

theorem snapshotAll_iff (hm : Loaded m) (hf : Exact fetch) (ht : t ∈ fxTypes) :
    (∃ r, BlockSnapshot.snapshotAll m fetch s t = .ok r) ↔ (t = "fx" → NoMasteringRead m fetch) := by
  obtain ⟨n, -, hc⟩ := hm.count ht
  simp only [BlockSnapshot.snapshotAll, hc, ok_bind]
  rw [snapshotFrom_iff hm hf ht hc fun i hi => List.mem_range.1 hi]
  by_cases hfx : t = "fx"
  · subst hfx
    simp only [hm.normalId_fx hc, true_and, List.mem_range, true_implies, NoMasteringRead, hc,
      Except.ok.injEq]
    exact ⟨fun h n' hn' => hn' ▸ h, fun h => h n rfl⟩
  · exact iff_of_true (fun i _ hread => hfx hread.1) fun heq => absurd heq hfx

end

/-! ## The refresh -/

/-- Every fx type, and nothing else, holds the list a scan of it produced. -/
structure Scanned (m : AddressMap) (s : PatchState) : Prop extends PatchState.Known s where
  scanned : ∀ t ∈ fxTypes, ∃ fetch s0 s1 blocks,
    BlockSnapshot.snapshotAll m fetch s0 t = .ok (s1, blocks) ∧ s.blocks.lookup t = some blocks

/-- What a refresh is for: the state is ready, and holds for every fx type as many blocks as it
has, in address order, each with what the read of its switch gave. -/
structure Refreshed (m : AddressMap) (fetch : Fetch) (s : PatchState) : Prop where
  ready : s.isReady = true
  blocks : ∀ t ∈ fxTypes, ∃ n blocks addresses, m.fxBlockCount t = .ok n ∧
    s.blocks.lookup t = some blocks ∧ blocks.length = n ∧
    List.Forall₂ (fun fx address => m.addressForBlock t fx.fxId "SW" none none = .ok (some address))
      blocks addresses ∧
    addresses.Pairwise (· < ·) ∧
    ∀ fx ∈ blocks, BlockReader.read m fetch t fx.fxId "SW" false = .ok fx.state

section

variable {m : AddressMap} {fetch : Fetch} {clock : String → Nat} {s s' : PatchState}

open Gt1000 in
theorem refreshFrom_iff (hm : Loaded m) (hf : Exact fetch) {ts : List String}
    (hts : ∀ t ∈ ts, t ∈ fxTypes) :
    (∃ s', refreshFrom m fetch false clock s ts = .ok s') ↔ ("fx" ∈ ts → NoMasteringRead m fetch) := by
  induction ts generalizing s with
  | nil => exact iff_of_true ⟨s, rfl⟩ nofun
  | cons t ts ih =>
    have hhead := snapshotAll_iff (s := s) hm hf (hts t List.mem_cons_self)
    simp only [refreshFrom, Bool.false_eq_true, if_false]
    cases hsnap : BlockSnapshot.snapshotAll m fetch s t with
    | error e =>
      have hfx : ¬ (t = "fx" → NoMasteringRead m fetch) := by simpa [hsnap] using hhead
      refine iff_of_false (by simp) fun h => hfx fun heq => h ?_
      rw [heq]
      exact List.mem_cons_self
    | ok r =>
      have hfx : t = "fx" → NoMasteringRead m fetch := by simpa [hsnap] using hhead
      simp only [ok_bind, ih fun t ht => hts t (List.mem_cons_of_mem _ ht)]
      refine ⟨fun h hmem => ?_, fun h hmem => h (List.mem_cons_of_mem t hmem)⟩
      rcases List.mem_cons.1 hmem with heq | hmem
      · exact hfx heq.symm
      · exact h hmem

open Gt1000 in
/-- Every scanned type holds what the scan of it returned; no other type changes. -/
theorem refreshFrom_spec (hm : Loaded m) {ts : List String} (hts : ∀ t ∈ ts, t ∈ fxTypes)
    (h : refreshFrom m fetch false clock s ts = .ok s') :
    s'.fxTypes = s.fxTypes ∧ (∀ t ∉ ts, s'.blocks.lookup t = s.blocks.lookup t) ∧
      ∀ t ∈ ts, ∃ s0 s1 blocks, BlockSnapshot.snapshotAll m fetch s0 t = .ok (s1, blocks) ∧
        s'.blocks.lookup t = some blocks := by
  induction ts generalizing s with
  | nil => cases h; simp
  | cons t ts ih =>
    simp only [refreshFrom, Bool.false_eq_true, if_false] at h
    obtain ⟨⟨s1, states⟩, hsnap, h⟩ := bind_eq_ok h
    obtain ⟨⟨hblocks, htypes⟩, -, -⟩ := snapshotAll_spec hm (hts t List.mem_cons_self) hsnap
    obtain ⟨htypes', hother, hscanned⟩ := ih (fun t ht => hts t (List.mem_cons_of_mem _ ht)) h
    refine ⟨htypes'.trans htypes, fun t' ht' => ?_, fun t' ht' => ?_⟩
    · have hnot : t' ∉ ts := fun hmem => ht' (List.mem_cons_of_mem t hmem)
      have hne : t' ≠ t := fun heq => ht' (heq ▸ List.mem_cons_self)
      rw [hother t' hnot, PatchState.recordScan_blocks, AList.lookup_insert_ne hne, hblocks]
    · by_cases hmem : t' ∈ ts
      · exact hscanned t' hmem
      · obtain rfl : t' = t := (List.mem_cons.1 ht').resolve_right hmem
        exact ⟨s, s1, states, hsnap, by
          rw [hother t' hmem, PatchState.recordScan_blocks, AList.lookup_insert]⟩

/-- The refresh returns, unless a read it makes raises. -/
theorem refreshState_returns (hm : Loaded m) (hf : Exact fetch) (hs : s.Known) :
    (∃ s', Gt1000.refreshState m fetch false clock s = .ok s') ↔ NoMasteringRead m fetch := by
  have hts : ∀ t ∈ s.fxTypes, t ∈ fxTypes := fun t ht => hs.types ▸ ht
  have hfx : "fx" ∈ s.fxTypes := by
    rw [hs.types]
    decide
  rw [Gt1000.refreshState, refreshFrom_iff hm hf hts]
  exact ⟨fun h => h hfx, fun h _ => h⟩

theorem refreshState_spec (hm : Loaded m) (hs : s.Known)
    (h : Gt1000.refreshState m fetch false clock s = .ok s') :
    s'.Known ∧ ∀ t ∈ fxTypes, ∃ s0 s1 blocks,
      BlockSnapshot.snapshotAll m fetch s0 t = .ok (s1, blocks) ∧ s'.blocks.lookup t = some blocks := by
  have hts : ∀ t ∈ s.fxTypes, t ∈ fxTypes := fun t ht => hs.types ▸ ht
  obtain ⟨htypes, hother, hscanned⟩ := refreshFrom_spec hm hts h
  rw [hs.types] at htypes hscanned
  refine ⟨⟨htypes, fun t ht => ?_⟩, hscanned⟩
  by_contra hnot
  have hsame := hother t fun hmem => hnot (hts t hmem)
  have hkey : (s.blocks.lookup t).isSome := hsame ▸ AList.lookup_isSome.2 (AList.mem_keys.2 ht)
  exact hnot (hs.keys t (AList.mem_keys.1 (AList.lookup_isSome.1 hkey)))

theorem scanned_of_refreshState (hm : Loaded m) (hs : s.Known)
    (h : Gt1000.refreshState m fetch false clock s = .ok s') : Scanned m s' := by
  obtain ⟨hs', hscanned⟩ := refreshState_spec hm hs h
  exact ⟨hs', fun t ht => ⟨fetch, hscanned t ht⟩⟩

theorem blocks_ascending : ∀ t ∈ blockCounts,
    ((blocksOf t.1 t.2).map fun b => [0x10, b.second, b.third, 0]).Pairwise (· < ·) := by
  decide

theorem refreshed_of_refreshState (hm : Loaded m) (hs : s.Known)
    (h : Gt1000.refreshState m fetch false clock s = .ok s') : Refreshed m fetch s' := by
  obtain ⟨hs', hscanned⟩ := refreshState_spec hm hs h
  refine ⟨hs'.isReady fun t ht => ?_, fun t ht => ?_⟩
  · obtain ⟨_, _, blocks, -, hl⟩ := hscanned t ht
    exact AList.mem_keys.1 (AList.lookup_isSome.1 (by simp [hl]))
  · obtain ⟨s0, s1, blocks, hsnap, hl⟩ := hscanned t ht
    obtain ⟨-, ⟨n, hc, hn, hids⟩, hreads⟩ := snapshotAll_spec hm ht hsnap
    refine ⟨n, blocks, (blocksOf t n).map fun b => [0x10, b.second, b.third, 0], hc, hl, ?_, ?_,
      blocks_ascending _ hn, hreads⟩
    · rw [← length_blocksOf hn, ← List.length_map (·.fxId), hids, List.length_map]
    · rw [List.forall₂_map_right_iff, List.forall₂_iff_zip]
      have hzip : List.Forall₂ (fun fx b => fx.fxId = b.fxId) blocks (blocksOf t n) := by
        rw [← List.forall₂_map_right_iff, ← List.forall₂_map_left_iff, List.forall₂_eq_eq_eq]
        exact hids
      rw [List.forall₂_iff_zip] at hzip
      refine ⟨hzip.1, fun {fx b} hmem => ?_⟩
      obtain ⟨htop, htype⟩ := mem_blocksOf (List.of_mem_zip hmem).2
      have hb : HasBlock m b :=
        ⟨hm, n, by rw [htype]; exact ⟨hc, hn, (List.of_mem_zip hmem).2⟩⟩
      have haddress := hb.addressForBlock_eq (switch_labels _ (TopBlock.mem_valueTables htop))
      rw [hzip.2 hmem, ← htype]
      exact haddress

/-- **A full refresh is total, exactly** where no fx block with `MASTERING FX` answers the read of
one of its sliders: it returns and leaves the state as `Refreshed` says, for any device memory and
any choice of reads that are not answered. -/
theorem refreshState_iff (hm : Loaded m) (hf : Exact fetch) (hs : s.Known) :
    (∃ s', Gt1000.refreshState m fetch false clock s = .ok s' ∧ Refreshed m fetch s') ↔
      NoMasteringRead m fetch := by
  have hreturns : (∃ s', Gt1000.refreshState m fetch false clock s = .ok s') ↔
      NoMasteringRead m fetch := refreshState_returns hm hf hs
  rw [← hreturns]
  constructor
  · rintro ⟨s', h, -⟩
    exact ⟨s', h⟩
  · rintro ⟨s', h⟩
    exact ⟨s', h, refreshed_of_refreshState hm hs h⟩

end

/-- A unit that answers every read with zeros. -/
def zeros : Fetch := fun _ length => some (List.replicate (length.getLastD 0) 0)

theorem exact_zeros : Exact zeros := by
  intro address width data h
  simp only [zeros, Option.some.injEq] at h
  simp [← h]

theorem noMasteringRead_zeros : NoMasteringRead addressMap zeros := by
  rintro n - i - ⟨⟨address, -, hreply⟩, -⟩
  revert hreply
  simp [zeros]

theorem refreshState_zeros : ∃ s',
    Gt1000.refreshState addressMap zeros false (fun _ => 0) (.fresh fxTypes) = .ok s' ∧
      Refreshed addressMap zeros s' :=
  (refreshState_iff (Or.inl rfl) exact_zeros PatchState.known_fresh).2 noMasteringRead_zeros

/-- A refresh of that unit records every block, switched off. -/
theorem scanned_zeros : ∃ s,
    Gt1000.refreshState addressMap zeros false (fun _ => 0) (.fresh fxTypes) = .ok s ∧
    Scanned addressMap s ∧
    ∀ b ∈ topBlocks, ∃ (blocks : List FxBlock) (i : Nat) (fx : FxBlock),
      s.blocks.lookup b.fxType = some blocks ∧ blocks[i]? = some fx ∧ fx.fxId = b.fxId ∧
      fx.state = some (.str "OFF") := by
  obtain ⟨s, h⟩ : ∃ s, Gt1000.refreshState addressMap zeros false (fun _ => 0)
      (.fresh fxTypes) = .ok s :=
    (refreshState_returns (Or.inl rfl) exact_zeros PatchState.known_fresh).2 noMasteringRead_zeros
  have hs := scanned_of_refreshState (Or.inl rfl) PatchState.known_fresh h
  refine ⟨s, h, hs, fun b hb => ?_⟩
  obtain ⟨-, hscanned⟩ := refreshState_spec (Or.inl rfl) PatchState.known_fresh h
  obtain ⟨_, _, blocks, hsnap, hl⟩ := hscanned b.fxType (topBlocks_fxTypes b hb)
  obtain ⟨-, ⟨n, hc, -, hids⟩, hreads⟩ :=
    snapshotAll_spec (Or.inl rfl) (topBlocks_fxTypes b hb) hsnap
  obtain ⟨-, n', hc', -, hmem⟩ := hasBlock_shipped hb
  obtain rfl : n' = n := Except.ok.inj (hc'.symm.trans hc)
  have hid : b.fxId ∈ blocks.map (·.fxId) := hids ▸ List.mem_map_of_mem hmem
  obtain ⟨fx, hfx, hfxId⟩ := List.mem_map.1 hid
  obtain ⟨i, hi⟩ := List.mem_iff_getElem?.1 hfx
  refine ⟨blocks, i, fx, hl, hi, hfxId, ?_⟩
  have he := switch_labels _ (TopBlock.mem_valueTables hb)
  have hread := hreads fx hfx
  rw [hfxId, (hasBlock_shipped hb).read_label exact_zeros he] at hread
  exact (Except.ok.inj hread).symm

/-- Fx 1 has `MASTERING FX` loaded and its TONE at 32; no other read is answered. -/
def masteringFx : Fetch := fun address length =>
  if length = [0, 0, 0, 1] then
    if address = [0x10, 0, 0x23, 1] then some [33]
    else if address = [0x10, 2, 0x1F, 0x42] then some [32]
    else none
  else none

theorem exact_masteringFx : Exact masteringFx := by
  intro address width data h
  by_cases hw : [0, 0, 0, width] = [0, 0, 0, 1]
  · rw [masteringFx, if_pos hw] at h
    have hlen : data.length = 1 := by
      split at h
      · cases h; rfl
      · split at h
        · cases h; rfl
        · cases h
    simp_all
  · rw [masteringFx, if_neg hw] at h
    cases h

theorem masteringFx_read : MasteringRead addressMap masteringFx (.int 1) := by
  have htype : addressMap.addressForBlock "fx" (.int 1) "TYPE" none none =
      .ok (some [0x10, 0, 0x23, 1]) := by
    simp only [AddressMap.addressForBlock, AddressMap.blockSectionOption, AddressMap.normalizeBlock,
      fxBlockCount_fx, ok_bind, pure_eq_ok]
    decide
  have hsection : addressMap.blockSectionOption "fx" (.int 1) (some (.str "MASTERING FX")) =
      .ok ("patch3 (temporary patch)", "fx1MasterFx") := by
    simp only [AddressMap.blockSectionOption, AddressMap.normalizeBlock, fxBlockCount_fx, ok_bind,
      pure_eq_ok]
    decide
  have htone : addressMap.addressFor "patch3 (temporary patch)" "fx1MasterFx" "TONE" none =
      .ok (some [0x10, 2, 0x1F, 0x42]) := by decide
  have hwidth : addressMap.settingEntry "patch3 (temporary patch)" "fx1MasterFx" "TONE" =
      .ok (some (.param ⟨[0, 2], [26, 38], 1, numbered 26 ["-6 - 6"]⟩)) := by decide
  refine ⟨⟨_, htype, rfl⟩, "TONE", by simp, [0x10, 2, 0x1F, 0x42], 1, ?_, ?_, ?_⟩
  · rw [AddressMap.addressForBlock_routed hsection, htone]
  · exact AddressMap.blockSettingBytes_routed hsection hwidth
  · rfl

/-- Both bytes are in range, and the refresh raises. -/
theorem refreshState_masteringFx : Exact masteringFx ∧
    addressMap.valueRange "patch (temporary patch)" "fx1" "TYPE" = .ok (some [0, 33]) ∧
    addressMap.valueRange "patch3 (temporary patch)" "fx1MasterFx" "TONE" = .ok (some [26, 38]) ∧
    ¬ ∃ s', Gt1000.refreshState addressMap masteringFx false (fun _ => 0) (.fresh fxTypes) =
      .ok s' := by
  refine ⟨exact_masteringFx, by decide, by decide, ?_⟩
  rw [refreshState_returns (Or.inl rfl) exact_masteringFx PatchState.known_fresh]
  intro h
  exact h 4 fxBlockCount_fx 0 (by decide) masteringFx_read

end Pygt1000
