import Pygt1000.Scan

/-!
# A change on the unit reaches the block it is about

The scan records a block under the id `normalize_block` gives it; a frame is matched to a block
by the id `decode` reads off the option's name. The two agree, as strings, for every block but
the preamps: those are recorded as `A` and `B` and decoded as `1` and `2`, so every change the
unit announces for a preamp is dropped (`inbound_reaches_block_iff`).
-/

namespace Pygt1000

open Specs

/-! ## The recorded blocks -/

namespace Scanned

variable {m : AddressMap} {s : PatchState} {t : String} {blocks : List FxBlock}

theorem isReady (h : Scanned m s) : s.isReady = true :=
  h.toKnown.isReady fun t ht => by
    obtain ⟨_, _, _, blocks, -, hl⟩ := h.scanned t ht
    exact AList.mem_keys.1 (AList.lookup_isSome.1 (by simp [hl]))

theorem complete (h : Scanned m s) (hm : Loaded m) (ht : t ∈ fxTypes)
    (hl : s.blocks.lookup t = some blocks) : Complete m t blocks := by
  obtain ⟨fetch, s0, s1, out, hsnap, hout⟩ := h.scanned t ht
  obtain rfl : out = blocks := by simpa [hout] using hl
  exact (snapshotAll_spec hm ht hsnap).2.1

/-- A value about the `i`-th block of a type changes that block. -/
theorem apply_block (h : Scanned m s) (hm : Loaded m) (ht : t ∈ fxTypes)
    (hl : s.blocks.lookup t = some blocks) {i : Nat} {fx : FxBlock} (hi : blocks[i]? = some fx)
    {d : DecodedValue} (hdt : d.fxType = some t) (hid : fx.fxId.toStr = PatchState.idStr d.fxId)
    (now : Nat) : s.apply now d =
      .ok (s.fold now d t fx (blocks.set i (PatchState.applyBlock d fx)),
        PatchState.blockResult d fx) := by
  have hnodup := (h.complete hm ht hl).nodup
  obtain ⟨hlt, hget⟩ := List.getElem?_eq_some_iff.1 hi
  have hsplit : blocks = blocks.take i ++ fx :: blocks.drop (i + 1) := by
    rw [← hget, List.getElem_cons_drop, List.take_append_drop]
  -- No block before it has its id: the ids are distinct.
  have hpre : ∀ x ∈ blocks.take i, x.fxId.toStr ≠ PatchState.idStr d.fxId := by
    intro x hx
    rw [hsplit, List.map_append, List.map_cons, List.nodup_append] at hnodup
    rw [← hid]
    exact hnodup.2.2 _ (List.mem_map_of_mem hx) _ List.mem_cons_self
  rw [PatchState.apply_split h.isReady hdt (hsplit ▸ hl) hid hpre,
    List.set_eq_take_append_cons_drop, if_pos hlt]

end Scanned

/-! ## The ids of the two sides -/

theorem decodedId_eq : ∀ b ∈ topBlocks, b.fxType ≠ "preamp" → b.decodedId = b.fxId.toStr := by
  decide

theorem preamp_ids : ∀ b ∈ topBlocks, ∀ b' ∈ topBlocks, b.fxType = "preamp" → b'.fxType = "preamp" →
    b'.fxId.toStr ≠ b.decodedId := by decide

/-- The switch and the type selector are one byte wide. -/
theorem selectors_oneByte : ∀ t ∈ valueTables, ∀ setting ∈ ["SW", "TYPE"],
    (t.2.2.lookup setting).all (fun e => e.bytes == 1) = true := by decide

/-! ## Frames -/

/-- A frame at the address of `setting` of `fx`, the `i`-th of `blocks`, assigns the label of its
byte to that block, and no other block of any type changes. -/
def Reaches (m : AddressMap) (g : Gt1000) (t : String) (blocks : List FxBlock) (i : Nat) (fx : FxBlock)
    (setting : String) (assign : Option StrOrInt → FxBlock) : Prop :=
  ∀ (v now : Nat) (link : DeviceLink.Link) (message address : List Nat) (table : Table) (e : Param),
    m.addressForBlock t fx.fxId setting none none = .ok (some address) →
    m.fxValueTable t = .ok table → table.find? setting = some (.param e) →
    link.pending = (fun _ => none) → parseDataReply link.deviceId message = some (address, [v]) →
    (Gt1000.receive m now link g message).2.state.blocks.lookup t =
        some (blocks.set i (assign ((labelForRaw e.values v).map .str))) ∧
      ∀ t', t' ≠ t →
        (Gt1000.receive m now link g message).2.state.blocks.lookup t' = g.state.blocks.lookup t'

section

variable {m : AddressMap} {g : Gt1000} {b : TopBlock} {setting : String} {e : Param} {now v : Nat}
  {link : DeviceLink.Link} {message address : List Nat}

/-- A frame at a switch or a type selector of a block, as far as `apply`. -/
theorem frame_decodes (hb : HasBlock m b) (hset : setting ∈ ["SW", "TYPE"])
    (he : b.table.lookup setting = some e)
    (ha : m.addressForBlock b.fxType b.fxId setting none none = .ok (some address)) :
    address ≠ programChangeOffset ∧
    ∃ d, m.decode address (.list [v]) = .ok (some d) ∧ d.fxType = some b.fxType ∧
      d.fxId = some b.decodedId ∧ d.valueName = setting ∧ d.strValue = labelForRaw e.values v := by
  have hbytes : e.bytes = 1 := by
    have := selectors_oneByte _ (TopBlock.mem_valueTables hb.mem) setting hset
    simpa [he] using this
  have hraw : rawInt e (.list [v]) = .ok v := by simp [rawInt, hbytes]
  obtain rfl : [0x10, b.second, b.third, e.offsetByte 1] = address := by
    simpa [hb.addressForBlock_eq he] using ha
  obtain ⟨d, hd, h1, h2, h3, h4, -⟩ := hb.decode_eq he hraw
  exact ⟨by simp [programChangeOffset], d, hd, h1, h2, h3, h4⟩

/-- Outside the preamps, a frame changes the block it is about and nothing else. -/
theorem reaches_of_ne_preamp (hm : Loaded m) (hs : Scanned m g.state) {t : String} (ht : t ∈ fxTypes)
    {blocks : List FxBlock} (hl : g.state.blocks.lookup t = some blocks) {i : Nat} {fx : FxBlock}
    (hi : blocks[i]? = some fx) (hp : t ≠ "preamp") (hset : setting ∈ ["SW", "TYPE"])
    {assign : Option StrOrInt → FxBlock}
    (hassign : ∀ d : DecodedValue, d.valueName = setting →
      PatchState.applyBlock d fx = assign (d.strValue.map .str)) :
    Reaches m g t blocks i fx setting assign := by
  intro v now link message address table e ha htable he hpend hparse
  obtain ⟨b, hb, rfl, hfxId⟩ := (hs.complete hm ht hl).hasBlock hm (List.mem_of_getElem? hi)
  rw [hb.fxValueTable_eq] at htable
  cases htable
  have he : b.table.lookup setting = some e := by simpa using he
  rw [← hfxId] at ha
  obtain ⟨hne, d, hd, hdt, hdid, hdset, hdstr⟩ := frame_decodes (v := v) hb hset he ha
  have hid : fx.fxId.toStr = PatchState.idStr d.fxId := by
    rw [hdid, PatchState.idStr, decodedId_eq b hb.mem hp, hfxId]
  have happly := hs.apply_block hm ht hl hi hdt hid now
  rw [Gt1000.receive_unsolicited hparse (by rw [hpend]), Gt1000.processDataFromUnit_state hne hd happly]
  refine ⟨?_, fun t' ht' => by rw [PatchState.fold_blocks, AList.lookup_insert_ne ht']⟩
  rw [PatchState.fold_blocks, AList.lookup_insert, hassign d hdset, hdstr]

/-- A frame about a preamp changes no block. -/
theorem preamp_dropped (hm : Loaded m) (hs : Scanned m g.state) {blocks : List FxBlock}
    (hl : g.state.blocks.lookup "preamp" = some blocks) (hb : HasBlock m b) (hp : b.fxType = "preamp")
    (hset : setting ∈ ["SW", "TYPE"]) (he : b.table.lookup setting = some e)
    (ha : m.addressForBlock b.fxType b.fxId setting none none = .ok (some address))
    (hpend : link.pending = fun _ => none)
    (hparse : parseDataReply link.deviceId message = some (address, [v])) :
    (Gt1000.receive m now link g message).2.state = g.state := by
  obtain ⟨hne, d, hd, hdt, hdid, -, -⟩ := frame_decodes (v := v) hb hset he ha
  have hno : ∀ x ∈ blocks, x.fxId.toStr ≠ PatchState.idStr d.fxId := by
    intro x hx
    obtain ⟨b', hb', hp', hid⟩ := (hs.complete hm (by decide) hl).hasBlock hm hx
    rw [hdid, ← hid]
    exact preamp_ids b hb.mem b' hb'.mem hp hp'
  have happly : g.state.apply now d = .ok (g.state, ⟨false, false⟩) :=
    PatchState.apply_unmatched (hdt.trans (congrArg some hp)) hl hno
  rw [Gt1000.receive_unsolicited hparse (by rw [hpend]), Gt1000.processDataFromUnit_state hne hd happly]

end

/-- **Inbound changes reach their block, exactly** for the fx types other than `preamp`: frames at
the switch and at the type selector of a recorded block, with any byte. -/
theorem inbound_reaches_block_iff {m : AddressMap} (hm : Loaded m) {g : Gt1000}
    (hs : Scanned m g.state) {t : String} (ht : t ∈ fxTypes) {blocks : List FxBlock}
    (hl : g.state.blocks.lookup t = some blocks) {i : Nat} {fx : FxBlock} (hi : blocks[i]? = some fx) :
    (Reaches m g t blocks i fx "SW" (fun label => { fx with state := label }) ∧
      Reaches m g t blocks i fx "TYPE" (fun label => { fx with name := label })) ↔
      t ≠ "preamp" := by
  constructor
  · rintro ⟨hsw, -⟩ rfl
    obtain ⟨b, hb, hp, hfxId⟩ := (hs.complete hm ht hl).hasBlock hm (List.mem_of_getElem? hi)
    have he := switch_labels _ (TopBlock.mem_valueTables hb.mem)
    have ha := hb.addressForBlock_eq he
    have htable := hb.fxValueTable_eq
    rw [hp] at htable
    -- The frame's byte would decide the state the block already has.
    have hstate : ∀ v, fx.state = (labelForRaw switchParam.values v).map .str := by
      intro v
      have hparse := parseDataReply_encodeDt1 0x10 [v]
        (show [0x10, b.second, b.third, 0].length = 4 from rfl)
      have hset := hsw v 0 (DeviceLink.fresh 0x10) _ _ _ _ (by rw [← hfxId, ← hp]; exact ha) htable
        (by simpa using he) rfl hparse
      have hsame : (Gt1000.receive m 0 (DeviceLink.fresh 0x10) g _).2.state = g.state :=
        preamp_dropped hm hs hl hb hp (by simp) he ha rfl hparse
      rw [hsame, hl] at hset
      have hget := congrArg (·[i]?) (Option.some.inj hset.1)
      have hlt := (List.getElem?_eq_some_iff.1 hi).1
      simp only [hi, List.getElem?_set_self hlt, Option.some.injEq] at hget
      exact congrArg FxBlock.state hget
    have h0 := hstate 0
    rw [hstate 1] at h0
    revert h0
    decide
  · intro hp
    refine ⟨reaches_of_ne_preamp hm hs ht hl hi hp (by simp) fun d hd => ?_,
      reaches_of_ne_preamp hm hs ht hl hi hp (by simp) fun d hd => ?_⟩
    · rw [PatchState.applyBlock, if_pos hd]
    · rw [PatchState.applyBlock, if_neg (by rw [hd]; decide), if_pos hd]

theorem inbound_reaches_dist2 : ∃ (s : PatchState) (blocks : List FxBlock) (i : Nat) (fx : FxBlock),
    Scanned addressMap s ∧ s.blocks.lookup "dist" = some blocks ∧ blocks[i]? = some fx ∧
    fx.fxId = .int 2 ∧
    Reaches addressMap ⟨s, []⟩ "dist" blocks i fx "SW" (fun label => { fx with state := label }) ∧
    Reaches addressMap ⟨s, []⟩ "dist" blocks i fx "TYPE" (fun label => { fx with name := label }) := by
  obtain ⟨s, -, hs, hblocks⟩ := scanned_zeros
  obtain ⟨blocks, i, fx, hl, hi, hid, -⟩ :=
    hblocks ⟨"dist", .int 2, 0, 0x14, "2"⟩ (by decide)
  have hreaches := (inbound_reaches_block_iff (g := ⟨s, []⟩) (Or.inl rfl) hs (by decide) hl hi).2
    (by decide)
  exact ⟨s, blocks, i, fx, hs, hl, hi, hid, hreaches⟩

/-- Preamp A is off and switched on at the unit: the recorded state stays off. -/
theorem preampA_change_dropped : ∃ (s : PatchState) (blocks : List FxBlock) (i : Nat) (fx : FxBlock),
    Scanned addressMap s ∧ s.blocks.lookup "preamp" = some blocks ∧ blocks[i]? = some fx ∧
    fx.fxId = .str "A" ∧ fx.state = some (.str "OFF") ∧
    labelForRaw switchParam.values 1 = some "ON" ∧
    addressMap.addressForBlock "preamp" (.str "A") "SW" none none = .ok (some [0x10, 0, 0x15, 0]) ∧
    (Gt1000.receive addressMap 0 (DeviceLink.fresh 0x10) ⟨s, []⟩
      (encodeDt1 0x10 [0x10, 0, 0x15, 0, 1] none)).2.state.blocks.lookup "preamp" = some blocks := by
  obtain ⟨s, -, hs, hblocks⟩ := scanned_zeros
  have hmem : (⟨"preamp", .str "A", 0, 0x15, "1"⟩ : TopBlock) ∈ topBlocks := by decide
  obtain ⟨blocks, i, fx, hl, hi, hid, hoff⟩ := hblocks _ hmem
  have hb := hasBlock_shipped hmem
  have he := switch_labels _ (TopBlock.mem_valueTables hmem)
  have ha := hb.addressForBlock_eq he
  have hparse := parseDataReply_encodeDt1 0x10 [1] (show [0x10, 0, 0x15, 0].length = 4 from rfl)
  have hsame : (Gt1000.receive addressMap 0 (DeviceLink.fresh 0x10) ⟨s, []⟩ _).2.state = s :=
    preamp_dropped (Or.inl rfl) hs hl hb rfl (by simp) he ha rfl hparse
  refine ⟨s, blocks, i, fx, hs, hl, hi, hid, hoff, rfl, ha, ?_⟩
  rw [← hl]
  exact congrArg (fun s => s.blocks.lookup "preamp") hsame

end Pygt1000
