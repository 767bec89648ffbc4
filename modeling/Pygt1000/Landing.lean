import Pygt1000.PatchDict
import Pygt1000.TopBlocks
import Pygt1000.Facade

/-!
# What a decoded value lands on

`Lands s d fxType fx` says that a decoded value is about a field of a recorded block: the block
`fx` has its fx type and id, and the field is the switch, the effect, or a slider of that label.

* `apply_accepts_iff`: on every ready state of a facade, `apply` copes with exactly the decoded
  values that have an fx type; for the others it raises a `KeyError`, where its result type has
  `matched=False` for them.
* `frame_unchanged_iff`: a frame leaves the tracked state alone exactly when it lands nowhere, or
  repeats what is recorded in the moment it was recorded. The section it comes from is not asked
  for, so frames of the user patches, the pedalboard and the stomp boxes land as well.
-/

namespace Pygt1000

open Specs PatchState

/-- Field `valueName` is one that `apply` writes (`patch_state.py:187-217`). -/
def HasField (valueName : String) (fx : FxBlock) : Prop :=
  valueName = "SW" ∨ valueName = "TYPE" ∨
    ∃ v, (fx.slider1 = some v ∨ fx.slider2 = some v) ∧ v.label = valueName

structure Lands (s : PatchState) (d : DecodedValue) (fxType : String) (fx : FxBlock) : Prop where
  type : d.fxType = some fxType
  block : s.block fxType (idStr d.fxId) = some fx
  field : HasField d.valueName fx

/-- The value is there already. -/
def Holds (d : DecodedValue) (fx : FxBlock) : Prop :=
  (d.valueName = "SW" → fx.state = d.strValue.map .str) ∧
    (d.valueName ≠ "SW" → ∀ v, fx.slider1 = some v ∨ fx.slider2 = some v → v.label = d.valueName →
      v.value = some (.int d.intValue))

/-- Nothing is left to change: no effect is chosen, the value is there, and its fx type was last
synced now. -/
structure Repeats (s : PatchState) (now : Nat) (d : DecodedValue) (fxType : String) (fx : FxBlock) :
    Prop where
  noType : d.valueName ≠ "TYPE"
  holds : Holds d fx
  stamped : s.lastSyncTs.lookup fxType = some now

/-! ## One block -/

theorem matched_iff {d : DecodedValue} {fx : FxBlock} :
    (blockResult d fx).matched = true ↔ HasField d.valueName fx := by
  unfold blockResult HasField
  split
  · next h => simp [h]
  split
  · next h => simp [h]
  · next hsw htype =>
    simp only [Bool.or_eq_true, sliderMatches, Option.any_eq_true, beq_iff_eq, hsw, htype, false_or,
      or_and_right, exists_or]

theorem typeChanged_eq (d : DecodedValue) (fx : FxBlock) :
    (blockResult d fx).typeChanged = (d.valueName == "TYPE") := by
  unfold blockResult
  split
  · next h => simp [h]
  split
  · next h => simp [h]
  · next hsw htype => simp [htype]

theorem echoSlider_eq_self_iff {d : DecodedValue} {slider : Option SliderValue} :
    echoSlider d slider = slider ↔
      ∀ v, slider = some v → v.label = d.valueName → v.value = some (.int d.intValue) := by
  cases slider with
  | none => simp [echoSlider]
  | some v =>
    obtain ⟨value, label, min, max⟩ := v
    by_cases hl : label = d.valueName
    · simp [echoSlider, hl, eq_comm]
    · simp [echoSlider, hl]

/-- Short of choosing an effect, writing a value that is there already changes nothing. -/
theorem applyBlock_eq_self_iff {d : DecodedValue} {fx : FxBlock} (hT : d.valueName ≠ "TYPE") :
    applyBlock d fx = fx ↔ Holds d fx := by
  obtain ⟨fxId, state, name, slider1, slider2⟩ := fx
  by_cases hsw : d.valueName = "SW"
  · simp [applyBlock, Holds, hsw, eq_comm]
  · simp only [applyBlock, hsw, hT, if_false, FxBlock.mk.injEq, echoSlider_eq_self_iff, Holds,
      true_and, false_imp_iff, ne_eq, not_false_eq_true, true_imp_iff, or_imp, forall_and]

/-- A value the block has no field for changes nothing. -/
theorem applyBlock_of_not_hasField {d : DecodedValue} {fx : FxBlock} (h : ¬ HasField d.valueName fx) :
    applyBlock d fx = fx := by
  simp only [HasField, not_or, not_exists, not_and] at h
  refine (applyBlock_eq_self_iff h.2.1).2 ⟨fun hsw => absurd hsw h.1, fun _ v hv hl => ?_⟩
  exact absurd hl (h.2.2 v hv)

/-! ## `apply` on decoded values -/

section

variable {s : PatchState} {d : DecodedValue}

/-- A value of a type that has blocks does not raise. -/
theorem apply_ok {t : String} (now : Nat) (ht : d.fxType = some t) (hk : t ∈ s.blocks.keys) :
    ∃ r, s.apply now d = .ok r := by
  cases ha : s.apply now d with
  | ok r => exact ⟨r, rfl⟩
  | error e =>
    have hnone := apply_error ha ht
    rw [← AList.mem_keys, ← AList.lookup_isSome, hnone] at hk
    cases hk

/-- The fx type of a decoded value is one of the map's. -/
theorem fxType_mem {m : AddressMap} {address : List Nat} {value : RawValue} {t : String}
    (hd : m.decode address value = .ok (some d)) (ht : d.fxType = some t) : t ∈ m.fxTypes := by
  obtain ⟨l, -, -, hfx, -⟩ := decode_eq_some hd
  have hstarts := (fxTypePrefix_spec m.fxTypes l.name).1
  rw [ht] at hfx
  unfold fxOf at hfx
  split at hfx
  · cases hfx
  · next fxType found heq =>
    obtain ⟨fxId, -, h⟩ := bind_eq_ok hfx
    obtain rfl : fxType = t := Option.some.inj (Prod.mk.inj (Except.ok.inj h)).1
    exact (hstarts fxType (by rw [heq])).1

end

/-- **`apply` against `decode`**: on every ready state of a facade, a decoded value is accepted,
and one that is on no fx block reported as unmatched, exactly if it is on an fx block. -/
theorem apply_accepts_iff {m : AddressMap} (hm : Loaded m) {ops : List Op}
    (hops : PatchDict.ScansKnown fxTypes ops)
    (hready : ((PatchDict.fresh fxTypes).run ops).isReady = true) {address : List Nat}
    {value : RawValue} {d : DecodedValue} (hd : m.decode address value = .ok (some d)) (now : Nat) :
    let s := (PatchDict.fresh fxTypes).run ops
    ((∃ r, (s.apply now d).2 = .ok r) ∧
      (d.fxType = none → s.apply now d = (s, .ok ⟨false, false⟩))) ↔ d.fxType ≠ none := by
  intro s
  cases ht : d.fxType with
  | none =>
    have hraises : (s.apply now d).2 = .error .keyError := by
      rw [PatchDict.apply, if_pos hready, ht]
    simp [hraises]
  | some t =>
    have htypes : m.fxTypes = fxTypes := by rcases hm with rfl | rfl <;> rfl
    have htm : t ∈ fxTypes := htypes ▸ fxType_mem hd ht
    have hreserved : lastSyncKey ∉ fxTypes := by decide
    have hne : d.fxType ≠ some lastSyncKey := fun heq =>
      hreserved (Option.some.inj (ht.symm.trans heq) ▸ htm)
    have hscanned := (PatchDict.isReady_run_iff (by decide) hreserved hops).1 hready t htm
    have hkeys : t ∈ ((PatchState.fresh fxTypes).run ops).blocks.keys :=
      (PatchState.mem_keys_run _ ops).2 (Or.inl hscanned)
    obtain ⟨r, hr⟩ := apply_ok now ht hkeys
    have hresult := ((PatchDict.refines_fresh_run hreserved hops).apply now d).2 hne
    rw [hr] at hresult
    exact iff_of_true ⟨⟨_, hresult⟩, fun h => absurd h (Option.some_ne_none t)⟩ (Option.some_ne_none t)

/-- Empty scans of all the types. -/
def emptyScans : List Op := fxTypes.map fun t => .recordScan t [] 0

theorem emptyScans_known : PatchDict.ScansKnown fxTypes emptyScans := by
  intro t ht
  simpa [scanned, emptyScans, Op.scans] using ht

theorem emptyScans_ready : ((PatchDict.fresh fxTypes).run emptyScans).isReady = true := by
  rw [PatchDict.isReady_run_iff (by decide) (by decide) emptyScans_known]
  intro t ht
  simpa [scanned, emptyScans, Op.scans] using ht

/-- The switch of the compressor. -/
theorem apply_accepts_comp : ∃ d, addressMap.decode [0x10, 0, 0x12, 0] (.list [1]) = .ok (some d) ∧
    (((∃ r, (((PatchDict.fresh fxTypes).run emptyScans).apply 1 d).2 = .ok r) ∧
      (d.fxType = none → ((PatchDict.fresh fxTypes).run emptyScans).apply 1 d =
        ((PatchDict.fresh fxTypes).run emptyScans, .ok ⟨false, false⟩))) ↔ d.fxType ≠ none) := by
  have hd : addressMap.decode [0x10, 0, 0x12, 0] (.list [1]) = .ok (some
      ⟨AddressMap.patchSection, "Patch", "comp", "PatchComp", "SW", some "ON", 1, some "comp", some "",
        none, none⟩) := by decide +kernel
  exact ⟨_, hd, apply_accepts_iff (Or.inl rfl) emptyScans_known emptyScans_ready hd 1⟩

/-- The first element of the effect chain. -/
theorem apply_raises_efct : ∃ d, addressMap.decode [0x10, 0, 0x10, 0x68] (.list [35]) = .ok (some d) ∧
    ((PatchDict.fresh fxTypes).run emptyScans).isReady = true ∧
    ¬ ((∃ r, (((PatchDict.fresh fxTypes).run emptyScans).apply 1 d).2 = .ok r) ∧
      (d.fxType = none → ((PatchDict.fresh fxTypes).run emptyScans).apply 1 d =
        ((PatchDict.fresh fxTypes).run emptyScans, .ok ⟨false, false⟩))) := by
  have hd : addressMap.decode [0x10, 0, 0x10, 0x68] (.list [35]) = .ok (some
      ⟨AddressMap.patchSection, "Patch", "efct", "PatchEfct", "CHAIN ELEMENT1", none, 35, none, none,
        none, none⟩) := by decide +kernel
  refine ⟨_, hd, emptyScans_ready, fun h => ?_⟩
  obtain ⟨⟨r, hr⟩, -⟩ := h
  rw [PatchDict.apply, if_pos emptyScans_ready] at hr
  cases hr

/-! ## Frames -/

/-- The recorded blocks, time stamps and resolved names are the same, and nothing is queued. -/
structure Unchanged (g g' : Gt1000) : Prop where
  blocks : ∀ t, g'.state.blocks.lookup t = g.state.blocks.lookup t
  stamps : ∀ t, g'.state.lastSyncTs.lookup t = g.state.lastSyncTs.lookup t
  names : ∀ id, g'.state.fxNames.lookup id = g.state.fxNames.lookup id
  queue : g'.queue = g.queue

theorem Unchanged.refl (g : Gt1000) : Unchanged g g := ⟨fun _ => rfl, fun _ => rfl, fun _ => rfl, rfl⟩

/-- The id of a slider re-read can be made from every id `decode` gives a block. -/
def queueable (name : String) : Bool :=
  ((fxOf fxTypes name).toOption.all fun r => r.1.isNone || (Gt1000.taskId r.2.1).toOption.isSome)

theorem containers_queueable : ∀ c ∈ containers, ∀ x ∈ c.2, queueable x.1 = true := by decide +kernel

theorem taskId_of_decode {m : AddressMap} (hm : Loaded m) {offset : List Nat} {value : RawValue}
    {d : DecodedValue} (hd : m.decode offset value = .ok (some d)) {t : String} (ht : d.fxType = some t) :
    ∃ fxId, Gt1000.taskId d.fxId = .ok fxId := by
  have htypes : m.fxTypes = fxTypes := by rcases hm with rfl | rfl <;> rfl
  obtain ⟨l, hl, -, hfx, -⟩ := decode_eq_some hd
  rw [hm.locate_eq] at hl
  obtain ⟨⟨container, r, hc, hr, -⟩, -⟩ := mem_of_locate hl
  have hq := containers_queueable _ hc _ hr
  rw [htypes] at hfx
  simp only [queueable, hfx, ht] at hq
  cases hid : Gt1000.taskId d.fxId with
  | ok fxId => exact ⟨fxId, rfl⟩
  | error e => simp [hid, Except.toOption] at hq

/-- Folding a value into the block it is about changes something, unless the block has no such
field or the value repeats what is there. -/
theorem fold_unchanged_iff {g : Gt1000} {now : Nat} {d : DecodedValue} {t : String} {fx : FxBlock}
    {pre post : List FxBlock} (hl : g.state.blocks.lookup t = some (pre ++ fx :: post))
    (hT : d.valueName ≠ "TYPE") :
    Unchanged g { g with state := g.state.fold now d t fx (pre ++ applyBlock d fx :: post) } ↔
      (HasField d.valueName fx → Holds d fx ∧ g.state.lastSyncTs.lookup t = some now) := by
  have hblocks : (∀ u, (g.state.blocks.insert t (pre ++ applyBlock d fx :: post)).lookup u =
      g.state.blocks.lookup u) ↔ applyBlock d fx = fx := by
    constructor
    · intro h
      have ht := h t
      rw [AList.lookup_insert, hl] at ht
      exact (List.cons.inj (List.append_cancel_left (Option.some.inj ht))).1
    · intro h u
      by_cases hu : u = t
      · rw [h, hu, AList.lookup_insert, hl]
      · rw [AList.lookup_insert_ne hu]
  constructor
  · intro h hfield
    refine ⟨(applyBlock_eq_self_iff hT).1 (hblocks.1 h.blocks), ?_⟩
    have ht := h.stamps t
    simp only [fold, matched_iff.2 hfield, if_true, AList.lookup_insert] at ht
    exact ht.symm
  · intro h
    have hself : applyBlock d fx = fx := by
      by_cases hfield : HasField d.valueName fx
      · exact (applyBlock_eq_self_iff hT).2 (h hfield).1
      · exact applyBlock_of_not_hasField hfield
    refine ⟨hblocks.2 hself, fun u => ?_, fun id => ?_, rfl⟩
    · simp only [fold]
      by_cases hmatched : (blockResult d fx).matched = true
      · rw [if_pos hmatched]
        by_cases hu : u = t
        · rw [hu, AList.lookup_insert, (h (matched_iff.1 hmatched)).2]
        · rw [AList.lookup_insert_ne hu]
      · rw [if_neg hmatched]
    · simp only [fold, hT, and_false, if_false]

/-- **What leaves the tracked state alone**: a frame that is no program change, from whatever
section it comes, changes no recorded block, name or stamp and queues no task exactly where every
field it lands on repeats what is recorded. -/
theorem frame_unchanged_iff {m : AddressMap} (hm : Loaded m) {g : Gt1000}
    (hready : g.state.isReady = true) {offset : List Nat} (hne : offset ≠ programChangeOffset)
    (now : Nat) (data : List Nat) :
    Unchanged g (g.processDataFromUnit m now offset data).1 ↔
      ∀ d, m.decode offset (.list data) = .ok (some d) → ∀ t fx, Lands g.state d t fx →
        Repeats g.state now d t fx := by
  have hsame {g' : Gt1000} (h : g' = g) : Unchanged g g' := h ▸ Unchanged.refl g
  cases hd : m.decode offset (.list data) with
  | error e =>
    refine iff_of_true (hsame ?_) fun d h => by cases h
    simp only [Gt1000.processDataFromUnit, if_neg hne, hd]
  | ok found =>
    rcases found with _ | d
    · refine iff_of_true (hsame ?_) fun d h => by cases h
      simp only [Gt1000.processDataFromUnit, if_neg hne, hd]
    simp only [Except.ok.injEq, Option.some.injEq, forall_eq']
    cases ha : g.state.apply now d with
    | error e =>
      refine iff_of_true (hsame ?_) fun t fx hlands => ?_
      · simp only [Gt1000.processDataFromUnit, if_neg hne, hd, ha]
      · have hblock := hlands.block
        rw [PatchState.block, apply_error ha hlands.type] at hblock
        cases hblock
    | ok r =>
      obtain ⟨s', r⟩ := r
      rcases apply_cases ha with ⟨rfl, rfl, hnone⟩ | ⟨t, pre, fx, post, -, ht, hl, hid, hpre, rfl, rfl⟩
      · refine iff_of_true (hsame ?_) fun t fx hlands => ?_
        · simp only [Gt1000.processDataFromUnit, if_neg hne, hd, ha, Bool.false_eq_true, if_false]
        · have hblock := hlands.block
          rw [hnone hready t hlands.type] at hblock
          cases hblock
      · have hblock : g.state.block t (idStr d.fxId) = some fx := by
          rw [PatchState.block, hl]
          exact findBlock_split hid hpre
        have honly : ∀ t' fx', Lands g.state d t' fx' → t' = t ∧ fx' = fx := by
          intro t' fx' hlands
          obtain rfl : t' = t := Option.some.inj (hlands.type.symm.trans ht)
          exact ⟨rfl, Option.some.inj (hlands.block.symm.trans hblock)⟩
        by_cases hT : d.valueName = "TYPE"
        · -- A chosen effect queues a re-read of the sliders.
          obtain ⟨fxId, hfxId⟩ := taskId_of_decode hm hd ht
          refine iff_of_false (fun h => ?_) fun h => ?_
          · have hq := h.queue
            simp [Gt1000.processDataFromUnit, hne, hd, ha, typeChanged_eq, hT, ht, hfxId,
              Gt1000.submit] at hq
          · exact (h t fx ⟨ht, hblock, Or.inr (Or.inl hT)⟩).noType hT
        · have hstep : (g.processDataFromUnit m now offset data).1 =
              { g with state := g.state.fold now d t fx (pre ++ applyBlock d fx :: post) } := by
            simp [Gt1000.processDataFromUnit, hne, hd, ha, typeChanged_eq, hT]
          rw [hstep, fold_unchanged_iff hl hT]
          constructor
          · intro h t' fx' hlands
            obtain ⟨rfl, rfl⟩ := honly t' fx' hlands
            exact ⟨hT, (h hlands.field).1, (h hlands.field).2⟩
          · intro h hfield
            have hrepeats := h t fx ⟨ht, hblock, hfield⟩
            exact ⟨hrepeats.holds, hrepeats.stamped⟩

/-- Every type scanned; the compressor is off. -/
def compOff : Gt1000 :=
  ⟨((PatchState.fresh fxTypes).run emptyScans).recordScan "comp" [⟨.str "", some (.str "OFF"), none, none, none⟩] 0,
    []⟩

theorem compOff_ready : compOff.state.isReady = true := by decide

/-- The effect chain of a user patch. -/
theorem frame_unchanged_efct :
    Unchanged compOff (compOff.processDataFromUnit addressMap 1 [0x20, 0, 0x10, 0x68] [35]).1 ↔
      ∀ d, addressMap.decode [0x20, 0, 0x10, 0x68] (.list [35]) = .ok (some d) →
        ∀ t fx, Lands compOff.state d t fx → Repeats compOff.state 1 d t fx :=
  frame_unchanged_iff (Or.inl rfl) compOff_ready (by decide) 1 [35]

/-- A compressor switched on in user patch 1 is recorded as switched on. -/
theorem user_patch_tracked :
    [0x20, 0] ∉ [[0x10, 0x00], [0x10, 0x01], [0x10, 0x02]] ∧ compOff.state.isReady = true ∧
      ¬ Unchanged compOff (compOff.processDataFromUnit addressMap 1 [0x20, 0, 0x12, 0] [1]).1 := by
  refine ⟨by decide, compOff_ready, fun h => ?_⟩
  have hcomp : (compOff.processDataFromUnit addressMap 1 [0x20, 0, 0x12, 0] [1]).1.state.switch "comp" "" =
      some (some (.str "ON")) := by decide +kernel
  rw [PatchState.switch, PatchState.block, h.blocks "comp"] at hcomp
  exact absurd hcomp (by decide)

end Pygt1000
