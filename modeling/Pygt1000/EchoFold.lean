import Pygt1000.Landing
import Pygt1000.Lib.LastWrite

/-!
# Folding a sequence of echoes (`patch_state.py`, `apply`)

`applyAll` applies decoded values in order. `folded es fxType fx` is what block `fx` of `fxType`
holds after them, field by field the last write of `LastWrite`: the switch from the `SW` values
about the block, the name from the `TYPE` values, a slider from the other values of its label.
`echoes_fold` says that `applyAll` arrives there. One value changes one block of one type, so the
fields of all blocks can be followed separately (`apply_step`).
-/

namespace Pygt1000

open LastWrite PatchState

/-- A decoded value, and the time it is applied at. -/
abbrev Echo := Nat × DecodedValue

/-- `apply` on one value after the other, with what each call returned. -/
def applyAll (s : PatchState) : List Echo → Except PyErr (PatchState × List ApplyResult)
  | [] => .ok (s, [])
  | e :: es => do
    let (s, result) ← s.apply e.1 e.2
    let (s, results) ← applyAll s es
    return (s, result :: results)

/-! ## What each value writes -/

/-- The value is about the block of that type and id. -/
def About (fxType fxId : String) (d : DecodedValue) : Prop := d.fxType = some fxType ∧ idStr d.fxId = fxId

instance (fxType fxId : String) (d : DecodedValue) : Decidable (About fxType fxId d) :=
  inferInstanceAs (Decidable (_ ∧ _))

def writesState (fxType fxId : String) (e : Echo) : Option (Option StrOrInt) :=
  if About fxType fxId e.2 ∧ e.2.valueName = "SW" then some (e.2.strValue.map .str) else none

def writesName (fxType fxId : String) (e : Echo) : Option (Option StrOrInt) :=
  if About fxType fxId e.2 ∧ e.2.valueName = "TYPE" then some (e.2.strValue.map .str) else none

def writesSlider (fxType fxId label : String) (e : Echo) : Option (Option StrOrInt) :=
  if About fxType fxId e.2 ∧ e.2.valueName ≠ "SW" ∧ e.2.valueName ≠ "TYPE" ∧ e.2.valueName = label then
    some (some (.int e.2.intValue))
  else none

/-- A slider after the values; label and bounds stay. -/
def foldedSlider (es : List Echo) (fxType fxId : String) (slider : Option SliderValue) :
    Option SliderValue :=
  slider.map fun v => { v with value := register (writesSlider fxType fxId v.label) v.value es }

/-- A block of `fxType` after the values. -/
def folded (es : List Echo) (fxType : String) (fx : FxBlock) : FxBlock where
  fxId := fx.fxId
  state := register (writesState fxType fx.fxId.toStr) fx.state es
  name := register (writesName fxType fx.fxId.toStr) fx.name es
  slider1 := foldedSlider es fxType fx.fxId.toStr fx.slider1
  slider2 := foldedSlider es fxType fx.fxId.toStr fx.slider2

/-- What a call of `apply` returns: nothing else than whether the value lands on a field. -/
def outcome (s : PatchState) (e : Echo) : ApplyResult :=
  match e.2.fxType with
  | none => ⟨false, false⟩
  | some fxType =>
    match s.block fxType (idStr e.2.fxId) with
    | none => ⟨false, false⟩
    | some fx => blockResult e.2 fx

/-- The stamp a value leaves on a type. -/
def writesStamp (s : PatchState) (fxType : String) (e : Echo) : Option Nat :=
  if e.2.fxType = some fxType ∧ (outcome s e).matched = true then some e.1 else none

/-- The name a value leaves for an id; only a recorded fx block gets one. -/
def writesFxName (s : PatchState) (fxId : String) (e : Echo) : Option (Option StrOrInt) :=
  if s.block "fx" fxId = none then none else writesName "fx" fxId e

section

variable {es : List Echo} {e : Echo} {fxType fxId : String} {fx : FxBlock}

theorem folded_nil (fxType : String) (fx : FxBlock) : folded [] fxType fx = fx := by
  obtain ⟨fxId, state, name, slider1, slider2⟩ := fx
  cases slider1 <;> cases slider2 <;> rfl

theorem foldedSlider_concat_self (slider : Option SliderValue)
    (h : ∀ v, slider = some v → writesSlider fxType fxId v.label e = none) :
    foldedSlider (es ++ [e]) fxType fxId slider = foldedSlider es fxType fxId slider := by
  cases slider with
  | none => rfl
  | some v => simp [foldedSlider, register_concat, h v rfl]

theorem foldedSlider_concat_echo (slider : Option SliderValue) (ha : About fxType fxId e.2)
    (hsw : e.2.valueName ≠ "SW") (htype : e.2.valueName ≠ "TYPE") :
    foldedSlider (es ++ [e]) fxType fxId slider =
      echoSlider e.2 (foldedSlider es fxType fxId slider) := by
  cases slider with
  | none => rfl
  | some v =>
    by_cases hl : v.label = e.2.valueName
    · simp [foldedSlider, echoSlider, register_concat, writesSlider, ha, hsw, htype, hl]
    · simp [foldedSlider, echoSlider, register_concat, writesSlider, hl, Ne.symm hl]

/-- One value more changes the block it is about, as `apply` does. -/
theorem folded_concat (es : List Echo) (e : Echo) (fxType : String) (fx : FxBlock) :
    folded (es ++ [e]) fxType fx =
      if About fxType fx.fxId.toStr e.2 then applyBlock e.2 (folded es fxType fx)
      else folded es fxType fx := by
  split
  · next ha =>
    by_cases hsw : e.2.valueName = "SW"
    · have hslider : ∀ label, writesSlider fxType fx.fxId.toStr label e = none := by
        simp [writesSlider, hsw]
      simp [folded, applyBlock, register_concat, writesState, writesName, ha, hsw,
        foldedSlider_concat_self _ fun v _ => hslider v.label]
    by_cases htype : e.2.valueName = "TYPE"
    · have hslider : ∀ label, writesSlider fxType fx.fxId.toStr label e = none := by
        simp [writesSlider, htype]
      simp [folded, applyBlock, register_concat, writesState, writesName, ha, htype,
        foldedSlider_concat_self _ fun v _ => hslider v.label]
    · simp [folded, applyBlock, register_concat, writesState, writesName, hsw, htype,
        foldedSlider_concat_echo _ ha hsw htype]
  · next ha =>
    have hslider : ∀ label, writesSlider fxType fx.fxId.toStr label e = none := by
      simp [writesSlider, ha]
    simp [folded, register_concat, writesState, writesName, ha,
      foldedSlider_concat_self _ fun v _ => hslider v.label]

/-- The values leave the labels alone, and with them the fields a block has. -/
theorem blockResult_folded (es : List Echo) (d : DecodedValue) (fxType : String) (fx : FxBlock) :
    blockResult d (folded es fxType fx) = blockResult d fx := by
  have hslider (slider : Option SliderValue) :
      sliderMatches d (foldedSlider es fxType fx.fxId.toStr slider) = sliderMatches d slider := by
    cases slider <;> rfl
  simp [blockResult, folded, hslider]

end

/-! ## One value -/

/-- The ids of a type's blocks tell them apart. -/
def DistinctIds (s : PatchState) : Prop :=
  ∀ t entries, s.blocks.lookup t = some entries → (entries.map fun fx => fx.fxId.toStr).Nodup

section

variable {s : PatchState} {e : Echo} {t : String}

/-- With distinct ids, changing the block of an id is changing every block that has it. -/
theorem map_split {id : String} {f : FxBlock → FxBlock} {pre post : List FxBlock} {fx : FxBlock}
    (hnodup : ((pre ++ fx :: post).map fun x => x.fxId.toStr).Nodup) (hid : fx.fxId.toStr = id) :
    (pre ++ fx :: post).map (fun x => if x.fxId.toStr = id then f x else x) = pre ++ f fx :: post := by
  rw [List.map_append, List.map_cons, List.nodup_middle, List.nodup_cons, ← List.map_append] at hnodup
  have hother : ∀ x ∈ pre ++ post, (if x.fxId.toStr = id then f x else x) = x := by
    intro x hx
    refine if_neg fun hxid => hnodup.1 ?_
    rw [hid, ← hxid]
    exact List.mem_map_of_mem hx
  rw [List.map_append, List.map_cons, if_pos hid,
    List.map_congr_left fun x hx => hother x (List.mem_append_left post hx),
    List.map_congr_left fun x hx => hother x (List.mem_append_right pre hx)]
  simp

theorem isReady_of_lookups {s' : PatchState} (ht : s'.fxTypes = s.fxTypes)
    (h : ∀ u, (s'.blocks.lookup u).isSome = (s.blocks.lookup u).isSome) : s'.isReady = s.isReady := by
  have hperm : s'.blocks.keys.Perm s.blocks.keys :=
    (List.perm_ext_iff_of_nodup s'.blocks.keys_nodup s.blocks.keys_nodup).2 fun u => by
      rw [← AList.mem_keys, ← AList.mem_keys, ← AList.lookup_isSome, ← AList.lookup_isSome, h u]
  rw [PatchState.isReady, PatchState.isReady, hperm.length_eq, ht]

/-- `s'` is `s` with the writes of one value: the block it is about, its name if it chose an effect
of an fx block, and the stamp of its type if it landed on a field. -/
structure Written (s : PatchState) (e : Echo) (s' : PatchState) : Prop where
  types : s'.fxTypes = s.fxTypes
  blocks : ∀ u, s'.blocks.lookup u = (s.blocks.lookup u).map (List.map fun fx =>
    if About u fx.fxId.toStr e.2 then applyBlock e.2 fx else fx)
  names : ∀ id, s'.fxNames.lookup id = (writesFxName s id e).or (s.fxNames.lookup id)
  stamps : ∀ u, s'.lastSyncTs.lookup u = (writesStamp s u e).or (s.lastSyncTs.lookup u)

/-- A value about no recorded block writes nothing. -/
theorem written_nothing (ht : e.2.fxType = some t) (hnone : s.block t (idStr e.2.fxId) = none) :
    Written s e s := by
  have hout : outcome s e = ⟨false, false⟩ := by simp only [outcome, ht, hnone]
  refine ⟨rfl, fun u => ?_, fun id => ?_, fun u => ?_⟩
  · cases hl : s.blocks.lookup u with
    | none => rfl
    | some entries =>
      have hsame : ∀ fx ∈ entries, (if About u fx.fxId.toStr e.2 then applyBlock e.2 fx else fx) = fx := by
        refine fun fx hfx => if_neg fun ha => ?_
        obtain rfl : u = t := Option.some.inj (ha.1.symm.trans ht)
        rw [PatchState.block, hl, Option.bind_some, List.find?_eq_none] at hnone
        exact hnone fx hfx (by simp [ha.2])
      rw [Option.map_some, List.map_congr_left hsame, List.map_id']
  · unfold writesFxName
    split
    · rfl
    · next hsome =>
      have hno : writesName "fx" id e = none := by
        refine if_neg fun h => hsome ?_
        obtain rfl : "fx" = t := Option.some.inj (h.1.1.symm.trans ht)
        rw [← h.1.2, hnone]
      rw [hno, Option.none_or]
  · rw [writesStamp, hout, if_neg fun h => Bool.false_ne_true h.2, Option.none_or]

/-- A value about a recorded block is folded into it. -/
theorem written_fold {pre post : List FxBlock} {fx : FxBlock} (hd : DistinctIds s)
    (ht : e.2.fxType = some t) (hl : s.blocks.lookup t = some (pre ++ fx :: post))
    (hid : fx.fxId.toStr = idStr e.2.fxId) (hblock : s.block t (idStr e.2.fxId) = some fx) :
    Written s e (s.fold e.1 e.2 t fx (pre ++ applyBlock e.2 fx :: post)) := by
  have hout : outcome s e = blockResult e.2 fx := by simp only [outcome, ht, hblock]
  refine ⟨rfl, fun u => ?_, fun id => ?_, fun u => ?_⟩
  · by_cases hu : u = t
    · subst hu
      have habout : ∀ x : FxBlock, About u x.fxId.toStr e.2 ↔ x.fxId.toStr = idStr e.2.fxId :=
        fun x => ⟨fun h => h.2.symm, fun h => ⟨ht, h.symm⟩⟩
      simp only [fold_blocks, AList.lookup_insert, hl, Option.map_some, habout]
      rw [map_split (hd u _ hl) hid]
    · have hno : ∀ x : FxBlock, ¬ About u x.fxId.toStr e.2 :=
        fun x h => hu (Option.some.inj (h.1.symm.trans ht))
      simp only [fold_blocks, AList.lookup_insert_ne hu, hno, if_false, List.map_id_fun', Option.map_id_fun, id]
  · simp only [fold]
    by_cases hfx : t = "fx" ∧ e.2.valueName = "TYPE"
    · rw [if_pos hfx]
      obtain ⟨rfl, htype⟩ := hfx
      by_cases hi : id = idStr e.2.fxId
      · subst hi
        simp [writesFxName, hblock, writesName, About, ht, htype]
      · simp [writesFxName, writesName, About, AList.lookup_insert_ne hi, Ne.symm hi]
    · have hno : writesName "fx" id e = none :=
        if_neg fun h => hfx ⟨Option.some.inj (ht.symm.trans h.1.1), h.2⟩
      rw [if_neg hfx, writesFxName, hno, ite_self, Option.none_or]
  · simp only [fold, writesStamp, hout, ht, Option.some.injEq]
    by_cases hmatched : (blockResult e.2 fx).matched = true
    · by_cases hu : u = t
      · subst hu
        simp [hmatched]
      · simp [hmatched, AList.lookup_insert_ne hu, Ne.symm hu]
    · simp [hmatched]

/-- One value on a ready state. -/
theorem apply_step (hready : s.isReady = true) (hd : DistinctIds s) (ht : e.2.fxType = some t)
    (hk : t ∈ s.blocks.keys) : ∃ s', s.apply e.1 e.2 = .ok (s', outcome s e) ∧ Written s e s' := by
  obtain ⟨⟨s', r⟩, hr⟩ := apply_ok e.1 ht hk
  rcases apply_cases hr with ⟨rfl, rfl, hnone⟩ | ⟨t', pre, fx, post, -, ht', hl, hid, hpre, rfl, rfl⟩
  · have hnone := hnone hready t ht
    have hout : outcome s' e = ⟨false, false⟩ := by simp only [outcome, ht, hnone]
    exact ⟨s', by rw [hr, hout], written_nothing ht hnone⟩
  · have hblock : s.block t' (idStr e.2.fxId) = some fx := by
      rw [PatchState.block, hl]
      exact findBlock_split hid hpre
    have hout : outcome s e = blockResult e.2 fx := by simp only [outcome, ht', hblock]
    exact ⟨_, by rw [hr, hout], written_fold hd ht' hl hid hblock⟩

end

/-! ## All values -/

theorem applyAll_concat {s s' s'' : PatchState} {es : List Echo} {e : Echo} {rs : List ApplyResult}
    {r : ApplyResult} (h : applyAll s es = .ok (s', rs)) (he : s'.apply e.1 e.2 = .ok (s'', r)) :
    applyAll s (es ++ [e]) = .ok (s'', rs ++ [r]) := by
  induction es generalizing s rs with
  | nil =>
    cases h
    simp [applyAll, he]
  | cons e' es ih =>
    obtain ⟨⟨s1, r1⟩, h1, hrest⟩ := bind_eq_ok h
    obtain ⟨⟨s2, rs2⟩, h2, hret⟩ := bind_eq_ok hrest
    cases hret
    simp [applyAll, h1, ih h2]

/-- `s'` is `s` with the last writes of `es`. -/
structure FoldOf (s : PatchState) (es : List Echo) (s' : PatchState) : Prop where
  types : s'.fxTypes = s.fxTypes
  blocks : ∀ t, s'.blocks.lookup t = (s.blocks.lookup t).map (List.map (folded es t))
  names : ∀ id, s'.fxNames.lookup id = (last (writesFxName s id) es).or (s.fxNames.lookup id)
  stamps : ∀ t, s'.lastSyncTs.lookup t = (last (writesStamp s t) es).or (s.lastSyncTs.lookup t)

namespace FoldOf

variable {s s' : PatchState} {es : List Echo} {e : Echo}

theorem refl (s : PatchState) : FoldOf s [] s where
  types := rfl
  blocks t := by
    have hid : folded [] t = id := funext (folded_nil t)
    rw [hid, List.map_id_fun, Option.map_id]
    rfl
  names _ := rfl
  stamps _ := rfl

variable (h : FoldOf s es s')
include h

theorem isReady_eq : s'.isReady = s.isReady :=
  isReady_of_lookups h.types fun u => by rw [h.blocks u, Option.isSome_map]

theorem mem_keys {t : String} : t ∈ s'.blocks.keys ↔ t ∈ s.blocks.keys := by
  rw [← AList.mem_keys, ← AList.mem_keys, ← AList.lookup_isSome, ← AList.lookup_isSome, h.blocks t,
    Option.isSome_map]

theorem distinctIds (hd : DistinctIds s) : DistinctIds s' := by
  intro t entries hl
  rw [h.blocks t, Option.map_eq_some_iff] at hl
  obtain ⟨entries', hl', rfl⟩ := hl
  have hids := hd t entries' hl'
  rwa [List.map_map]

theorem block_eq (t id : String) : s'.block t id = (s.block t id).map (folded es t) := by
  rw [PatchState.block, PatchState.block, h.blocks t]
  cases s.blocks.lookup t with
  | none => rfl
  | some entries => exact List.find?_map ..

theorem outcome_eq (e : Echo) : outcome s' e = outcome s e := by
  unfold outcome
  cases e.2.fxType with
  | none => rfl
  | some t =>
    simp only [h.block_eq]
    cases s.block t (idStr e.2.fxId) with
    | none => rfl
    | some fx => exact blockResult_folded es e.2 t fx

/-- One value more. -/
theorem concat (hready : s.isReady = true) (hd : DistinctIds s) {t : String}
    (ht : e.2.fxType = some t) (hk : t ∈ s.blocks.keys) :
    ∃ s'', s'.apply e.1 e.2 = .ok (s'', outcome s e) ∧ FoldOf s (es ++ [e]) s'' := by
  obtain ⟨s'', hs'', hw⟩ :=
    apply_step (h.isReady_eq.trans hready) (h.distinctIds hd) ht (h.mem_keys.2 hk)
  rw [h.outcome_eq] at hs''
  refine ⟨s'', hs'', hw.types.trans h.types, fun u => ?_, fun id => ?_, fun u => ?_⟩
  · rw [hw.blocks, h.blocks, Option.map_map]
    congr 1
    funext entries
    rw [Function.comp_apply, List.map_map]
    exact List.map_congr_left fun fx _ => (folded_concat es e u fx).symm
  · have hname : writesFxName s' id e = writesFxName s id e := by
      simp only [writesFxName, h.block_eq, Option.map_eq_none_iff]
    rw [hw.names, h.names, last_concat, ← Option.or_assoc, hname]
  · have hstamp : writesStamp s' u e = writesStamp s u e := by
      simp only [writesStamp, h.outcome_eq]
    rw [hw.stamps, h.stamps, last_concat, ← Option.or_assoc, hstamp]

end FoldOf

/-- Every value of known types is applied, and the state holds the last writes. -/
theorem applyAll_fold {s : PatchState} (hready : s.isReady = true) (hd : DistinctIds s)
    {es : List Echo} (hk : ∀ e ∈ es, ∃ t ∈ s.blocks.keys, e.2.fxType = some t) :
    ∃ s', applyAll s es = .ok (s', es.map (outcome s)) ∧ FoldOf s es s' := by
  induction es using List.reverseRecOn with
  | nil => exact ⟨s, rfl, .refl s⟩
  | append_singleton es e ih =>
    obtain ⟨s', hs', hfold⟩ := ih fun e' he' => hk e' (List.mem_append_left [e] he')
    obtain ⟨t, hkt, ht⟩ := hk e (by simp)
    obtain ⟨s'', hs'', hfold'⟩ := hfold.concat hready hd ht hkt
    exact ⟨s'', by rw [applyAll_concat hs' hs'', List.map_append, List.map_singleton], hfold'⟩

/-- **Echo folding is last writer wins, field by field**: after any sequence of values of known
fx types (those the state holds; of a ready one all, `PatchDict.isReady_run_iff`), on a ready
state whose blocks have distinct ids, every block is `folded`; the resolved name of a recorded fx
block is the last effect chosen for it, and no other name moves; and the stamp of a type moves
only by a value of the type that matched. -/
theorem echoes_fold {s : PatchState} (hready : s.isReady = true) (hd : DistinctIds s)
    {es : List Echo} (hk : ∀ e ∈ es, ∃ t ∈ s.blocks.keys, e.2.fxType = some t) :
    ∃ s', applyAll s es = .ok (s', es.map (outcome s)) ∧
      (∀ t, s'.blocks.lookup t = (s.blocks.lookup t).map (List.map (folded es t))) ∧
      (∀ id, s.block "fx" id ≠ none →
        s'.fxNames.lookup id = (last (writesName "fx" id) es).or (s.fxNames.lookup id)) ∧
      (∀ id, s.block "fx" id = none → s'.fxNames.lookup id = s.fxNames.lookup id) ∧
      (∀ t, s'.lastSyncTs.lookup t ≠ s.lastSyncTs.lookup t →
        ∃ e ∈ es, e.2.fxType = some t ∧ (outcome s e).matched = true) := by
  obtain ⟨s', hs', hfold⟩ := applyAll_fold hready hd hk
  refine ⟨s', hs', hfold.blocks, fun id hid => ?_, fun id hid => ?_, fun t ht => ?_⟩
  · have hw : writesFxName s id = writesName "fx" id := funext fun e => if_neg hid
    rw [hfold.names, hw]
  · have hnone : last (writesFxName s id) es = none := by
      cases hl : last (writesFxName s id) es with
      | none => rfl
      | some name =>
        obtain ⟨e, -, he⟩ := exists_of_last hl
        rw [writesFxName, if_pos hid] at he
        cases he
    rw [hfold.names, hnone, Option.none_or]
  · cases hl : last (writesStamp s t) es with
    | none => exact absurd (by rw [hfold.stamps, hl, Option.none_or]) ht
    | some ts =>
      obtain ⟨e, he, hw⟩ := exists_of_last hl
      unfold writesStamp at hw
      split at hw
      · next h => exact ⟨e, he, h.1, h.2⟩
      · cases hw

/-- Two fx blocks; both sliders of the first show one parameter. -/
def twoFx : PatchState :=
  (PatchState.fresh ["fx"]).recordScan "fx"
    [⟨.int 1, some (.str "OFF"), some (.str "CHORUS"), some ⟨some (.int 5), "RATE", 0, 100⟩,
      some ⟨none, "RATE", 0, 100⟩⟩, ⟨.int 2, some (.str "OFF"), none, none, none⟩] 0

/-- A value of setting `valueName` of fx block `fxId`. -/
def fxValue (fxId valueName : String) (strValue : Option String) (intValue : Nat) : DecodedValue :=
  ⟨AddressMap.patchSection, "Patch", "fx" ++ fxId, "PatchFx", valueName, strValue, intValue, some "fx",
    some fxId, none, none⟩

/-- A switch, an effect, a slider, and the switch again. -/
def someEchoes : List Echo :=
  [(1, fxValue "1" "SW" (some "ON") 1), (2, fxValue "2" "TYPE" (some "PHASER") 9),
    (3, fxValue "1" "RATE" none 42), (4, fxValue "1" "SW" (some "OFF") 0)]

theorem distinctIds_twoFx : DistinctIds twoFx := by
  intro t entries hl
  by_cases ht : t = "fx"
  · subst ht
    rw [twoFx, recordScan_blocks, AList.lookup_insert] at hl
    cases hl
    decide
  · rw [twoFx, recordScan_blocks, AList.lookup_insert_ne ht] at hl
    cases hl

theorem echoes_fold_twoFx :
    ∃ s', applyAll twoFx someEchoes = .ok (s', someEchoes.map (outcome twoFx)) ∧
      (∀ t, s'.blocks.lookup t = (twoFx.blocks.lookup t).map (List.map (folded someEchoes t))) ∧
      (∀ id, twoFx.block "fx" id ≠ none →
        s'.fxNames.lookup id = (last (writesName "fx" id) someEchoes).or (twoFx.fxNames.lookup id)) ∧
      (∀ id, twoFx.block "fx" id = none → s'.fxNames.lookup id = twoFx.fxNames.lookup id) ∧
      (∀ t, s'.lastSyncTs.lookup t ≠ twoFx.lastSyncTs.lookup t →
        ∃ e ∈ someEchoes, e.2.fxType = some t ∧ (outcome twoFx e).matched = true) :=
  echoes_fold (by decide) distinctIds_twoFx (by decide)

end Pygt1000
