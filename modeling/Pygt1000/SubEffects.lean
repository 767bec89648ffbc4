import Pygt1000.Landing

/-!
# Frames at the effects of an fx block (`patch_state.py:205-217`)

Every fx block has a table for each effect that can be loaded in it, and `decode` says of a frame at
one of these tables which effect it belongs to (`fx_name`). `apply` does not look at that: it goes by
the block and by the name of the parameter. As most tables have a `LEVEL`, an `EFFECT LEVEL` or a
`DIRECT MIX`, a frame about an effect that is not loaded moves the sliders of the one that is.
`loaded_effect_moves_iff` says exactly which frames do not.
-/

namespace Pygt1000

open Specs PatchState

/-- The address is one of a table of an effect of fx block `n`. -/
structure AtEffect (m : AddressMap) (offset : List Nat) (n suffix : String) (l : Located) : Prop where
  located : m.locate offset = some l
  effect : fxOf m.fxTypes l.name = .ok (some "fx", some n, some suffix)

/-- The sliders recorded for fx block `n`. -/
def fxSliders (s : PatchState) (n : String) : Option (Option SliderValue × Option SliderValue) :=
  (s.block "fx" n).map fun fx => (fx.slider1, fx.slider2)

/-- The effect of the table is the one recorded for fx block `n`. -/
def IsLoaded (s : PatchState) (n suffix : String) : Prop :=
  ∃ fx l, s.block "fx" n = some fx ∧ tableSuffixToName.lookup suffix = some l ∧ fx.name = some (.str l)

/-- No slider of the block would change: none bears the parameter's name, or it shows that value. -/
def Settled (valueName : String) (raw : Nat) (fx : FxBlock) : Prop :=
  valueName = "SW" ∨ valueName = "TYPE" ∨
    ∀ v, fx.slider1 = some v ∨ fx.slider2 = some v → v.label = valueName → v.value = some (.int raw)

theorem sliders_applyBlock_iff {d : DecodedValue} {fx : FxBlock} :
    ((applyBlock d fx).slider1, (applyBlock d fx).slider2) = (fx.slider1, fx.slider2) ↔
      Settled d.valueName d.intValue fx := by
  unfold applyBlock Settled
  split
  · next hsw => simp [hsw]
  split
  · next htype => simp [htype]
  · next hsw htype =>
    simp only [Prod.mk.injEq, echoSlider_eq_self_iff, hsw, htype, false_or, or_imp, forall_and]

section

variable {m : AddressMap} {offset data : List Nat} {n suffix : String} {l : Located}

theorem AtEffect.ne_programChange (hm : Loaded m) (h : AtEffect m offset n suffix l) :
    offset ≠ programChangeOffset := by
  rintro rfl
  have hnone : addressMap.locate programChangeOffset = none := by decide
  have hlocated := h.located
  rw [hm.locate_eq, hnone] at hlocated
  cases hlocated

/-- A frame there decodes to the fx block, unless its data is too short. -/
theorem AtEffect.decode_eq (h : AtEffect m offset n suffix l) {raw : Nat}
    (hraw : rawInt l.entry (.list data) = .ok raw) :
    ∃ d, m.decode offset (.list data) = .ok (some d) ∧ d.fxType = some "fx" ∧ d.fxId = some n ∧
      d.valueName = l.valueName ∧ d.intValue = raw ∧
      d.fxName = tableSuffixToName.lookup suffix := by
  have hd : ∃ d, m.decodeAt l (.list data) = .ok d ∧ d.fxType = some "fx" ∧ d.fxId = some n ∧
      d.valueName = l.valueName ∧ d.intValue = raw ∧ d.fxName = tableSuffixToName.lookup suffix :=
    ⟨_, by simp only [AddressMap.decodeAt, hraw, h.effect, ok_bind]; rfl, rfl, rfl, rfl, rfl, rfl⟩
  obtain ⟨d, hd, hfields⟩ := hd
  exact ⟨d, by simp only [AddressMap.decode, h.located, hd, map_ok], hfields⟩

/-- What a frame there does to the sliders of the block. -/
theorem AtEffect.sliders_eq (hm : Loaded m) (h : AtEffect m offset n suffix l) {g : Gt1000}
    (hready : g.state.isReady = true) (now : Nat) {raw : Nat}
    (hraw : rawInt l.entry (.list data) = .ok raw) :
    fxSliders (g.processDataFromUnit m now offset data).1.state n = fxSliders g.state n ↔
      ∀ fx, g.state.block "fx" n = some fx → Settled l.valueName raw fx := by
  obtain ⟨d, hd, htype, hid, hvalueName, hint, -⟩ := h.decode_eq hraw
  have hblock := Gt1000.block_processDataFromUnit hready (h.ne_programChange hm) hd htype now
  rw [hid, idStr] at hblock
  rw [fxSliders, fxSliders, hblock, ← hvalueName, ← hint]
  cases g.state.block "fx" n with
  | none => simp
  | some fx => simpa using sliders_applyBlock_iff

end

/-- **Which frames leave a block's sliders to the loaded effect**: a frame at a table of an effect
of fx block `n` moves them only if that effect is the loaded one, if and only if it is, or no slider
bears the parameter's name and shows another value. -/
theorem loaded_effect_moves_iff {m : AddressMap} (hm : Loaded m) {g : Gt1000}
    (hready : g.state.isReady = true) {offset : List Nat} {n suffix : String} {l : Located}
    (hat : AtEffect m offset n suffix l) (data : List Nat) (now : Nat) :
    (fxSliders (g.processDataFromUnit m now offset data).1.state n ≠ fxSliders g.state n →
        IsLoaded g.state n suffix) ↔
      IsLoaded g.state n suffix ∨
        ∀ raw, rawInt l.entry (.list data) = .ok raw →
          ∀ fx, g.state.block "fx" n = some fx → Settled l.valueName raw fx := by
  cases hraw : rawInt l.entry (.list data) with
  | error e =>
    have hsame : (g.processDataFromUnit m now offset data).1 = g := by
      have hd : m.decode offset (.list data) = .error e := by
        simp only [AddressMap.decode, hat.located, AddressMap.decodeAt, hraw]
        rfl
      simp only [Gt1000.processDataFromUnit, if_neg (hat.ne_programChange hm), hd]
    refine iff_of_true (fun hne => absurd (by rw [hsame]) hne) (Or.inr fun raw h => ?_)
    cases h
  | ok raw =>
    simp only [Except.ok.injEq, forall_eq', ← hat.sliders_eq hm hready now hraw]
    constructor
    · intro h
      by_cases hsame : fxSliders (g.processDataFromUnit m now offset data).1.state n = fxSliders g.state n
      · exact Or.inr hsame
      · exact Or.inl (h hsame)
    · rintro (hloaded | hsame) hne
      · exact hloaded
      · exact absurd hsame hne

/-- Every type scanned; fx 1 has the compressor, at LEVEL 50. -/
def fx1Comp : Gt1000 :=
  ⟨((PatchState.fresh fxTypes).run emptyScans).recordScan "fx" [⟨.int 1, some (.str "ON"),
      some (.str "COMPRESSOR"), some ⟨some (.int 50), "LEVEL", 0, 100⟩,
      some ⟨some (.int 0), "DIRECT MIX", 0, 100⟩⟩] 0, []⟩

theorem fx1Comp_ready : fx1Comp.state.isReady = true := by decide

/-- LEVEL of the compressor in fx 1. -/
theorem loaded_effect_moves_comp :
    (fxSliders (fx1Comp.processDataFromUnit addressMap 1 [0x10, 0, 0x29, 3] [70]).1.state "1" ≠
        fxSliders fx1Comp.state "1" → IsLoaded fx1Comp.state "1" "Comp") ↔
      IsLoaded fx1Comp.state "1" "Comp" ∨
        ∀ raw, rawInt ⟨[0, 3], [0, 100], 1, []⟩ (.list [70]) = .ok raw →
          ∀ fx, fx1Comp.state.block "fx" "1" = some fx → Settled "LEVEL" raw fx :=
  have hat : AtEffect addressMap [0x10, 0, 0x29, 3] "1" "Comp"
      ⟨AddressMap.patchSection, "Patch", "fx1Comp", "PatchFxComp", "LEVEL", ⟨[0, 3], [0, 100], 1, []⟩⟩ :=
    ⟨by decide, by decide⟩
  loaded_effect_moves_iff (Or.inl rfl) fx1Comp_ready hat [70] 1

/-- LEVEL of the acoustic guitar simulator, which is not loaded, sets the LEVEL slider of the
compressor, which is. -/
theorem other_effect_moves :
    (addressMap.decode [0x10, 0, 0x24, 3] (.list [70])).map
        (Option.map fun d => (d.fxType, d.fxId, d.fxName)) =
      .ok (some (some "fx", some "1", some "AC GUITAR SIM")) ∧
    (fx1Comp.state.block "fx" "1").map (·.name) = some (some (.str "COMPRESSOR")) ∧
    fxSliders fx1Comp.state "1" = some (some ⟨some (.int 50), "LEVEL", 0, 100⟩,
      some ⟨some (.int 0), "DIRECT MIX", 0, 100⟩) ∧
    fxSliders (fx1Comp.processDataFromUnit addressMap 1 [0x10, 0, 0x24, 3] [70]).1.state "1" =
      some (some ⟨some (.int 70), "LEVEL", 0, 100⟩, some ⟨some (.int 0), "DIRECT MIX", 0, 100⟩) := by
  decide

end Pygt1000
