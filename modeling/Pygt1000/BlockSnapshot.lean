import Pygt1000.BlockReader

/-!
# Reading a block's whole state (`block_snapshot.py`)

| here | there |
| --- | --- |
| `nonFxSliderParams`, `fxNameSliderParams` | `NON_FX_SLIDER_PARAMS`, `FX_NAME_SLIDER_PARAMS` (`block_snapshot.py:44-93`) |
| `blockName`, `snapshot`, `snapshotAll` | `snapshot`, `snapshot_all` (`:110-143`) |
| `snapshotOne`                          | `snapshot_one` (`:145-154`) |
| `slidersFor`, `resolve`, `valueRange` | `sliders_for`, `_resolve`, `_value_range` (`:160-206`) |

Reading an fx block records its effect name, so `snapshot` returns the state it leaves.
-/

namespace Pygt1000.BlockSnapshot

/-- Which two parameters a block shows as its sliders (`:44-54`); `eq` is in `slidersFor`. -/
def nonFxSliderParams : List (String × Option String × Option String) := [
  ("comp", some "SUSTAIN", some "LEVEL"),
  ("dist", some "DRIVE", some "LEVEL"),
  ("preamp", some "GAIN", some "LEVEL"),
  ("ns", some "THRESHOLD", some "RELEASE"),
  ("delay", some "EFFECT LEVEL", some "DIRECT LEVEL"),
  ("mstDelay", some "EFFECT LEVEL", some "DIRECT LEVEL"),
  ("chorus", some "EFFECT LEVEL", some "DIRECT LEVEL"),
  ("reverb", some "EFFECT LEVEL", some "DIRECT LEVEL"),
  ("pedalFx", some "EFFECT LEVEL", some "DIRECT MIX")]

/-- The same for an fx block, by the name of its effect (`:58-93`). -/
def fxNameSliderParams : List (String × Option String × Option String) := [
  ("AC GUITAR SIM", some "LEVEL", none),
  ("AC RESONANCE", some "LEVEL", none),
  ("AUTO WAH", some "EFFECT LEVEL", some "DIRECT MIX"),
  ("CHORUS", some "EFFECT LEVEL", some "DIRECT LEVEL"),
  ("CHORUS BASS", some "EFFECT LEVEL", some "DEPTH"),
  ("CLASSIC-VIBE", some "EFFECT LEVEL", some "DEPTH"),
  ("COMPRESSOR", some "LEVEL", some "DIRECT MIX"),
  ("DEFRETTER", some "EFFECT LEVEL", some "DEPTH"),
  ("DEFRETTER BASS", some "EFFECT LEVEL", some "DIRECT MIX"),
  ("DISTORTION", some "DRIVE", some "LEVEL"),
  ("FEEDBACKER", some "FEEDBACK", some "OCT FEEDBACK"),
  ("FLANGER", some "EFFECT LEVEL", some "DIRECT MIX"),
  ("FLANGER BASS", some "EFFECT LEVEL", some "DIRECT MIX"),
  ("HARMONIST", some "HR1:LEVEL", some "DIRECT LEVEL"),
  ("HUMANIZER", some "LEVEL", some "DEPTH"),
  ("MASTERING FX", some "TONE", some "NATURAL"),
  ("OCTAVE", some "OCTAVE LEVEL", some "DIRECT LEVEL"),
  ("OCTAVE BASS", none, none),
  ("OVERTONE", some "UPPER LEVEL", some "DIRECT LEVEL"),
  ("PAN", some "EFFECT LEVEL", some "DIRECT MIX"),
  ("PHASER", some "EFFECT LEVEL", some "DIRECT MIX"),
  ("PITCH SHIFTER", some "PS1:LEVEL", some "DIRECT LEVEL"),
  ("RING MOD", some "EFFECT LEVEL", some "DIRECT MIX"),
  ("ROTARY", some "EFFECT LEVEL", some "DIRECT MIX"),
  ("S-BEND", some "FALL TIME", some "RISE TIME"),
  ("SITAR SIM", some "EFFECT LEVEL", some "DIRECT MIX"),
  ("SLICER", some "EFFECT LEVEL", some "DIRECT MIX"),
  ("SLOW GEAR", some "LEVEL", some "SENS"),
  ("SLOW GEAR BASS", some "LEVEL", some "SENS"),
  ("SOUND HOLD", some "EFFECT LEVEL", some "RISE TIME"),
  ("TOUCH WAH", some "EFFECT LEVEL", some "DIRECT MIX"),
  ("TOUCH WAH BASS", none, none),
  ("TREMOLO", some "EFFECT LEVEL", some "DIRECT MIX"),
  ("VIBRATO", some "EFFECT LEVEL", some "DIRECT MIX")]

variable (m : AddressMap) (fetch : Fetch)

/-! ## Sliders -/

/-- `_value_range` (`:198-206`). -/
def valueRange (s : PatchState) (fxType : String) (fxId : StrOrInt) (option : String) :
    Except PyErr (Option (List Nat)) :=
  if fxType = "fx" then do
    let name ← subscript (← s.fxName fxId)
    let suffix ← AddressMap.tableSuffix name
    m.valueRange (AddressMap.fxStartSection fxId suffix) (fxType ++ fxId.toStr ++ suffix) option
  else
    m.valueRange (AddressMap.startSection fxType (.str fxId.toStr)) (fxType ++ fxId.toStr) option

/-- `SliderValue(..)` with `value_range[0]` and `value_range[1]` (`:191-196`). -/
def slider (value : Option StrOrInt) (label : String) : Option (List Nat) → Except PyErr SliderValue
  | some (lo :: hi :: _) => .ok ⟨value, label, lo, hi⟩
  | some _ => .error .indexError
  | none => .error .typeError

/-- `_resolve` (`:180-196`). -/
def resolve (s : PatchState) (fxType : String) (fxId : StrOrInt) :
    Option String → Except PyErr (Option SliderValue)
  | none => .ok none
  | some option => do
    let range ← valueRange m s fxType fxId option
    let value ← BlockReader.readValue m fetch s fxType fxId option
    if fxType = "fx" ∧ value = none then return none
    else return some (← slider value option range)

/-- The two parameters (`:168-173`); a raw byte names no effect. -/
def sliderParams (s : PatchState) (fxType : String) (fxId : StrOrInt) :
    Except PyErr (Option String × Option String) := do
  if fxType = "fx" then
    match ← s.fxName fxId with
    | some (.str name) => return (fxNameSliderParams.lookup name).getD (none, none)
    | _ => return (none, none)
  else return (nonFxSliderParams.lookup fxType).getD (none, none)

/-- `sliders_for` (`:160-178`). -/
def slidersFor (s : PatchState) (fxType : String) (fxId : StrOrInt) (paramName : Option StrOrInt) :
    Except PyErr (Option SliderValue × Option SliderValue) := do
  if fxType = "eq" then
    let param := if paramName = some (.str "PARAMETRIC") then "LEVEL1" else "LEVEL"
    return (← resolve m fetch s fxType fxId (some param), none)
  else
    let (param1, param2) ← sliderParams s fxType fxId
    let slider1 ← resolve m fetch s fxType fxId param1
    let slider2 ← resolve m fetch s fxType fxId param2
    return (slider1, slider2)

/-! ## Blocks -/

/-- The name of a block (`:119-123`): `ns` and `delay` have no TYPE field. -/
def blockName (fxType : String) (fxId : StrOrInt) : Except PyErr (Option StrOrInt) :=
  if fxType = "ns" ∨ fxType = "delay" then .ok (some (.str (fxType ++ fxId.toStr)))
  else BlockReader.read m fetch fxType fxId "TYPE" false

/-- `snapshot` (`:110-135`). -/
def snapshot (s : PatchState) (fxType : String) (fxId : StrOrInt) (getSliders : Bool) :
    Except PyErr (PatchState × FxBlock) := do
  let state ← BlockReader.read m fetch fxType fxId "SW" false
  let name ← blockName m fetch fxType fxId
  let s := if fxType = "fx" then s.setFxName fxId name else s
  if getSliders then
    let (slider1, slider2) ← slidersFor m fetch s fxType fxId name
    return (s, { fxId, state, name, slider1, slider2 })
  else return (s, { fxId, state, name })

/-- The loop of `snapshot_all` over the block numbers that are left. -/
def snapshotFrom (fxType : String) : PatchState → List Nat → Except PyErr (PatchState × List FxBlock)
  | s, [] => .ok (s, [])
  | s, i :: is => do
    let (fxType', fxId) ← m.normalizeBlock fxType (.int (i + 1))
    let (s, fx) ← snapshot m fetch s fxType' fxId true
    let (s, out) ← snapshotFrom fxType s is
    return (s, fx :: out)

/-- `snapshot_all` (`:137-143`); `normalize_block` returns the fx type it was given. -/
def snapshotAll (s : PatchState) (fxType : String) : Except PyErr (PatchState × List FxBlock) := do
  let count ← m.fxBlockCount fxType
  snapshotFrom m fetch fxType s (List.range count)

/-- The loop of `snapshot_one` over the block numbers that are left. The comparison is Python's: a
`str` never equals an `int`. -/
def snapshotOneFrom (fxType : String) (fxId : StrOrInt) (getSliders : Bool) :
    PatchState → List Nat → Except PyErr (PatchState × Option FxBlock)
  | s, [] => .ok (s, none)
  | s, i :: is => do
    let (fxType', fxId') ← m.normalizeBlock fxType (.int (i + 1))
    if fxId = .str "" ∨ fxId = .int 0 ∨ fxId = fxId' then
      let (s, fx) ← snapshot m fetch s fxType' fxId' getSliders
      return (s, some fx)
    else snapshotOneFrom fxType fxId getSliders s is

/-- `snapshot_one` (`:145-154`). -/
def snapshotOne (s : PatchState) (fxType : String) (fxId : StrOrInt) (getSliders : Bool) :
    Except PyErr (PatchState × Option FxBlock) := do
  let count ← m.fxBlockCount fxType
  snapshotOneFrom m fetch fxType fxId getSliders s (List.range count)

/-! ## What a snapshot of a block is made of -/

section

variable {m fetch} {s s' : PatchState} {fxType : String} {fxId : StrOrInt} {fx : FxBlock}

/-- The state a snapshot leaves: an fx block's name is recorded. -/
def named (s : PatchState) (fxType : String) (fxId : StrOrInt) (name : Option StrOrInt) : PatchState :=
  if fxType = "fx" then s.setFxName fxId name else s

theorem named_blocks (name : Option StrOrInt) : (named s fxType fxId name).blocks = s.blocks := by
  unfold named
  split <;> rfl

theorem named_fxTypes (name : Option StrOrInt) : (named s fxType fxId name).fxTypes = s.fxTypes := by
  unfold named
  split <;> rfl

/-- A slider has its parameter's name, and the ends of its range. -/
theorem slider_eq_ok {value : Option StrOrInt} {label : String} {range : Option (List Nat)}
    {v : SliderValue} (h : slider value label range = .ok v) :
    v.label = label ∧ ∃ rest, range = some (v.min :: v.max :: rest) := by
  unfold slider at h
  split at h
  · next lo hi rest => cases h; exact ⟨rfl, rest, rfl⟩
  · cases h
  · cases h

/-- Two sliders of their own, for every fx type but `eq`. -/
theorem slidersFor_eq_resolve (hne : fxType ≠ "eq") {param1 param2 : Option String}
    (hparams : sliderParams s fxType fxId = .ok (param1, param2)) (name : Option StrOrInt) :
    slidersFor m fetch s fxType fxId name = do
      let slider1 ← resolve m fetch s fxType fxId param1
      let slider2 ← resolve m fetch s fxType fxId param2
      return (slider1, slider2) := by
  simp only [slidersFor, if_neg hne, hparams, ok_bind]

theorem snapshot_eq_ok (h : snapshot m fetch s fxType fxId true = .ok (s', fx)) :
    ∃ state name slider1 slider2, BlockReader.read m fetch fxType fxId "SW" false = .ok state ∧
      blockName m fetch fxType fxId = .ok name ∧ s' = named s fxType fxId name ∧
      slidersFor m fetch s' fxType fxId name = .ok (slider1, slider2) ∧
      fx = ⟨fxId, state, name, slider1, slider2⟩ := by
  obtain ⟨state, hstate, h⟩ := bind_eq_ok h
  obtain ⟨name, hname, h⟩ := bind_eq_ok h
  obtain ⟨⟨slider1, slider2⟩, hsliders, h⟩ := bind_eq_ok h
  cases h
  exact ⟨state, name, slider1, slider2, hstate, hname, rfl, hsliders, rfl⟩

theorem snapshot_ok {state name : Option StrOrInt} {slider1 slider2 : Option SliderValue}
    (hstate : BlockReader.read m fetch fxType fxId "SW" false = .ok state)
    (hname : blockName m fetch fxType fxId = .ok name)
    (hsliders : slidersFor m fetch (named s fxType fxId name) fxType fxId name =
      .ok (slider1, slider2)) :
    snapshot m fetch s fxType fxId true =
      .ok (named s fxType fxId name, ⟨fxId, state, name, slider1, slider2⟩) := by
  rw [named] at hsliders ⊢
  simp only [snapshot, hstate, hname, ok_bind, hsliders, if_true]
  rfl

theorem normalizeBlock_eq {count : Nat} (hc : m.fxBlockCount fxType = .ok count) (fxId : StrOrInt) :
    m.normalizeBlock fxType fxId = .ok (fxType, AddressMap.normalId count fxType fxId) := by
  simp only [AddressMap.normalizeBlock, hc, ok_bind, pure_eq_ok]

/-- The loop over the blocks of a type: the first one is read, then the others. -/
theorem snapshotFrom_cons {count i : Nat} {is : List Nat} {out : List FxBlock}
    (hc : m.fxBlockCount fxType = .ok count)
    (h : snapshotFrom m fetch fxType s (i :: is) = .ok (s', out)) :
    ∃ s1 fx rest,
      snapshot m fetch s fxType (AddressMap.normalId count fxType (.int (i + 1))) true = .ok (s1, fx) ∧
      snapshotFrom m fetch fxType s1 is = .ok (s', rest) ∧ out = fx :: rest := by
  simp only [snapshotFrom, normalizeBlock_eq hc, ok_bind] at h
  obtain ⟨⟨s1, fx⟩, hfx, h⟩ := bind_eq_ok h
  obtain ⟨⟨s2, rest⟩, hrest, h⟩ := bind_eq_ok h
  cases h
  exact ⟨s1, fx, rest, hfx, hrest, rfl⟩

end

end Pygt1000.BlockSnapshot
