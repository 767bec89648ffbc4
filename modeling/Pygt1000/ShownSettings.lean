import Pygt1000.ScanRace
import Pygt1000.SliderRefresh

/-!
# What is recorded of a block, setting by setting

Of a block the known state keeps the label of its switch, the label of its TYPE, and a value for each
of its two sliders. Here each of them is a setting of the block's own table, with the address it is
read from and announced at:

* `recordedValue`: what the state keeps of a setting, whichever field that is;
* `shownValue`: what a scan, or a frame, makes of the bytes of that setting;
* `recorded_frame`: a frame sets the one recorded value it is about, once the state is ready.

The sliders of the fx blocks and of `eq` are left out: which parameters they show depends on what is
loaded. So are the preamps, which are recorded under other ids than `decode` gives them.
-/

namespace Pygt1000

open Specs

/-! ## The settings -/

/-- A parameter that every block of the type shows as a slider. -/
def SliderSetting (fxType setting : String) : Prop :=
  ∃ sliders, BlockSnapshot.nonFxSliderParams.lookup fxType = some sliders ∧
    (sliders.1 = some setting ∨ sliders.2 = some setting)

/-- The settings that are recorded by their label. -/
def ByLabel (setting : String) : Prop := setting = "SW" ∨ setting = "TYPE"

instance (setting : String) : Decidable (ByLabel setting) := inferInstanceAs (Decidable (_ ∨ _))

structure Shown (m : AddressMap) (b : TopBlock) (setting : String) (e : Param) : Prop
    extends Switched m b where
  param : b.table.lookup setting = some e
  recorded : ByLabel setting ∨ SliderSetting b.fxType setting

def settingAddress (b : TopBlock) (e : Param) : List Nat := [0x10, b.second, b.third, e.offsetByte 1]

/-- The number the bytes of a setting make up. -/
def rawValue (e : Param) (data : List Nat) : Nat :=
  if 1 < e.bytes then unpackNibbles (data.take e.bytes) else data.headD 0

def shownValue (setting : String) (e : Param) (data : List Nat) : Option StrOrInt :=
  if ByLabel setting then (labelForRaw e.values (rawValue e data)).map .str
  else some (.int (rawValue e data))

/-- As many bytes as the setting has, and a value with a label where that is what is recorded. -/
structure Fits (setting : String) (e : Param) (data : List Nat) : Prop where
  length : data.length = e.bytes
  label : ByLabel setting → (labelForRaw e.values (rawValue e data)).isSome = true

/-- The value of the slider of that name. -/
def sliderValue (setting : String) (slider1 slider2 : Option SliderValue) : Option (Option StrOrInt) :=
  ((slider1.filter fun v => v.label = setting).or (slider2.filter fun v => v.label = setting)).map (·.value)

/-- What is recorded of a setting. -/
def recordedValue (setting : String) (fx : FxBlock) : Option (Option StrOrInt) :=
  if setting = "SW" then some fx.state
  else if setting = "TYPE" then some fx.name
  else sliderValue setting fx.slider1 fx.slider2

/-- What a decoded value has to say about its setting. -/
def saidValue (d : DecodedValue) : Option StrOrInt :=
  if ByLabel d.valueName then d.strValue.map .str else some (.int d.intValue)

theorem sliderSetting_first {fxType setting : String}
    (h : (BlockSnapshot.nonFxSliderParams.lookup fxType).bind (·.1) = some setting) : SliderSetting fxType setting := by
  obtain ⟨sliders, hl, h⟩ := Option.bind_eq_some_iff.1 h
  exact ⟨sliders, hl, Or.inl h⟩

theorem sliderSetting_second {fxType setting : String}
    (h : (BlockSnapshot.nonFxSliderParams.lookup fxType).bind (·.2) = some setting) : SliderSetting fxType setting := by
  obtain ⟨sliders, hl, h⟩ := Option.bind_eq_some_iff.1 h
  exact ⟨sliders, hl, Or.inr h⟩

theorem slider_settings : ∀ x ∈ BlockSnapshot.nonFxSliderParams, ∀ setting ∈ ["SW", "TYPE"],
    x.2.1 ≠ some setting ∧ x.2.2 ≠ some setting := by decide

theorem SliderSetting.not_byLabel {fxType setting : String} (h : SliderSetting fxType setting) :
    ¬ ByLabel setting := by
  obtain ⟨sliders, hl, hsetting⟩ := h
  intro hlabel
  have hnot := slider_settings _ (mem_of_lookup hl) setting (by simpa [ByLabel] using hlabel)
  exact hsetting.elim hnot.1 hnot.2

theorem unslidable : ∀ t ∈ ["fx", "eq"], BlockSnapshot.nonFxSliderParams.lookup t = none := by decide

theorem SliderSetting.ne {fxType setting : String} (h : SliderSetting fxType setting) :
    fxType ≠ "fx" ∧ fxType ≠ "eq" := by
  obtain ⟨sliders, hl, -⟩ := h
  constructor <;> rintro rfl
  · rw [unslidable "fx" (by simp)] at hl
    cases hl
  · rw [unslidable "eq" (by simp)] at hl
    cases hl

theorem recordedValue_type (fx : FxBlock) : recordedValue "TYPE" fx = some fx.name := rfl

theorem recordedValue_slider {setting : String} (h : ¬ ByLabel setting) (fx : FxBlock) :
    recordedValue setting fx = sliderValue setting fx.slider1 fx.slider2 := by
  rw [recordedValue, if_neg fun hsw => h (Or.inl hsw), if_neg fun htype => h (Or.inr htype)]

theorem sliderValue_first (v : SliderValue) (slider2 : Option SliderValue) :
    sliderValue v.label (some v) slider2 = some v.value := by
  simp [sliderValue, Option.filter]

theorem sliderValue_second {slider1 : Option SliderValue} {v : SliderValue}
    (h : ∀ v1, slider1 = some v1 → v1.label ≠ v.label) :
    sliderValue v.label slider1 (some v) = some v.value := by
  have hother : slider1.filter (fun v1 => v1.label = v.label) = none :=
    Option.filter_eq_none_iff.2 fun v1 hv1 => by simpa using h v1 hv1
  rw [sliderValue, hother]
  simp [Option.filter]

theorem filter_echoSlider (d : DecodedValue) (slider : Option SliderValue) (setting : String) :
    ((PatchState.echoSlider d slider).filter fun v => v.label = setting).map (·.value) =
      if d.valueName = setting then
        ((slider.filter fun v => v.label = setting).map (·.value)).map fun _ => some (.int d.intValue)
      else (slider.filter fun v => v.label = setting).map (·.value) := by
  cases slider with
  | none => simp [PatchState.echoSlider]
  | some v =>
    by_cases hl : v.label = d.valueName
    · by_cases hs : d.valueName = setting
      · simp [PatchState.echoSlider, Option.filter, hl, hs]
      · simp [PatchState.echoSlider, Option.filter, hl, hs]
    · by_cases hs : d.valueName = setting
      · simp [PatchState.echoSlider, Option.filter, hl, hs ▸ hl]
      · simp [PatchState.echoSlider, Option.filter, hl, hs]

/-- A value folded into a block sets what is recorded of its setting, and of no other. -/
theorem recordedValue_applyBlock (d : DecodedValue) (fx : FxBlock) (setting : String) :
    recordedValue setting (PatchState.applyBlock d fx) =
      if d.valueName = setting then (recordedValue setting fx).map fun _ => saidValue d
      else recordedValue setting fx := by
  by_cases hsw : d.valueName = "SW"
  · by_cases hs : setting = "SW"
    · simp [recordedValue, PatchState.applyBlock, saidValue, ByLabel, hsw, hs]
    · simp [recordedValue, PatchState.applyBlock, hsw, hs, Ne.symm hs]
  · by_cases htype : d.valueName = "TYPE"
    · by_cases hs : setting = "TYPE"
      · simp [recordedValue, PatchState.applyBlock, saidValue, ByLabel, htype, hs]
      · simp [recordedValue, PatchState.applyBlock, htype, hs, Ne.symm hs]
    · have hsaid : saidValue d = some (.int d.intValue) := if_neg fun h => h.elim hsw htype
      by_cases hs : setting = "SW"
      · simp [recordedValue, PatchState.applyBlock, hsw, htype, hs]
      · by_cases ht : setting = "TYPE"
        · simp [recordedValue, PatchState.applyBlock, hsw, htype, ht]
        · simp only [recordedValue, sliderValue, PatchState.applyBlock, if_neg hsw, if_neg htype, if_neg hs,
            if_neg ht, Option.map_or, filter_echoSlider, hsaid]
          split <;> rfl

/-! ## Frames -/

/-- What a frame is about: the block, the setting, and the value it gives. -/
def announced (m : AddressMap) (frame : List Nat × List Nat) :
    Option (String × String × String × Option StrOrInt) :=
  if frame.1 = programChangeOffset then none
  else match m.decode frame.1 (.list frame.2) with
    | .ok (some d) => d.fxType.map fun t => (t, PatchState.idStr d.fxId, d.valueName, saidValue d)
    | _ => none

/-- The value a frame gives a setting, if it is about that setting. -/
def saidOf (m : AddressMap) (b : TopBlock) (setting : String) (frame : List Nat × List Nat) :
    Option (Option StrOrInt) :=
  (announced m frame).bind fun x =>
    if x.1 = b.fxType ∧ x.2.1 = b.fxId.toStr ∧ x.2.2.1 = setting then some x.2.2.2 else none

/-- What is recorded of a setting of a block. -/
def recordedOf (b : TopBlock) (setting : String) (s : PatchState) : Option (Option StrOrInt) :=
  (s.block b.fxType b.fxId.toStr).bind (recordedValue setting)

section

variable {m : AddressMap} {b : TopBlock} {setting : String} {e : Param} {data : List Nat}

theorem rawInt_list (h : data ≠ []) : rawInt e (.list data) = .ok (rawValue e data) := by
  cases data with
  | nil => exact absurd rfl h
  | cons v rest => by_cases hw : 1 < e.bytes <;> simp [rawInt, rawValue, hw]

theorem Switched.shown_sw (h : Switched m b) : Shown m b "SW" switchParam :=
  ⟨h, switch_labels _ (TopBlock.mem_valueTables h.block.mem), Or.inl (Or.inl rfl)⟩

theorem Switched.shown_type (h : Switched m b) (hno : ¬ (b.fxType = "ns" ∨ b.fxType = "delay")) :
    ∃ e, Shown m b "TYPE" e := by
  have htype := type_selectors _ (TopBlock.mem_valueTables h.block.mem)
  obtain ⟨e, he⟩ := Option.isSome_iff_exists.1
    ((htype.resolve_left fun ht => hno (Or.inl ht)).resolve_left fun ht => hno (Or.inr ht))
  exact ⟨e, h, he, Or.inl (Or.inr rfl)⟩

theorem Shown.addressForBlock_eq (h : Shown m b setting e) :
    m.addressForBlock b.fxType b.fxId setting none none = .ok (some (settingAddress b e)) :=
  h.block.addressForBlock_eq h.param

theorem Shown.bytes_pos (h : Shown m b setting e) : 0 < e.bytes :=
  params_bytes _ (TopBlock.table_mem h.block.mem) (setting, e) (mem_of_lookup h.param)

theorem Shown.ne_nil (h : Shown m b setting e) (hdata : Fits setting e data) : data ≠ [] :=
  List.ne_nil_of_length_pos (hdata.length ▸ h.bytes_pos)

/-- A frame at a setting's address is about that setting. -/
theorem Shown.announced_eq (h : Shown m b setting e) (hdata : data ≠ []) :
    announced m (settingAddress b e, data) =
      some (b.fxType, b.fxId.toStr, setting, shownValue setting e data) := by
  have hraw : rawInt e (.list data) = .ok (rawValue e data) := rawInt_list hdata
  obtain ⟨d, hd, hfx, hid, hname, hstr, hint, -⟩ := h.block.decode_eq h.param hraw
  have hne : settingAddress b e ≠ programChangeOffset := by simp [settingAddress, programChangeOffset]
  have hd : m.decode (settingAddress b e) (.list data) = .ok (some d) := hd
  simp only [announced, if_neg hne, hd, hfx, hid, hname, Option.map_some, PatchState.idStr,
    decodedId_eq b h.block.mem h.ne_preamp, saidValue, hstr, hint, shownValue]

theorem Shown.said_eq (h : Shown m b setting e) (hdata : Fits setting e data) :
    saidOf m b setting (settingAddress b e, data) = some (shownValue setting e data) := by
  simp [saidOf, h.announced_eq (h.ne_nil hdata)]

/-- Once the state is ready a frame sets the recorded value it is about; it sets no other, and none
before that. -/
theorem recorded_frame (m : AddressMap) (g : Gt1000) (now : Nat) (b : TopBlock) (setting : String)
    (frame : List Nat × List Nat) :
    recordedOf b setting (g.processDataFromUnit m now frame.1 frame.2).1.state =
      match saidOf m b setting frame with
      | some value =>
        if g.state.isReady = true then (recordedOf b setting g.state).map fun _ => value
        else recordedOf b setting g.state
      | none => recordedOf b setting g.state := by
  obtain ⟨offset, data⟩ := frame
  by_cases hne : offset = programChangeOffset
  · simp [Gt1000.processDataFromUnit, saidOf, announced, hne, Gt1000.submit]
  cases hd : m.decode offset (.list data) with
  | error e => simp [Gt1000.processDataFromUnit, saidOf, announced, hne, hd]
  | ok found =>
    cases found with
    | none => simp [Gt1000.processDataFromUnit, saidOf, announced, hne, hd]
    | some d =>
      have hsaid : saidOf m b setting (offset, data) =
          if d.fxType = some b.fxType ∧ PatchState.idStr d.fxId = b.fxId.toStr ∧ d.valueName = setting
            then some (saidValue d) else none := by
        cases ht : d.fxType <;> simp [saidOf, announced, hne, hd, ht]
      have hstate : recordedOf b setting (g.processDataFromUnit m now offset data).1.state =
          if g.state.isReady = true ∧ d.fxType = some b.fxType ∧ PatchState.idStr d.fxId = b.fxId.toStr ∧
              d.valueName = setting then (recordedOf b setting g.state).map fun _ => saidValue d
          else recordedOf b setting g.state := by
        cases ha : g.state.apply now d with
        | ok r =>
          rw [Gt1000.processDataFromUnit_state hne hd ha, recordedOf, PatchState.block_apply ha, recordedOf]
          by_cases hc : g.state.isReady = true ∧ d.fxType = some b.fxType ∧
              PatchState.idStr d.fxId = b.fxId.toStr
          · rw [if_pos hc]
            by_cases hs : d.valueName = setting
            · simp [hc, hs, Option.bind_map, Option.map_bind, recordedValue_applyBlock]
            · simp [hs, Option.bind_map, recordedValue_applyBlock]
          · rw [if_neg hc, if_neg fun h => hc ⟨h.1, h.2.1, h.2.2.1⟩]
        | error e =>
          have hsame : (g.processDataFromUnit m now offset data).1.state = g.state := by
            simp [Gt1000.processDataFromUnit, hne, hd, ha]
          rw [hsame]
          split
          · next hc => simp [recordedOf, PatchState.block, PatchState.apply_error ha hc.2.1]
          · rfl
      rw [hstate, hsaid]
      by_cases hc : d.fxType = some b.fxType ∧ PatchState.idStr d.fxId = b.fxId.toStr ∧ d.valueName = setting
      · simp [hc]
      · rw [if_neg hc, if_neg fun h => hc h.2]

/-- The name recorded for the effect of an fx block. -/
def effectOf (b : TopBlock) (s : PatchState) : Option (Option StrOrInt) := s.fxNames.lookup b.fxId.toStr

/-- A frame at the TYPE of a recorded fx block sets the name of its effect, under the same condition. -/
theorem effect_frame {g : Gt1000} (hfx : b.fxType = "fx")
    (hfound : g.state.isReady = true → (g.state.block "fx" b.fxId.toStr).isSome = true) (now : Nat)
    (frame : List Nat × List Nat) :
    effectOf b (g.processDataFromUnit m now frame.1 frame.2).1.state =
      match saidOf m b "TYPE" frame with
      | some value => if g.state.isReady = true then some value else effectOf b g.state
      | none => effectOf b g.state := by
  obtain ⟨offset, data⟩ := frame
  by_cases hne : offset = programChangeOffset
  · simp [Gt1000.processDataFromUnit, saidOf, announced, hne, Gt1000.submit]
  cases hd : m.decode offset (.list data) with
  | error e => simp [Gt1000.processDataFromUnit, saidOf, announced, hne, hd]
  | ok found =>
    cases found with
    | none => simp [Gt1000.processDataFromUnit, saidOf, announced, hne, hd]
    | some d =>
      have hsaid : saidOf m b "TYPE" (offset, data) =
          if d.fxType = some "fx" ∧ PatchState.idStr d.fxId = b.fxId.toStr ∧ d.valueName = "TYPE"
            then some (saidValue d) else none := by
        cases ht : d.fxType <;> simp [saidOf, announced, hne, hd, ht, hfx]
      have hstate : effectOf b (g.processDataFromUnit m now offset data).1.state =
          if g.state.isReady = true ∧ d.fxType = some "fx" ∧ PatchState.idStr d.fxId = b.fxId.toStr ∧
              d.valueName = "TYPE" then some (saidValue d)
          else effectOf b g.state := by
        cases ha : g.state.apply now d with
        | error e =>
          have hsame : (g.processDataFromUnit m now offset data).1.state = g.state := by
            simp [Gt1000.processDataFromUnit, hne, hd, ha]
          rw [hsame]
          split
          · next hc =>
            have hnone := hfound hc.1
            rw [PatchState.block, PatchState.apply_error ha hc.2.1] at hnone
            cases hnone
          · rfl
        | ok r =>
          obtain ⟨s', r⟩ := r
          rw [Gt1000.processDataFromUnit_state hne hd ha]
          rcases PatchState.apply_cases ha with ⟨rfl, -, hnone⟩ | ⟨t, pre, fx, post, hready, ht, -, -, -, rfl, -⟩
          · split
            · next hc =>
              have hsome := hfound hc.1
              rw [← hc.2.2.1, hnone hc.1 "fx" hc.2.1] at hsome
              cases hsome
            · rfl
          · have hsame : t = "fx" ↔ d.fxType = some "fx" := by simp [ht]
            simp only [effectOf, PatchState.fold, hready, true_and, hsame]
            by_cases hc : d.fxType = some "fx" ∧ d.valueName = "TYPE"
            · have hvalue : saidValue d = d.strValue.map .str := if_pos (Or.inr hc.2)
              by_cases hid : PatchState.idStr d.fxId = b.fxId.toStr
              · simp [hc, hid, hvalue]
              · simp [hc, hid, AList.lookup_insert_ne (Ne.symm hid)]
            · rw [if_neg hc, if_neg fun h => hc ⟨h.1, h.2.2⟩]
      rw [hstate, hsaid]
      by_cases hc : d.fxType = some "fx" ∧ PatchState.idStr d.fxId = b.fxId.toStr ∧ d.valueName = "TYPE"
      · simp [hc]
      · rw [if_neg hc, if_neg fun h => hc h.2]

end

/-! ## Types without a TYPE -/

/-- The option is on no block of these types, or its table is one of theirs. -/
def untyped (name table : String) : Bool :=
  (fxOf fxTypes name).toOption.all fun r =>
    (r.1 != some "ns" && r.1 != some "delay") || (table == "PatchNs" || table == "PatchDelay")

theorem containers_untyped : ∀ c ∈ containers, ∀ x ∈ c.2, untyped x.1 x.2.table = true := by decide +kernel

theorem tables_untyped : ∀ t ∈ params, t.1 = "PatchNs" ∨ t.1 = "PatchDelay" → ∀ x ∈ t.2, x.1 ≠ "TYPE" := by
  decide +kernel

/-- No address decodes to the TYPE of such a block. -/
theorem valueName_ne_type {m : AddressMap} (hm : Loaded m) {address : List Nat} {value : RawValue}
    {d : DecodedValue} (hd : m.decode address value = .ok (some d))
    (ht : d.fxType = some "ns" ∨ d.fxType = some "delay") : d.valueName ≠ "TYPE" := by
  have htypes : m.fxTypes = fxTypes := by rcases hm with rfl | rfl <;> rfl
  obtain ⟨l, hl, -, hfx, heq⟩ := decode_eq_some hd
  have hname : d.valueName = l.valueName := by rw [heq]
  rw [hm.locate_eq] at hl
  obtain ⟨⟨container, r, hc, hr, htable⟩, table, hparams, hsetting⟩ := mem_of_locate hl
  have huntyped := containers_untyped _ hc _ hr
  rw [htypes] at hfx
  simp only [untyped, hfx, Except.toOption, Option.all_some, Bool.or_eq_true, Bool.and_eq_true, bne_iff_ne,
    beq_iff_eq, htable] at huntyped
  rw [hname]
  refine tables_untyped _ hparams (huntyped.resolve_left ?_) _ hsetting
  rintro ⟨hns, hdelay⟩
  exact ht.elim hns hdelay

/-! ## Sliders that are recorded again -/

namespace PatchState

section

variable {s s' : PatchState} {fxType : String} {fxId : StrOrInt} {slider1 slider2 : Option SliderValue}

theorem block_of_split {pre post : List FxBlock} {fx : FxBlock}
    (hl : s.blocks.lookup fxType = some (pre ++ fx :: post))
    (hpre : ∀ x ∈ pre, x.fxId.toStr ≠ fx.fxId.toStr) : s.block fxType fx.fxId.toStr = some fx := by
  have hnone : pre.find? (fun x => x.fxId.toStr == fx.fxId.toStr) = none :=
    List.find?_eq_none.2 fun x hx => by simpa using hpre x hx
  simp [block, hl, List.find?_append, hnone]

/-- One block of a type is another one now. -/
theorem block_replaced {pre post : List FxBlock} {fx fx' : FxBlock}
    (hl : s.blocks.lookup fxType = some (pre ++ fx :: post)) (hid : fx'.fxId = fx.fxId)
    (hpre : ∀ x ∈ pre, x.fxId.toStr ≠ fx.fxId.toStr) (t id : String) :
    ({ s with blocks := s.blocks.insert fxType (pre ++ fx' :: post) } : PatchState).block t id =
      if t = fxType ∧ id = fx.fxId.toStr then some fx' else s.block t id := by
  by_cases ht : t = fxType
  · subst ht
    simp only [block, AList.lookup_insert, hl, Option.bind_some, List.find?_append, List.find?_cons, hid,
      true_and]
    by_cases hi : id = fx.fxId.toStr
    · subst hi
      have hnone : pre.find? (fun x => x.fxId.toStr == fx.fxId.toStr) = none :=
        List.find?_eq_none.2 fun x hx => by simpa using hpre x hx
      simp [hnone]
    · have hskip : (fx.fxId.toStr == id) = false := by simpa using Ne.symm hi
      simp [hi, hskip]
  · simp [block, ht, AList.lookup_insert_ne ht]

theorem modifyBlock_none {id : String} {f : FxBlock → FxBlock} {entries : List FxBlock}
    (h : ∀ x ∈ entries, x.fxId.toStr ≠ id) : modifyBlock id f entries = none := by
  induction entries with
  | nil => rfl
  | cons x entries ih =>
    rw [modifyBlock, if_neg (h x List.mem_cons_self), ih fun y hy => h y (List.mem_cons_of_mem x hy)]
    rfl

/-- Everything `set_sliders` can do: nothing, or the block of that id shows the sliders. -/
theorem setSliders_cases (h : s.setSliders fxType fxId slider1 slider2 = .ok s') :
    s' = s ∨ ∃ pre fx post, s.blocks.lookup fxType = some (pre ++ fx :: post) ∧
      fx.fxId.toStr = fxId.toStr ∧ (∀ x ∈ pre, x.fxId.toStr ≠ fxId.toStr) ∧
      s' = { s with blocks := s.blocks.insert fxType (pre ++ { fx with slider1, slider2 } :: post) } := by
  obtain ⟨entries, hl, h⟩ := bind_eq_ok h
  have hl : s.blocks.lookup fxType = some entries := subscript_eq_ok.1 hl
  by_cases hno : ∀ x ∈ entries, x.fxId.toStr ≠ fxId.toStr
  · rw [modifyBlock_none hno] at h
    cases h
    exact Or.inl rfl
  · obtain ⟨fx, hfx⟩ : ∃ fx, entries.find? (fun x => x.fxId.toStr == fxId.toStr) = some fx := by
      rw [← Option.isSome_iff_exists, List.find?_isSome]
      simpa using hno
    obtain ⟨hid, pre, post, rfl, hpre⟩ := List.find?_eq_some_iff_append.1 hfx
    have hid : fx.fxId.toStr = fxId.toStr := by simpa using hid
    have hpre : ∀ x ∈ pre, x.fxId.toStr ≠ fxId.toStr := fun x hx => by simpa using hpre x hx
    rw [modifyBlock_split hid hpre] at h
    cases h
    exact Or.inr ⟨pre, fx, post, hl, hid, hpre, rfl⟩

end

end PatchState

end Pygt1000
