import Pygt1000.LiveSliders
import Pygt1000.ShownSettings

/-!
# Reading a block, one reply after the other

| here | there |
| --- | --- |
| `read`                  | `read` (`block_reader.py:36-49`) |
| `labels`                | `snapshot` as far as the name (`block_snapshot.py:119-123`) |
| `slidersFor`, `resolve` | `sliders_for`, `_resolve` (`:160-196`) |

As in `Live`, every device read is a question, for every fx type now; for the fx blocks this is
`Live.slidersFor`. Where nothing changes between the replies it is what the model's own functions
return (`labels_answeredBy`, `slidersFor_answeredBy`). Where the unit changes, what the functions
return is made of the replies they got: `LabelsRead` and `SlidersRead` say which of them.
-/

namespace Pygt1000.Readings

open Specs Live

section

variable (m : AddressMap) (fxType : String) (fxId : StrOrInt)

/-- `_fetch_value` (`block_reader.py:79-88`); without an address `DeviceLink.request` raises. -/
def fetchValue (offset : Option (List Nat)) (width : Nat) : Reading (Option Nat) :=
  match offset with
  | none => liftM (.error .typeError : Except PyErr (Option Nat))
  | some offset => Live.fetchValue offset width

/-- `read` (`block_reader.py:36-49`). -/
def read (setting : String) (justRange : Bool) : Reading (Option StrOrInt) := do
  let offset ← m.addressForBlock fxType fxId setting none none
  let width ← m.blockSettingBytes fxType fxId setting none
  match ← fetchValue offset width with
  | none => return none
  | some raw =>
    if justRange then return some (.int raw)
    else return some (← readLabel (← m.fxValueTable fxType) setting raw)

/-- `snapshot` (`block_snapshot.py:119-123`), as far as the name. -/
def labels : Reading (Option StrOrInt × Option StrOrInt) := do
  let state ← read m fxType fxId "SW" false
  if fxType = "ns" ∨ fxType = "delay" then return (state, some (.str (fxType ++ fxId.toStr)))
  else return (state, ← read m fxType fxId "TYPE" false)

/-- `_resolve` (`block_snapshot.py:180-196`). -/
def resolve : Option String → Reading (Option SliderValue)
  | none => return none
  | some option =>
    if fxType = "fx" then Live.resolve m fxId (some option)
    else do
      let range ← m.valueRange (AddressMap.startSection fxType (.str fxId.toStr)) (fxType ++ fxId.toStr) option
      let value ← read m fxType fxId option true
      return some (← BlockSnapshot.slider value option range)

/-- `sliders_for` (`block_snapshot.py:160-178`). -/
def slidersFor (paramName : Option StrOrInt) : Reading (Option SliderValue × Option SliderValue) :=
  if fxType = "fx" then Live.slidersFor m fxId
  else if fxType = "eq" then do
    let param := if paramName = some (.str "PARAMETRIC") then "LEVEL1" else "LEVEL"
    return (← resolve m fxType fxId (some param), none)
  else do
    let (param1, param2) := (BlockSnapshot.nonFxSliderParams.lookup fxType).getD (none, none)
    let slider1 ← resolve m fxType fxId param1
    let slider2 ← resolve m fxType fxId param2
    return (slider1, slider2)

end

/-! ## Where nothing changes -/

section

variable {m : AddressMap} {fetch : Fetch} {fxType : String} {fxId : StrOrInt} (s : PatchState)

theorem read_answeredBy (setting : String) (justRange : Bool) :
    (read m fxType fxId setting justRange).answeredBy (oracle s fetch) =
      BlockReader.read m fetch fxType fxId setting justRange := by
  simp only [read, BlockReader.read, Asking.answeredBy_bind, Asking.answeredBy_lift]
  refine bind_congr fun offset => bind_congr fun width => ?_
  have hvalue : (fetchValue offset width).answeredBy (oracle s fetch) =
      BlockReader.fetchValue fetch offset width := by
    cases offset <;> rfl
  rw [hvalue]
  refine bind_congr fun raw => ?_
  cases raw with
  | none => rfl
  | some raw =>
    cases justRange with
    | true => rfl
    | false => simp only [Bool.false_eq_true, if_false, Asking.answeredBy_bind, Asking.answeredBy_lift,
        Asking.answeredBy_pure, pure_eq_ok]

theorem labels_answeredBy : (labels m fxType fxId).answeredBy (oracle s fetch) = do
    let state ← BlockReader.read m fetch fxType fxId "SW" false
    let name ← BlockSnapshot.blockName m fetch fxType fxId
    return (state, name) := by
  simp only [labels, BlockSnapshot.blockName, Asking.answeredBy_bind, read_answeredBy]
  refine bind_congr fun state => ?_
  split
  · rfl
  · simp only [Asking.answeredBy_bind, read_answeredBy, Asking.answeredBy_pure, pure_eq_ok]

theorem resolve_answeredBy (param : Option String) :
    (resolve m fxType fxId param).answeredBy (oracle s fetch) =
      BlockSnapshot.resolve m fetch s fxType fxId param := by
  cases param with
  | none => rfl
  | some option =>
    by_cases hfx : fxType = "fx"
    · subst hfx
      exact Live.resolve_answeredBy m fxId s fetch (some option)
    · simp only [resolve, BlockSnapshot.resolve, BlockSnapshot.valueRange, BlockReader.readValue, hfx,
        false_and, if_false, Asking.answeredBy_bind, Asking.answeredBy_lift, read_answeredBy,
        Asking.answeredBy_pure, pure_eq_ok]

/-- **Nothing changing, the readings are one.** -/
theorem slidersFor_answeredBy (name : Option StrOrInt) :
    (slidersFor m fxType fxId name).answeredBy (oracle s fetch) =
      BlockSnapshot.slidersFor m fetch s fxType fxId name := by
  by_cases hfx : fxType = "fx"
  · subst hfx
    exact Live.slidersFor_answeredBy m fxId s fetch name
  · by_cases heq : fxType = "eq"
    · simp only [slidersFor, BlockSnapshot.slidersFor, if_neg hfx, if_pos heq, Asking.answeredBy_bind,
        resolve_answeredBy, Asking.answeredBy_pure, pure_eq_ok]
    · simp only [slidersFor, BlockSnapshot.slidersFor, BlockSnapshot.sliderParams, if_neg hfx, if_neg heq,
        pure_eq_ok, ok_bind, Asking.answeredBy_bind, resolve_answeredBy, Asking.answeredBy_pure]

end

/-! ## What was read -/

/-- Every setting that is recorded has its bytes. -/
def Fitting (m : AddressMap) (memory : List Nat → List Nat) : Prop :=
  ∀ b setting e, Shown m b setting e → Fits setting e (memory (settingAddress b e))

/-- Replies are read off such a memory, whatever it is at the moment. -/
def Told (m : AddressMap) (_ : List (Sigma Answer)) : ∀ q, Answer q → Prop
  | .fxName _, _ => True
  | .fetch address length, reply => ∃ memory, Fitting m memory ∧ reply = World.reading memory address length

/-- The reply to a read of that setting. -/
def reply (b : TopBlock) (e : Param) (data : List Nat) : Sigma Answer :=
  ⟨.fetch (settingAddress b e) [0, 0, 0, e.bytes], some data⟩

/-- A condition on what is returned; nothing is said of a call that raises. -/
def OnOk {α : Type} (P : List (Sigma Answer) → α → Prop) (log : List (Sigma Answer)) : Except PyErr α → Prop
  | .ok a => P log a
  | .error _ => True

/-- The label and the range of a slider. -/
def sliderFrame (slider : Option SliderValue) : Option (String × Nat × Nat) :=
  slider.map fun v => (v.label, v.min, v.max)

/-- The same, of the slider that shows a parameter of the block. -/
def paramFrame (b : TopBlock) (param : Option String) : Option (String × Nat × Nat) := do
  let setting ← param
  let e ← b.table.lookup setting
  match e.valueRange with
  | lo :: hi :: _ => some (setting, lo, hi)
  | _ => none

/-- The state and the name of a block are made of the last replies about them. -/
structure LabelsRead (m : AddressMap) (b : TopBlock) (log : List (Sigma Answer))
    (labels : Option StrOrInt × Option StrOrInt) : Prop where
  state : ∀ e, Shown m b "SW" e → ∃ data, reply b e data ∈ log ∧ labels.1 = shownValue "SW" e data
  name : ∀ e, Shown m b "TYPE" e → ∃ data, reply b e data ∈ log ∧ labels.2 = shownValue "TYPE" e data
  noType : b.fxType = "ns" ∨ b.fxType = "delay" → labels.2 = some (.str (b.fxType ++ b.fxId.toStr))

/-- The sliders show the block's own parameters, with the values of the replies about them. -/
structure SlidersRead (m : AddressMap) (b : TopBlock) (log : List (Sigma Answer))
    (sliders : Option SliderValue × Option SliderValue) : Prop where
  first : sliderFrame sliders.1 = paramFrame b ((BlockSnapshot.nonFxSliderParams.lookup b.fxType).bind (·.1))
  second : sliderFrame sliders.2 = paramFrame b ((BlockSnapshot.nonFxSliderParams.lookup b.fxType).bind (·.2))
  value : ∀ setting e, Shown m b setting e → ¬ ByLabel setting →
    ∃ data, reply b e data ∈ log ∧ sliderValue setting sliders.1 sliders.2 = some (shownValue setting e data)

section

variable {m : AddressMap} {b : TopBlock} {setting : String} {e : Param} {log log' : List (Sigma Answer)}

theorem LabelsRead.mono {labels : Option StrOrInt × Option StrOrInt} (h : LabelsRead m b log labels)
    (hlog : log ⊆ log') : LabelsRead m b log' labels := by
  refine ⟨fun e he => ?_, fun e he => ?_, h.noType⟩
  · obtain ⟨data, hmem, hstate⟩ := h.state e he
    exact ⟨data, hlog hmem, hstate⟩
  · obtain ⟨data, hmem, hname⟩ := h.name e he
    exact ⟨data, hlog hmem, hname⟩

/-- The reply about a setting holds the bytes the unit has. -/
theorem reading_eq (h : Shown m b setting e) {memory : List Nat → List Nat} (hmemory : Fitting m memory) :
    World.reading memory (settingAddress b e) [0, 0, 0, e.bytes] = some (memory (settingAddress b e)) := by
  have hlen := (hmemory b setting e h).length
  simp [World.reading, ← hlen, List.takeD_eq_take]

/-- A read of a setting that is recorded returns what its reply shows. -/
theorem ensures_read (h : Shown m b setting e) {justRange : Bool} (hj : justRange = true ↔ ¬ ByLabel setting) :
    Asking.Ensures (Told m) (OnOk fun log' value => ∃ data, log' = log ++ [reply b e data] ∧
      value = shownValue setting e data) log (read m b.fxType b.fxId setting justRange) := by
  simp only [read, h.addressForBlock_eq, h.block.blockSettingBytes_eq h.param, Asking.ok_bind,
    fetchValue]
  rintro answer ⟨memory, hmemory, rfl⟩
  have hreply := reading_eq h hmemory
  have hfits := hmemory b setting e h
  have hraw : BlockReader.fetchValue (fun _ _ => some (memory (settingAddress b e)))
      (some (settingAddress b e)) e.bytes = .ok (some (rawValue e (memory (settingAddress b e)))) := by
    cases hdata : memory (settingAddress b e) with
    | nil => exact absurd hdata (h.ne_nil hfits)
    | cons v rest => by_cases hw : 1 < e.bytes <;> simp [BlockReader.fetchValue, rawValue, hw]
  change Asking.Ensures _ _ _ ((liftM (BlockReader.fetchValue (fun _ _ =>
    World.reading memory (settingAddress b e) [0, 0, 0, e.bytes]) _ _) : Reading _) >>= _)
  rw [hreply, hraw, Asking.ok_bind]
  by_cases hlabel : ByLabel setting
  · have hjust : justRange = false := by simpa [hlabel] using hj
    obtain ⟨l, hl⟩ := Option.isSome_iff_exists.1 (hfits.label hlabel)
    simp only [hjust, Bool.false_eq_true, if_false, h.block.fxValueTable_eq, Asking.ok_bind, readLabel_eq h.param,
      presented, hl]
    exact ⟨_, rfl, by simp [shownValue, hlabel, hl]⟩
  · simp only [hj.2 hlabel, if_true]
    exact ⟨_, rfl, by simp [shownValue, hlabel]⟩

theorem ensures_labels (h : Switched m b) :
    Asking.Ensures (Told m) (OnOk (LabelsRead m b)) log (labels m b.fxType b.fxId) := by
  have hmem := TopBlock.mem_valueTables h.block.mem
  refine Asking.ensures_bind (ensures_read h.shown_sw (by simp [ByLabel])) (fun _ _ _ => trivial) ?_
  rintro - state ⟨data, rfl, rfl⟩
  have hstate (e : Param) (he : Shown m b "SW" e) : e = switchParam :=
    Option.some.inj (he.param.symm.trans h.shown_sw.param)
  by_cases hno : b.fxType = "ns" ∨ b.fxType = "delay"
  · rw [if_pos hno]
    refine ⟨fun e he => ?_, fun e he => ?_, fun _ => rfl⟩
    · obtain rfl := hstate e he
      exact ⟨data, by simp, rfl⟩
    · have hnone := type_untyped _ hmem hno
      rw [he.param] at hnone
      cases hnone
  · rw [if_neg hno]
    obtain ⟨e, hshown⟩ := h.shown_type hno
    refine Asking.ensures_bind (ensures_read hshown (by simp [ByLabel])) (fun _ _ _ => trivial) ?_
    rintro - name ⟨data', rfl, rfl⟩
    refine ⟨fun e' he' => ?_, fun e' he' => ?_, fun hyes => absurd hyes hno⟩
    · obtain rfl := hstate e' he'
      exact ⟨data, by simp, rfl⟩
    · obtain rfl : e' = e := Option.some.inj (he'.param.symm.trans hshown.param)
      exact ⟨data', by simp, rfl⟩

/-- One slider, as it was read. -/
structure SliderRead (m : AddressMap) (b : TopBlock) (log : List (Sigma Answer)) (param : Option String)
    (slider : Option SliderValue) : Prop where
  frame : sliderFrame slider = paramFrame b param
  value : ∀ setting e, param = some setting → Shown m b setting e →
    ∃ data v, reply b e data ∈ log ∧ slider = some v ∧ v.label = setting ∧ v.value = shownValue setting e data

/-- A slider bears the name of its parameter. -/
theorem param_of_frame {param : Option String} {x : String × Nat × Nat} (h : paramFrame b param = some x) :
    param = some x.1 := by
  obtain ⟨setting, rfl, h⟩ := Option.bind_eq_some_iff.1 h
  obtain ⟨e, -, h⟩ := Option.bind_eq_some_iff.1 h
  split at h
  · cases h
    rfl
  · cases h

theorem SliderRead.mono {param : Option String} {slider : Option SliderValue}
    (h : SliderRead m b log param slider) (hlog : log ⊆ log') : SliderRead m b log' param slider := by
  refine ⟨h.frame, fun setting e hp he => ?_⟩
  obtain ⟨data, v, hmem, hv⟩ := h.value setting e hp he
  exact ⟨data, v, hlog hmem, hv⟩

theorem ensures_resolve (h : Switched m b) (hfx : b.fxType ≠ "fx") {param : Option String}
    (hparam : ∀ setting, param = some setting → SliderSetting b.fxType setting) :
    Asking.Ensures (Told m) (OnOk fun log' slider => SliderRead m b log' param slider) log
      (resolve m b.fxType b.fxId param) := by
  cases param with
  | none => exact ⟨rfl, nofun⟩
  | some setting =>
    have hslider := hparam setting rfl
    obtain ⟨sliders, hl, hsetting⟩ := hparam setting rfl
    have hslidable : slidable b.table setting = true := by
      have hs := nonFx_slidable _ (TopBlock.mem_valueTables h.block.mem) hfx
      simp only [hl, Option.all_some, Bool.and_eq_true] at hs
      rcases hsetting with hsetting | hsetting
      · simpa [hsetting] using hs.1
      · simpa [hsetting] using hs.2
    obtain ⟨e, he, hrange⟩ := slidable_eq_true.1 hslidable
    obtain ⟨lo, hi, rest, hvalues⟩ : ∃ lo hi rest, e.valueRange = lo :: hi :: rest := by
      match e.valueRange, hrange with
      | lo :: hi :: rest, _ => exact ⟨lo, hi, rest, rfl⟩
    have hshown : Shown m b setting e := ⟨h, he, Or.inr hslider⟩
    obtain ⟨slot, -, -, -, hslot⟩ := TopBlock.exists_slot h.block.mem he
    have hvalueRange : m.valueRange (AddressMap.startSection b.fxType (.str b.fxId.toStr))
        (b.fxType ++ b.fxId.toStr) setting = .ok (some e.valueRange) := by
      rw [h.block.1.valueRange_eq, ← hslot]
      exact slot.valueRange_eq
    simp only [resolve, if_neg hfx, hvalueRange, Asking.ok_bind]
    refine Asking.ensures_bind (ensures_read hshown (by simpa using hslider.not_byLabel))
      (fun _ _ _ => trivial) ?_
    rintro - value ⟨data, rfl, rfl⟩
    simp only [BlockSnapshot.slider, hvalues, Asking.ok_bind]
    refine ⟨by simp [sliderFrame, paramFrame, he, hvalues], fun setting' e' hp he' => ?_⟩
    obtain rfl := Option.some.inj hp
    obtain rfl : e' = e := Option.some.inj (he'.param.symm.trans he)
    exact ⟨data, _, by simp, rfl, rfl, rfl⟩

/-- Two sliders of the parameters of the type show what was read of these. -/
theorem slidersRead {slider1 slider2 : Option SliderValue}
    (h1 : SliderRead m b log ((BlockSnapshot.nonFxSliderParams.lookup b.fxType).bind (·.1)) slider1)
    (h2 : SliderRead m b log ((BlockSnapshot.nonFxSliderParams.lookup b.fxType).bind (·.2)) slider2) :
    SlidersRead m b log (slider1, slider2) := by
  refine ⟨h1.frame, h2.frame, fun setting e he hlabel => ?_⟩
  obtain ⟨sliders, hl, hsetting⟩ := he.recorded.resolve_left hlabel
  simp only [hl, Option.bind_some] at h1 h2
  by_cases hfirst : sliders.1 = some setting
  · obtain ⟨data, v, hmem, rfl, rfl, hvalue⟩ := h1.value setting e hfirst he
    exact ⟨data, hmem, by rw [sliderValue_first, hvalue]⟩
  · obtain ⟨data, v, hmem, rfl, rfl, hvalue⟩ := h2.value setting e (hsetting.resolve_left hfirst) he
    have hother (v1 : SliderValue) (hv1 : slider1 = some v1) : v1.label ≠ v.label := by
      have hframe := h1.frame
      rw [hv1] at hframe
      exact fun hsame => hfirst (hsame ▸ param_of_frame hframe.symm)
    exact ⟨data, hmem, by rw [sliderValue_second hother, hvalue]⟩

/-- The sliders of every block but those of `fx` and `eq`. -/
theorem ensures_slidersFor (h : Switched m b) (hfx : b.fxType ≠ "fx") (heq : b.fxType ≠ "eq")
    (name : Option StrOrInt) : Asking.Ensures (Told m) (OnOk (SlidersRead m b)) log
      (slidersFor m b.fxType b.fxId name) := by
  have hparams : (BlockSnapshot.nonFxSliderParams.lookup b.fxType).getD (none, none) =
      ((BlockSnapshot.nonFxSliderParams.lookup b.fxType).bind (·.1),
        (BlockSnapshot.nonFxSliderParams.lookup b.fxType).bind (·.2)) := by
    cases BlockSnapshot.nonFxSliderParams.lookup b.fxType <;> rfl
  simp only [slidersFor, if_neg hfx, if_neg heq, hparams]
  refine Asking.ensures_bind (ensures_resolve h hfx fun _ => sliderSetting_first) (fun _ _ _ => trivial)
    fun log1 slider1 h1 => ?_
  refine Asking.ensures_bind (ensures_resolve h hfx fun _ => sliderSetting_second).extends (fun _ _ _ => trivial)
    fun log2 slider2 h2 => ?_
  exact slidersRead (h1.mono h2.1.subset) h2.2

end

end Pygt1000.Readings
