import Pygt1000.AddressMap
import Mathlib.Data.List.AList

/-!
# The known device state (`patch_state.py`)

| here | there |
| --- | --- |
| `SliderValue`, `FxBlock`, `ApplyResult` | the same (`patch_state.py:38-84`) |
| `PatchState`, `fresh`  | `PatchState.__init__` (`:88-98`) |
| `isReady`              | `_is_ready_locked` (`:105-108`) |
| `recordScan`, `setFx`, `setFxName`, `fxName`, `setSliders` | the same (`:115-166`) |
| `apply`, `fold`        | `apply` (`:168-221`) |

Every method holds the lock from its first line to its last, so each is one step. `blocks` is
`self._state` without its `"last_sync_ts"` key, which `lastSyncTs` is; time stamps are numbers.
An effect name, a state and a slider value are what `read_label` returned, a label or a raw byte,
or `None`.
-/

namespace Pygt1000

structure SliderValue where
  value : Option StrOrInt
  label : String
  min : Nat
  max : Nat
deriving DecidableEq, Repr

structure FxBlock where
  fxId : StrOrInt
  state : Option StrOrInt := none
  name : Option StrOrInt := none
  slider1 : Option SliderValue := none
  slider2 : Option SliderValue := none
deriving DecidableEq, Repr

structure ApplyResult where
  matched : Bool
  typeChanged : Bool
deriving DecidableEq, Repr

structure PatchState where
  fxTypes : List String
  blocks : AList fun _ : String => List FxBlock
  lastSyncTs : AList fun _ : String => Nat
  fxNames : AList fun _ : String => Option StrOrInt

namespace PatchState

def fresh (fxTypes : List String) : PatchState := ⟨fxTypes, ∅, ∅, ∅⟩

/-- One entry for each fx type: `(len(self._state) - 1) == len(self._fx_types)`. -/
def isReady (s : PatchState) : Bool := s.blocks.keys.length == s.fxTypes.length

/-- `record_scan` (`:115-119`). -/
def recordScan (s : PatchState) (fxType : String) (states : List FxBlock) (ts : Nat) : PatchState :=
  { s with blocks := s.blocks.insert fxType states, lastSyncTs := s.lastSyncTs.insert fxType ts }

/-- `set_fx` (`:121-134`); `assign` is the `setattr`. -/
def setFx (s : PatchState) (fxType : String) (fxId : StrOrInt) (assign : FxBlock → FxBlock) :
    Except PyErr PatchState := do
  let entries ← subscript (s.blocks.lookup fxType)
  let entries := match entries with
    | [entry] => [assign entry]
    | _ => entries.map fun entry => if entry.fxId.toStr = fxId.toStr then assign entry else entry
  return { s with blocks := s.blocks.insert fxType entries }

/-- `set_fx_name` (`:136-151`). -/
def setFxName (s : PatchState) (fxId : StrOrInt) (name : Option StrOrInt) : PatchState :=
  { s with fxNames := s.fxNames.insert fxId.toStr name }

/-- `fx_name` (`:153-157`). -/
def fxName (s : PatchState) (fxId : StrOrInt) : Except PyErr (Option StrOrInt) :=
  subscript (s.fxNames.lookup fxId.toStr)

/-- The first block with that id, changed by `f`; `none` if there is none. -/
def modifyBlock (fxId : String) (f : FxBlock → FxBlock) : List FxBlock → Option (List FxBlock)
  | [] => none
  | fx :: rest =>
    if fx.fxId.toStr = fxId then some (f fx :: rest)
    else (modifyBlock fxId f rest).map (fx :: ·)

/-- `set_sliders` (`:159-166`). -/
def setSliders (s : PatchState) (fxType : String) (fxId : StrOrInt)
    (slider1 slider2 : Option SliderValue) : Except PyErr PatchState := do
  let entries ← subscript (s.blocks.lookup fxType)
  match modifyBlock fxId.toStr (fun fx => { fx with slider1, slider2 }) entries with
  | some entries => return { s with blocks := s.blocks.insert fxType entries }
  | none => return s

/-! ## Folding in a decoded value -/

/-- A slider whose label the value has takes the value (`:206-217`). -/
def echoSlider (d : DecodedValue) (slider : Option SliderValue) : Option SliderValue :=
  slider.map fun v => if v.label = d.valueName then { v with value := some (.int d.intValue) } else v

def sliderMatches (d : DecodedValue) (slider : Option SliderValue) : Bool :=
  slider.any fun v => v.label == d.valueName

/-- What the value does to the block it is about (`:185-217`). -/
def applyBlock (d : DecodedValue) (fx : FxBlock) : FxBlock :=
  if d.valueName = "SW" then { fx with state := d.strValue.map .str }
  else if d.valueName = "TYPE" then { fx with name := d.strValue.map .str }
  else { fx with slider1 := echoSlider d fx.slider1, slider2 := echoSlider d fx.slider2 }

def blockResult (d : DecodedValue) (fx : FxBlock) : ApplyResult :=
  if d.valueName = "SW" then ⟨true, false⟩
  else if d.valueName = "TYPE" then ⟨true, true⟩
  else ⟨sliderMatches d fx.slider1 || sliderMatches d fx.slider2, false⟩

/-- `str(..)` of the decoded id. -/
def idStr : Option String → String
  | some fxId => fxId
  | none => "None"

/-- The first block the value is about. -/
def findBlock (d : DecodedValue) (entries : List FxBlock) : Option FxBlock :=
  entries.find? fun fx => fx.fxId.toStr == idStr d.fxId

/-- The state with the value folded into block `fx` of `fxType`; `entries` holds the changed
block (`:185-219`). -/
def fold (s : PatchState) (now : Nat) (d : DecodedValue) (fxType : String) (fx : FxBlock)
    (entries : List FxBlock) : PatchState :=
  { s with
    blocks := s.blocks.insert fxType entries
    lastSyncTs :=
      if (blockResult d fx).matched then s.lastSyncTs.insert fxType now else s.lastSyncTs
    fxNames :=
      if fxType = "fx" ∧ d.valueName = "TYPE" then
        s.fxNames.insert (idStr d.fxId) (d.strValue.map .str)
      else s.fxNames }

/-- `apply` (`:168-221`): `self._state[fx_type]` raises for a value of no fx block. -/
def apply (s : PatchState) (now : Nat) (d : DecodedValue) : Except PyErr (PatchState × ApplyResult) :=
  if s.isReady then
    match d.fxType with
    | none => .error .keyError
    | some fxType => do
      let entries ← subscript (s.blocks.lookup fxType)
      match findBlock d entries, modifyBlock (idStr d.fxId) (applyBlock d) entries with
      | some fx, some entries => return (s.fold now d fxType fx entries, blockResult d fx)
      | _, _ => return (s, ⟨false, false⟩)
  else .ok (s, ⟨false, false⟩)

/-! ## The recorded blocks, by type and id -/

/-- The block of that type and id; the first, if there were more. -/
def block (s : PatchState) (fxType fxId : String) : Option FxBlock :=
  (s.blocks.lookup fxType).bind fun entries => entries.find? fun fx => fx.fxId.toStr == fxId

/-- The recorded switch of that block. -/
def switch (s : PatchState) (fxType fxId : String) : Option (Option StrOrInt) :=
  (s.block fxType fxId).map (·.state)

/-! ## What the operations change -/

section

variable (s : PatchState) (now : Nat) (fxType : String) (entries : List FxBlock)

@[simp] theorem recordScan_blocks : (s.recordScan fxType entries now).blocks =
    s.blocks.insert fxType entries := rfl
@[simp] theorem recordScan_fxNames : (s.recordScan fxType entries now).fxNames = s.fxNames := rfl
@[simp] theorem recordScan_fxTypes : (s.recordScan fxType entries now).fxTypes = s.fxTypes := rfl
@[simp] theorem setFxName_blocks (fxId : StrOrInt) (name : Option StrOrInt) :
    (s.setFxName fxId name).blocks = s.blocks := rfl
@[simp] theorem setFxName_fxTypes (fxId : StrOrInt) (name : Option StrOrInt) :
    (s.setFxName fxId name).fxTypes = s.fxTypes := rfl
@[simp] theorem setFxName_fxNames (fxId : StrOrInt) (name : Option StrOrInt) :
    (s.setFxName fxId name).fxNames = s.fxNames.insert fxId.toStr name := rfl
@[simp] theorem fold_blocks (d : DecodedValue) (fx : FxBlock) :
    (s.fold now d fxType fx entries).blocks = s.blocks.insert fxType entries := rfl
@[simp] theorem fold_fxTypes (d : DecodedValue) (fx : FxBlock) :
    (s.fold now d fxType fx entries).fxTypes = s.fxTypes := rfl

end

/-- What `setFxName` recorded is what `fxName` returns for that block. -/
theorem fxName_setFxName (s : PatchState) (fxId : StrOrInt) (name : Option StrOrInt) :
    (s.setFxName fxId name).fxName fxId = .ok name := by
  simp [fxName, setFxName]

/-- A block keeps its id. -/
theorem applyBlock_fxId (d : DecodedValue) (fx : FxBlock) : (applyBlock d fx).fxId = fx.fxId := by
  unfold applyBlock
  split
  · rfl
  · split <;> rfl

section

variable {fxId : String} {f : FxBlock → FxBlock} {pre post : List FxBlock} {fx : FxBlock}

theorem modifyBlock_split (hid : fx.fxId.toStr = fxId) (hpre : ∀ x ∈ pre, x.fxId.toStr ≠ fxId) :
    modifyBlock fxId f (pre ++ fx :: post) = some (pre ++ f fx :: post) := by
  induction pre with
  | nil => simp [modifyBlock, hid]
  | cons x pre ih =>
    rw [List.cons_append, modifyBlock, if_neg (hpre x List.mem_cons_self),
      ih fun y hy => hpre y (List.mem_cons_of_mem x hy)]
    rfl

theorem findBlock_split {d : DecodedValue} (hid : fx.fxId.toStr = idStr d.fxId)
    (hpre : ∀ x ∈ pre, x.fxId.toStr ≠ idStr d.fxId) : findBlock d (pre ++ fx :: post) = some fx := by
  have hnone : pre.find? (fun x => x.fxId.toStr == idStr d.fxId) = none :=
    List.find?_eq_none.2 fun x hx => by simpa using hpre x hx
  simp [findBlock, List.find?_append, hnone, hid]

theorem findBlock_none {d : DecodedValue} {entries : List FxBlock}
    (h : ∀ x ∈ entries, x.fxId.toStr ≠ idStr d.fxId) : findBlock d entries = none :=
  List.find?_eq_none.2 fun x hx => by simpa using h x hx

end

section

variable {s s' : PatchState} {now : Nat} {d : DecodedValue} {fxType : String} {r : ApplyResult}

theorem apply_split {pre post : List FxBlock} {fx : FxBlock} (hready : s.isReady = true)
    (ht : d.fxType = some fxType) (hl : s.blocks.lookup fxType = some (pre ++ fx :: post))
    (hid : fx.fxId.toStr = idStr d.fxId) (hpre : ∀ x ∈ pre, x.fxId.toStr ≠ idStr d.fxId) :
    s.apply now d = .ok (s.fold now d fxType fx (pre ++ applyBlock d fx :: post), blockResult d fx) := by
  simp [apply, hready, ht, hl, findBlock_split hid hpre, modifyBlock_split hid hpre]

theorem apply_unmatched {entries : List FxBlock} (ht : d.fxType = some fxType)
    (hl : s.blocks.lookup fxType = some entries) (hno : ∀ x ∈ entries, x.fxId.toStr ≠ idStr d.fxId) :
    s.apply now d = .ok (s, ⟨false, false⟩) := by
  unfold apply
  split
  · simp [ht, hl, findBlock_none hno]
  · rfl

/-- Everything a call of `apply` can do: nothing, where no block is known that the value is about,
or one block changes. -/
theorem apply_cases (h : s.apply now d = .ok (s', r)) :
    (s' = s ∧ r = ⟨false, false⟩ ∧ (s.isReady = true → ∀ t, d.fxType = some t →
      s.block t (idStr d.fxId) = none)) ∨
    ∃ fxType pre fx post, s.isReady = true ∧ d.fxType = some fxType ∧
      s.blocks.lookup fxType = some (pre ++ fx :: post) ∧ fx.fxId.toStr = idStr d.fxId ∧
      (∀ x ∈ pre, x.fxId.toStr ≠ idStr d.fxId) ∧
      s' = s.fold now d fxType fx (pre ++ applyBlock d fx :: post) ∧ r = blockResult d fx := by
  cases hready : s.isReady with
  | false =>
    simp only [apply, hready, Bool.false_eq_true, if_false, Except.ok.injEq, Prod.mk.injEq] at h
    exact Or.inl ⟨h.1.symm, h.2.symm, nofun⟩
  | true =>
    cases ht : d.fxType with
    | none => simp [apply, hready, ht] at h
    | some fxType =>
      cases hl : s.blocks.lookup fxType with
      | none => simp [apply, hready, ht, hl] at h
      | some entries =>
        by_cases hno : ∀ x ∈ entries, x.fxId.toStr ≠ idStr d.fxId
        · rw [apply_unmatched ht hl hno] at h
          cases h
          refine Or.inl ⟨rfl, rfl, fun _ t heq => ?_⟩
          cases heq
          rw [block, hl]
          exact findBlock_none hno
        · obtain ⟨fx, hfx⟩ : ∃ fx, findBlock d entries = some fx := by
            rw [← Option.isSome_iff_exists, findBlock, List.find?_isSome]
            simpa using hno
          obtain ⟨hid, pre, post, rfl, hpre⟩ := List.find?_eq_some_iff_append.1 hfx
          have hid : fx.fxId.toStr = idStr d.fxId := by simpa using hid
          have hpre : ∀ x ∈ pre, x.fxId.toStr ≠ idStr d.fxId := fun x hx => by simpa using hpre x hx
          rw [apply_split hready ht hl hid hpre] at h
          cases h
          exact Or.inr ⟨fxType, pre, fx, post, rfl, rfl, hl, hid, hpre, rfl, rfl⟩

end

/-! ## What the operations do to a recorded block -/

theorem applyBlock_state (d : DecodedValue) (fx : FxBlock) :
    (applyBlock d fx).state = if d.valueName = "SW" then d.strValue.map .str else fx.state := by
  unfold applyBlock
  split
  · rfl
  · split <;> rfl

section

variable {s s' : PatchState} {now : Nat} {d : DecodedValue} {r : ApplyResult}

theorem switch_recordScan (s : PatchState) (fxType : String) (entries : List FxBlock) (now : Nat)
    (t id : String) : (s.recordScan fxType entries now).switch t id =
      if t = fxType then (entries.find? fun fx => fx.fxId.toStr == id).map (·.state)
      else s.switch t id := by
  by_cases ht : t = fxType
  · subst ht
    simp [switch, block]
  · simp [switch, block, ht, AList.lookup_insert_ne ht]

theorem apply_error {e : PyErr} (h : s.apply now d = .error e) {t : String} (ht : d.fxType = some t) :
    s.blocks.lookup t = none := by
  unfold apply at h
  split at h
  · rw [ht] at h
    cases hl : s.blocks.lookup t with
    | none => rfl
    | some entries =>
      simp only [hl, subscript_some, ok_bind] at h
      split at h <;> cases h
  · cases h

/-- A value changes the block it is about, once the state is ready, and no other. -/
theorem block_apply (h : s.apply now d = .ok (s', r)) (t id : String) :
    s'.block t id =
      if s.isReady = true ∧ d.fxType = some t ∧ idStr d.fxId = id then
        (s.block t id).map (applyBlock d)
      else s.block t id := by
  rcases apply_cases h with ⟨rfl, -, hnone⟩ | ⟨fxType, pre, fx, post, hready, ht, hl, hid, hpre, rfl, -⟩
  · split
    · next hc =>
      obtain ⟨hready, ht, rfl⟩ := hc
      simp [hnone hready t ht]
    · rfl
  · by_cases hty : t = fxType
    · subst hty
      by_cases hii : id = idStr d.fxId
      · subst hii
        have hnew : (pre ++ applyBlock d fx :: post).find? (fun x => x.fxId.toStr == idStr d.fxId) =
            some (applyBlock d fx) :=
          findBlock_split (by rw [applyBlock_fxId, hid]) hpre
        have hold : (pre ++ fx :: post).find? (fun x => x.fxId.toStr == idStr d.fxId) = some fx :=
          findBlock_split hid hpre
        rw [if_pos ⟨hready, ht, rfl⟩]
        simp only [block, fold_blocks, AList.lookup_insert, hl, Option.bind_some, hnew, hold,
          Option.map_some]
      · have hskip : ∀ x : FxBlock, x.fxId.toStr = idStr d.fxId → (x.fxId.toStr == id) = false :=
          fun x hx => by simpa [hx] using fun h => hii h.symm
        have hother : (pre ++ applyBlock d fx :: post).find? (fun x => x.fxId.toStr == id) =
            (pre ++ fx :: post).find? fun x => x.fxId.toStr == id := by
          simp [List.find?_append, hskip fx hid,
            hskip (applyBlock d fx) (by rw [applyBlock_fxId, hid])]
        rw [if_neg fun hc => hii hc.2.2.symm]
        simp only [block, fold_blocks, AList.lookup_insert, hl, Option.bind_some, hother]
    · rw [if_neg fun hc => hty (Option.some.inj (hc.2.1.symm.trans ht))]
      simp only [block, fold_blocks, AList.lookup_insert_ne hty]

/-- A value changes the switch it is about, and no other. -/
theorem switch_apply (h : s.apply now d = .ok (s', r)) (t id : String) :
    s'.switch t id =
      if s.isReady = true ∧ d.fxType = some t ∧ idStr d.fxId = id ∧ d.valueName = "SW" then
        (s.switch t id).map fun _ => d.strValue.map .str
      else s.switch t id := by
  rw [switch, block_apply h t id, switch]
  by_cases hc : s.isReady = true ∧ d.fxType = some t ∧ idStr d.fxId = id
  · obtain ⟨hready, ht, rfl⟩ := hc
    have hstate := fun fx => applyBlock_state d fx
    by_cases hsw : d.valueName = "SW"
    · simp [hready, ht, hsw, Function.comp_def, hstate]
    · simp [hready, ht, hsw, Function.comp_def, hstate]
  · rw [if_neg hc, if_neg fun h => hc ⟨h.1, h.2.1, h.2.2.1⟩]

end

/-- A name changes where the value is a TYPE of that fx block, and then to its label. -/
theorem fxName_apply {s s' : PatchState} {now : Nat} {d : DecodedValue} {r : ApplyResult}
    (h : s.apply now d = .ok (s', r)) (fxId : StrOrInt) :
    s'.fxName fxId = s.fxName fxId ∨
      d.fxType = some "fx" ∧ d.valueName = "TYPE" ∧ idStr d.fxId = fxId.toStr ∧
        s'.fxName fxId = .ok (d.strValue.map .str) := by
  rcases apply_cases h with ⟨rfl, -, -⟩ | ⟨t, pre, fx, post, -, ht, -, -, -, rfl, -⟩
  · exact Or.inl rfl
  · simp only [fxName, fold]
    split
    · next htype =>
      by_cases hid : fxId.toStr = idStr d.fxId
      · exact Or.inr ⟨htype.1 ▸ ht, htype.2, hid.symm, by rw [hid, AList.lookup_insert, subscript_some]⟩
      · exact Or.inl (by rw [AList.lookup_insert_ne hid])
    · exact Or.inl rfl

/-- A value about a recorded block is folded into it. -/
theorem apply_of_block {s : PatchState} {d : DecodedValue} {fxType : String} {fx : FxBlock}
    (hready : s.isReady = true) (ht : d.fxType = some fxType)
    (hblock : s.block fxType (idStr d.fxId) = some fx) (now : Nat) :
    ∃ entries, s.apply now d = .ok (s.fold now d fxType fx entries, blockResult d fx) := by
  obtain ⟨entries, hl, hfind⟩ := Option.bind_eq_some_iff.1 hblock
  obtain ⟨hid, pre, post, rfl, hpre⟩ := List.find?_eq_some_iff_append.1 hfind
  have hid : fx.fxId.toStr = idStr d.fxId := by simpa using hid
  have hpre : ∀ x ∈ pre, x.fxId.toStr ≠ idStr d.fxId := fun x hx => by simpa using hpre x hx
  exact ⟨_, apply_split hready ht hl hid hpre⟩

/-- Where the block is recorded, it takes the sliders. -/
theorem block_setSliders {s : PatchState} {fxType : String} {fxId : StrOrInt} {fx : FxBlock}
    (hblock : s.block fxType fxId.toStr = some fx) (slider1 slider2 : Option SliderValue) :
    ∃ s', s.setSliders fxType fxId slider1 slider2 = .ok s' ∧
      s'.block fxType fxId.toStr = some { fx with slider1, slider2 } := by
  obtain ⟨entries, hl, hfind⟩ := Option.bind_eq_some_iff.1 hblock
  obtain ⟨hid, pre, post, rfl, hpre⟩ := List.find?_eq_some_iff_append.1 hfind
  have hid : fx.fxId.toStr = fxId.toStr := by simpa using hid
  have hpre : ∀ x ∈ pre, x.fxId.toStr ≠ fxId.toStr := fun x hx => by simpa using hpre x hx
  have hnone : pre.find? (fun x => x.fxId.toStr == fxId.toStr) = none :=
    List.find?_eq_none.2 fun x hx => by simpa using hpre x hx
  refine ⟨_, by simp only [setSliders, hl, subscript_some, ok_bind, modifyBlock_split hid hpre]; rfl, ?_⟩
  simp [block, List.find?_append, hnone, hid]

/-- The state of a facade: it is for the facade's fx types, and holds blocks of nothing else. -/
structure Known (s : PatchState) : Prop where
  types : s.fxTypes = Pygt1000.fxTypes
  keys : ∀ t ∈ s.blocks.keys, t ∈ Pygt1000.fxTypes

theorem known_fresh : Known (.fresh Pygt1000.fxTypes) := ⟨rfl, nofun⟩

theorem Known.isReady {s : PatchState} (h : Known s)
    (hall : ∀ t ∈ Pygt1000.fxTypes, t ∈ s.blocks.keys) : s.isReady = true := by
  have hperm : s.blocks.keys.Perm Pygt1000.fxTypes :=
    (List.perm_ext_iff_of_nodup s.blocks.keys_nodup (by decide)).2 fun t => ⟨h.keys t, hall t⟩
  simp [PatchState.isReady, h.types, hperm.length_eq]

end PatchState

end Pygt1000
