import Pygt1000.BlockReads
import Pygt1000.Lib.Asking

/-!
# The sliders of an fx block, one reading after the other

| here | there |
| --- | --- |
| `slidersFor`, `resolve`, `valueRange` | `sliders_for`, `_resolve`, `_value_range`, for `"fx"` (`block_snapshot.py:160-206`) |
| `readFx`, `fetchValue`                | `read_fx`, `_fetch_value` (`block_reader.py:51-88`) |

`sliders_for` asks for the effect of the block wherever it needs it, the lock being released in
between, and the unit for the values. Here both are questions, and what answers them may change
from one to the next; where nothing changes, this is `BlockSnapshot.slidersFor`
(`slidersFor_answeredBy`).
-/

namespace Pygt1000.Live

inductive Question where
  /-- `_fx_name_for(fx_id)`. -/
  | fxName (fxId : StrOrInt)
  /-- `_fetch(offset, length)`. -/
  | fetch (address length : List Nat)

abbrev Answer : Question → Type
  | .fxName _ => Except PyErr (Option StrOrInt)
  | .fetch _ _ => Option (List Nat)

abbrev Reading := Asking Answer PyErr

def ask (q : Question) : Reading (Answer q) := Asking.question q

def fxNameFor (fxId : StrOrInt) : Reading (Option StrOrInt) := do
  let name : Except PyErr (Option StrOrInt) ← ask (.fxName fxId)
  name

/-- `_fetch_value` (`block_reader.py:79-88`), which is done once it has the reply. -/
def fetchValue (offset : List Nat) (width : Nat) : Reading (Option Nat) := do
  let reply : Option (List Nat) ← ask (.fetch offset [0, 0, 0, width])
  BlockReader.fetchValue (fun _ _ => reply) (some offset) width

variable (m : AddressMap) (fxId : StrOrInt)

/-- `read_fx` (`block_reader.py:51-70`). -/
def readFx (setting : String) : Reading (Option StrOrInt) := do
  let fxName ← fxNameFor fxId
  match ← m.addressForBlock "fx" fxId setting none fxName with
  | none => return none
  | some offset =>
    let width ← m.blockSettingBytes "fx" fxId setting fxName
    match ← fetchValue offset width with
    | none => return none
    | some raw =>
      let name ← subscript fxName
      let table ← m.fxNameValueTable (← AddressMap.tableSuffix name)
      return some (← readLabel table setting raw)

/-- `_value_range` (`block_snapshot.py:198-206`). -/
def valueRange (option : String) : Reading (Option (List Nat)) := do
  let name ← subscript (← fxNameFor fxId)
  let suffix ← AddressMap.tableSuffix name
  m.valueRange (AddressMap.fxStartSection fxId suffix) ("fx" ++ fxId.toStr ++ suffix) option

/-- `_resolve` (`block_snapshot.py:180-196`). -/
def resolve : Option String → Reading (Option SliderValue)
  | none => return none
  | some option => do
    let range ← valueRange m fxId option
    let value ← readFx m fxId option
    if value = none then return none
    else return some (← BlockSnapshot.slider value option range)

/-- The two parameters by the name of the effect (`block_snapshot.py:168-171`). -/
def policy : Option StrOrInt → Option String × Option String
  | some (.str name) => (BlockSnapshot.fxNameSliderParams.lookup name).getD (none, none)
  | _ => (none, none)

/-- `sliders_for` (`block_snapshot.py:160-178`). -/
def slidersFor : Reading (Option SliderValue × Option SliderValue) := do
  let (param1, param2) := policy (← fxNameFor fxId)
  let slider1 ← resolve m fxId param1
  let slider2 ← resolve m fxId param2
  return (slider1, slider2)

/-! ## Where nothing changes -/

/-- A known state, and a unit. -/
def oracle (s : PatchState) (fetch : Fetch) : ∀ q, Answer q
  | .fxName fxId => s.fxName fxId
  | .fetch address length => fetch address length

section

variable (s : PatchState) (fetch : Fetch)

@[simp] theorem fxNameFor_answeredBy : (fxNameFor fxId).answeredBy (oracle s fetch) = s.fxName fxId := rfl

@[simp] theorem fetchValue_answeredBy (offset : List Nat) (width : Nat) :
    (fetchValue offset width).answeredBy (oracle s fetch) =
      BlockReader.fetchValue fetch (some offset) width := rfl

theorem readFx_answeredBy (setting : String) : (readFx m fxId setting).answeredBy (oracle s fetch) =
    BlockReader.readFx m fetch s "fx" fxId setting := by
  simp only [readFx, BlockReader.readFx, Asking.answeredBy_bind, fxNameFor_answeredBy,
    Asking.answeredBy_lift]
  refine bind_congr fun fxName => bind_congr fun offset => ?_
  cases offset with
  | none => rfl
  | some offset =>
    simp only [Asking.answeredBy_bind, Asking.answeredBy_lift, fetchValue_answeredBy]
    refine bind_congr fun width => bind_congr fun raw => ?_
    cases raw with
    | none => rfl
    | some raw =>
      simp only [Asking.answeredBy_bind, Asking.answeredBy_lift, Asking.answeredBy_pure, pure_eq_ok]

theorem valueRange_answeredBy (option : String) :
    (valueRange m fxId option).answeredBy (oracle s fetch) =
      BlockSnapshot.valueRange m s "fx" fxId option := by
  simp [valueRange, BlockSnapshot.valueRange]

theorem resolve_answeredBy (param : Option String) :
    (resolve m fxId param).answeredBy (oracle s fetch) =
      BlockSnapshot.resolve m fetch s "fx" fxId param := by
  cases param with
  | none => rfl
  | some option =>
    simp only [resolve, BlockSnapshot.resolve, BlockReader.readValue, Asking.answeredBy_bind,
      valueRange_answeredBy, readFx_answeredBy, if_true, true_and]
    refine bind_congr fun range => bind_congr fun value => ?_
    split
    · rfl
    · simp only [Asking.answeredBy_bind, Asking.answeredBy_lift, Asking.answeredBy_pure, pure_eq_ok]

/-- **Nothing changing, the readings are one**: they return what `sliders_for` of the model does. -/
theorem slidersFor_answeredBy (name : Option StrOrInt) :
    (slidersFor m fxId).answeredBy (oracle s fetch) =
      BlockSnapshot.slidersFor m fetch s "fx" fxId name := by
  have hparams : BlockSnapshot.sliderParams s "fx" fxId =
      (s.fxName fxId).map policy := by
    simp only [BlockSnapshot.sliderParams, if_true]
    cases s.fxName fxId with
    | error e => rfl
    | ok name =>
      rcases name with _ | l | n <;> rfl
  simp only [slidersFor, BlockSnapshot.slidersFor, hparams, Asking.answeredBy_bind, resolve_answeredBy,
    fxNameFor_answeredBy, Asking.answeredBy_pure]
  cases s.fxName fxId with
  | error e => rfl
  | ok name => rfl

end

end Pygt1000.Live
