import Pygt1000.PatchState

/-!
# Reading one setting (`block_reader.py`)

| here | there |
| --- | --- |
| `read`, `readFx`, `readValue` | the same (`block_reader.py:36-77`) |
| `fetchValue`                  | `_fetch_value` (`:79-88`) |

`fetch` is the injected device read, the answer to an address and an RQ1 length, or `none` for a
read that timed out. An address that could not be built (`None`) makes `DeviceLink.request` add
`None` to a list, which raises.
-/

namespace Pygt1000

/-- `fetch(offset, length)`. -/
abbrev Fetch := List Nat → List Nat → Option (List Nat)

namespace BlockReader

variable (m : AddressMap) (fetch : Fetch)

/-- `_fetch_value` (`:79-88`). -/
def fetchValue (offset : Option (List Nat)) (width : Nat) : Except PyErr (Option Nat) :=
  match offset with
  | none => .error .typeError
  | some offset =>
    match fetch offset [0, 0, 0, width] with
    | none => .ok none
    | some data =>
      if 1 < width then .ok (some (unpackNibbles (data.take width)))
      else match data with
        | b :: _ => .ok (some b)
        | [] => .error .indexError

/-- `read` (`:36-49`). -/
def read (fxType : String) (fxId : StrOrInt) (setting : String) (justRange : Bool) :
    Except PyErr (Option StrOrInt) := do
  let offset ← m.addressForBlock fxType fxId setting none none
  let width ← m.blockSettingBytes fxType fxId setting none
  match ← fetchValue fetch offset width with
  | none => return none
  | some raw =>
    if justRange then return some (.int raw)
    else return some (← readLabel (← m.fxValueTable fxType) setting raw)

/-- `read_fx` (`:51-70`). -/
def readFx (s : PatchState) (fxType : String) (fxId : StrOrInt) (setting : String) :
    Except PyErr (Option StrOrInt) := do
  let fxName ← s.fxName fxId
  match ← m.addressForBlock fxType fxId setting none fxName with
  | none => return none
  | some offset =>
    let width ← m.blockSettingBytes fxType fxId setting fxName
    match ← fetchValue fetch (some offset) width with
    | none => return none
    | some raw =>
      let name ← subscript fxName
      let table ← m.fxNameValueTable (← AddressMap.tableSuffix name)
      return some (← readLabel table setting raw)

/-- `read_value` (`:72-77`). -/
def readValue (s : PatchState) (fxType : String) (fxId : StrOrInt) (option : String) :
    Except PyErr (Option StrOrInt) :=
  if fxType = "fx" then readFx m fetch s fxType fxId option
  else read m fetch fxType fxId option true

end BlockReader

/-- `_fetch_value` reads a reply the way `decode` does. -/
theorem fetchValue_rawInt {fetch : Fetch} {address data : List Nat} {e : Specs.Param}
    (h : fetch address [0, 0, 0, e.bytes] = some data) :
    BlockReader.fetchValue fetch (some address) e.bytes = (rawInt e (.list data)).map some := by
  simp only [BlockReader.fetchValue, h, rawInt]
  split
  · rfl
  · cases data <;> rfl

end Pygt1000
