import Pygt1000.Basic
import Pygt1000.Constants
import Pygt1000.Lib.BigEndian
import Pygt1000.Lib.Index
import Pygt1000.Specs.Memory

/-!
# The memory map (`address_map.py`)

| here | there |
| --- | --- |
| `AddressMap`, `load`  | `__init__`, `_import_specs_tables` (`address_map.py:102-154`) |
| `normalizeBlock`, `startSection`, `fxStartSection` | the same (`:183-212`) |
| `addressForBlock`, `blockSettingBytes`, `settingEntry`, `addressFor`, `valueRange` | the same (`:214-324`) |
| `locate`, `decodeAt`, `decode` | `decode` (`:326-400`), up to the entry and from it |
| `labelForRaw`, `readLabel` | `_label_for_raw`, `read_label` (`:403-417`) |
| `valueFor`, `typesFor`, `fxTypeTableName` | `value_for`, `types_for`, `fx_type_table_name` (`:419-464`) |

`load` says what each registry holds when the loop over the files is over: every registry is
filled by assignments under a key, so it is an index of what was assigned (`Index.index`), the
last assignment winning. The order in which the files come does not matter: two files never
assign under one key, except `_fx_tables`, where they assign the same table.

`ChainElement.json` is no table that an address goes through, and is left out here.
-/

namespace Pygt1000

open Specs

/-! ## Numbers and bytes -/

/-- `int.from_bytes(value, byteorder="big")` (`:61-62`). -/
def bytesToInt (l : List Nat) : Nat := BigEndian.value 256 l

/-- `n.to_bytes((n.bit_length() + 7) // 8, byteorder="big")` (`:289-291`). -/
def intToBytes (n : Nat) : List Nat := BigEndian.digits 256 n

/-- `pack_nibbles` (`:69-74`); `value & 0x0F` is the remainder, of a negative value as well
(`packNibbles_eq_land`). -/
def packNibbles (value : Int) (width : Nat) : List Nat :=
  (List.range width).map fun i => ((value >>> (4 * (width - 1 - i))) % 16).toNat

/-- `unpack_nibbles` (`:77-83`). -/
def unpackNibbles (data : List Nat) : Nat :=
  data.foldl (fun value byte => (value <<< 4) ||| (byte &&& 0x0F)) 0

/-! ## The registries -/

/-- A loaded spec file. -/
inductive Table where
  | refs (entries : List (String × Ref))
  | params (entries : List (String × Param))
deriving Repr

/-- An entry of either kind. -/
inductive Entry where
  | ref (r : Ref)
  | param (e : Param)
deriving DecidableEq, Repr

def Table.find? : Table → String → Option Entry
  | .refs entries, key => (entries.lookup key).map .ref
  | .params entries, key => (entries.lookup key).map .param

/-- `entry["address"]` and `entry["table"]`, which a parameter does not have. -/
def Entry.ref? : Entry → Except PyErr Ref
  | .ref r => .ok r
  | .param _ => .error .keyError

/-- `entry["offset"]`, `entry["values"]` and `entry["value_range"]`, which a section or a block
does not have. -/
def Entry.param? : Entry → Except PyErr Param
  | .ref _ => .error .keyError
  | .param e => .ok e

section
variable (key : String)

@[simp] theorem find?_refs (entries : List (String × Ref)) :
    (Table.refs entries).find? key = (entries.lookup key).map .ref := rfl
@[simp] theorem find?_params (entries : List (String × Param)) :
    (Table.params entries).find? key = (entries.lookup key).map .param := rfl
@[simp] theorem ref?_ref (r : Ref) : (Entry.ref r).ref? = .ok r := rfl
@[simp] theorem ref?_param (e : Param) : (Entry.param e).ref? = .error .keyError := rfl
@[simp] theorem param?_param (e : Param) : (Entry.param e).param? = .ok e := rfl
@[simp] theorem param?_ref (r : Ref) : (Entry.ref r).param? = .error .keyError := rfl

end

structure AddressMap where
  fxTypes : List String
  /-- `self._tables["base-addresses"]`. -/
  baseAddresses : List (String × Ref)
  /-- `self._tables`, for the tables an address goes through. -/
  tables : String → Option Table
  firstTwoBytes : List Nat → Option (String × String)
  offsetInPatchTables : String → Option (Nat → Option (String × String))
  lastByteOption : String → Option (Nat → Option (String × Param))
  fxTables : String → Option String
  fxTypesCount : String → Option Nat

/-- The fx type a block of a container counts for (`:132-135`). -/
def fxTypeOfKey (key : String) : String :=
  if key = "preampA" ∨ key = "preampB" then "preamp"
  else String.ofList (key.toList.filter fun c => !c.isDigit)

/-- Blocks by the byte `decode` looks them up with. -/
def blockIndex (container : List (String × Ref)) : Nat → Option (String × String) :=
  Index.index (fun x => x.2.addressByte 1) (fun x => (x.1, x.2.table)) container

/-- Parameters by the byte `decode` looks them up with. -/
def settingIndex (table : List (String × Param)) : Nat → Option (String × Param) :=
  Index.index (fun x => x.2.offsetByte 1) id table

/-- `_import_specs_tables` (`:119-154`). -/
def AddressMap.load (fxTypes : List String) (baseAddresses : List (String × Ref))
    (containers : List (String × List (String × Ref)))
    (params : List (String × List (String × Param))) : AddressMap where
  fxTypes
  baseAddresses
  tables := Index.index Prod.fst Prod.snd
    (containers.map (Prod.map id Table.refs) ++ params.map (Prod.map id Table.params))
  firstTwoBytes := Index.index (fun x => x.2.address.take 2) (fun x => (x.1, x.2.table)) baseAddresses
  offsetInPatchTables := Index.index Prod.fst (fun f => blockIndex f.2) containers
  lastByteOption := Index.index Prod.fst (fun f => settingIndex f.2)
    (params.filter fun f => startsWith f.1 "Patch")
  fxTables := Index.index (fun x => fxTypeOfKey x.1) (fun x => x.2.table)
    ((containers.flatMap Prod.snd).filter fun x => fxTypes.contains (fxTypeOfKey x.1))
  fxTypesCount := fun fxType =>
    if fxType ∈ fxTypes then
      some ((containers.flatMap Prod.snd).countP fun x => fxTypeOfKey x.1 == fxType)
    else none

section

variable (fxTypes : List String) (baseAddresses : List (String × Ref))
  (containers : List (String × List (String × Ref))) (params : List (String × List (String × Param)))

/-- Both registries of the fx types are made from the blocks that have one of these types. -/
theorem AddressMap.load_fxTables :
    (AddressMap.load fxTypes baseAddresses containers params).fxTables =
      Index.index Prod.fst Prod.snd
        (((containers.flatMap Prod.snd).map fun x => (fxTypeOfKey x.1, x.2.table)).filter
          fun x => fxTypes.contains x.1) := by
  rw [List.filter_map, Index.index_map]
  rfl

theorem AddressMap.load_fxTypesCount {fxTypes : List String} {fxType : String} (h : fxType ∈ fxTypes) :
    (AddressMap.load fxTypes baseAddresses containers params).fxTypesCount fxType =
      some ((((containers.flatMap Prod.snd).map fun x => (fxTypeOfKey x.1, x.2.table)).filter
        fun x => fxTypes.contains x.1).countP fun x => x.1 == fxType) := by
  have hcount : (AddressMap.load fxTypes baseAddresses containers params).fxTypesCount fxType =
      some ((containers.flatMap Prod.snd).countP fun x => fxTypeOfKey x.1 == fxType) := if_pos h
  rw [hcount, List.countP_filter, List.countP_map]
  congr 2
  funext x
  by_cases hx : fxTypeOfKey x.1 = fxType
  · simp [hx, h]
  · simp [hx]

end

namespace AddressMap

variable (m : AddressMap)

/-- `fx_block_count` (`:158-160`). -/
def fxBlockCount (fxType : String) : Except PyErr Nat := subscript (m.fxTypesCount fxType)

/-- `set_fx_block_count` (`:162-164`). -/
def setFxBlockCount (fxType : String) (count : Nat) : AddressMap :=
  { m with fxTypesCount := Function.update m.fxTypesCount fxType (some count) }

/-- `self._tables[name]`, a value table. -/
def valueTable (name : String) : Except PyErr Table := subscript (m.tables name)

/-- `fx_value_table` (`:166-168`). -/
def fxValueTable (fxType : String) : Except PyErr Table := do
  m.valueTable (← subscript (m.fxTables fxType))

/-- `fx_name_value_table` (`:170-173`). -/
def fxNameValueTable (tableSuffix : String) : Except PyErr Table :=
  m.valueTable ("PatchFx" ++ tableSuffix)

/-! ## Blocks and sections -/

def patchSection : String := "patch (temporary patch)"
def patch2Section : String := "patch2 (temporary patch)"
def patch3Section : String := "patch3 (temporary patch)"

/-- `_FX_SECTION_BY_SUFFIX` (`:95-100`). -/
def fxSectionBySuffix : List (String × String) :=
  [("ChorusBass", patch2Section), ("FlangerBass", patch2Section),
   ("Dist", patch3Section), ("MasterFx", patch3Section)]

/-- `start_section` (`:183-190`). -/
def startSection (fxType : String) (fxId : StrOrInt) : String :=
  if fxType = "fx" ∧ fxId.toStr = "4" then patch3Section else patchSection

/-- `fx_start_section` (`:192-196`). -/
def fxStartSection (fxId : StrOrInt) (tableSuffix : String) : String :=
  if fxId.toStr = "4" then patch3Section
  else (fxSectionBySuffix.lookup tableSuffix).getD patchSection

/-- The id `normalize_block` returns for a type with `count` blocks (`:206-211`). -/
def normalId (count : Nat) (fxType : String) (fxId : StrOrInt) : StrOrInt :=
  if count = 1 then .str ""
  else if fxType = "preamp" ∧ fxId = .int 1 then .str "A"
  else if fxType = "preamp" ∧ fxId = .int 2 then .str "B"
  else fxId

/-- `normalize_block` (`:198-212`). -/
def normalizeBlock (fxType : String) (fxId : StrOrInt) : Except PyErr (String × StrOrInt) := do
  let count ← m.fxBlockCount fxType
  return (fxType, normalId count fxType fxId)

/-- `FX_TO_TABLE_SUFFIX[fx_name]`; the recorded name may also be a raw byte (`readLabel`). -/
def tableSuffix : StrOrInt → Except PyErr String
  | .str name => subscript (fxToTableSuffix.lookup name)
  | .int _ => .error .keyError

/-- `_block_section_option` (`:226-239`). -/
def blockSectionOption (fxType : String) (fxId : StrOrInt) (fxName : Option StrOrInt) :
    Except PyErr (String × String) := do
  let (fxType, fxId) ← m.normalizeBlock fxType fxId
  match fxName with
  | some name =>
    let suffix ← tableSuffix name
    return (fxStartSection fxId suffix, fxType ++ fxId.toStr ++ suffix)
  | none => return (startSection fxType fxId, fxType ++ fxId.toStr)

/-! ## Addresses -/

/-- The section entry and the option entry, the first two hops of every lookup
(`:253-258`, `:267-277`, `:312-321`). -/
def findOption (sectionName option : String) : Except PyErr (Option (Ref × Entry)) :=
  match m.baseAddresses.lookup sectionName with
  | none => .ok none
  | some sectionEntry => do
    let sectionTable ← subscript (m.tables sectionEntry.table)
    return (sectionTable.find? option).map fun optionEntry => (sectionEntry, optionEntry)

/-- `_setting_entry` (`:249-259`). -/
def settingEntry (sectionName option setting : String) : Except PyErr (Option Entry) := do
  match ← m.findOption sectionName option with
  | none => return none
  | some (_, optionEntry) =>
    let optionTable ← subscript (m.tables (← optionEntry.ref?).table)
    return optionTable.find? setting

/-- The value byte(s) appended to an address (`:293-305`): a name of the entry is replaced by
its number, any other value is taken as it is. -/
def encodeValue (e : Param) (value : StrOrInt) : Except PyErr (List Nat) :=
  let raw : StrOrInt := match value with
    | .str name => match e.values.lookup name with
      | some n => .int n
      | none => .str name
    | .int n => .int n
  match raw with
  | .int n =>
    if 1 < e.bytes then .ok (packNibbles n e.bytes)
    else if 0 ≤ n ∧ n ≤ 255 then .ok [n.toNat] else .error .overflowError
  | .str _ => if 1 < e.bytes then .error .typeError else .error .attributeError

/-- `address_for` (`:261-309`). -/
def addressFor (sectionName option setting : String) (value : Option StrOrInt) :
    Except PyErr (Option (List Nat)) := do
  match ← m.findOption sectionName option with
  | none => return none
  | some (sectionEntry, optionEntry) =>
    let optionRef ← optionEntry.ref?
    let optionTable ← subscript (m.tables optionRef.table)
    match optionTable.find? setting with
    | none => return none
    | some settingEntry =>
      let e ← settingEntry.param?
      let address := intToBytes
        (bytesToInt sectionEntry.address + bytesToInt optionRef.address + bytesToInt e.offset)
      match value with
      | none => return some address
      | some value => return some (address ++ (← encodeValue e value))

/-- `value_range` (`:311-324`): unlike the two above it subscripts the setting. -/
def valueRange (sectionName option setting : String) : Except PyErr (Option (List Nat)) := do
  match ← m.findOption sectionName option with
  | none => return none
  | some (_, optionEntry) =>
    let optionTable ← subscript (m.tables (← optionEntry.ref?).table)
    let e ← (← subscript (optionTable.find? setting)).param?
    return some e.valueRange

/-- `address_for_block` (`:214-224`). -/
def addressForBlock (fxType : String) (fxId : StrOrInt) (setting : String)
    (value : Option StrOrInt) (fxName : Option StrOrInt) : Except PyErr (Option (List Nat)) := do
  let (sectionName, option) ← m.blockSectionOption fxType fxId fxName
  m.addressFor sectionName option setting value

/-- `block_setting_bytes` (`:241-247`). -/
def blockSettingBytes (fxType : String) (fxId : StrOrInt) (setting : String)
    (fxName : Option StrOrInt) : Except PyErr Nat := do
  let (sectionName, option) ← m.blockSectionOption fxType fxId fxName
  match ← m.settingEntry sectionName option setting with
  | some (.param e) => return e.bytes
  | _ => return 1

section

variable {m} {fxType sectionName option setting : String} {fxId : StrOrInt} {fxName : Option StrOrInt}
  (h : m.blockSectionOption fxType fxId fxName = .ok (sectionName, option))
include h

/-- A block's lookups are those of the section and option it is routed to. -/
theorem addressForBlock_routed (value : Option StrOrInt) :
    m.addressForBlock fxType fxId setting value fxName =
      m.addressFor sectionName option setting value := by
  simp only [addressForBlock, h, ok_bind]

theorem blockSettingBytes_routed {e : Param}
    (he : m.settingEntry sectionName option setting = .ok (some (.param e))) :
    m.blockSettingBytes fxType fxId setting fxName = .ok e.bytes := by
  simp only [blockSettingBytes, h, ok_bind, he, pure_eq_ok]

end

end AddressMap

/-! ## Decoding -/

/-- The value `decode` is given: one raw byte, or a reply's data. -/
inductive RawValue where
  | int (n : Nat)
  | list (data : List Nat)
deriving DecidableEq, Repr

structure DecodedValue where
  sectionName : String
  table : String
  name : String
  patchTable : String
  valueName : String
  strValue : Option String
  intValue : Nat
  fxType : Option String
  fxId : Option String
  fxTableSuffix : Option String
  fxName : Option String
deriving DecidableEq, Repr

/-- What an address alone determines (`:336-353`). -/
structure Located where
  sectionName : String
  table : String
  name : String
  patchTable : String
  valueName : String
  entry : Param
deriving DecidableEq, Repr

/-- `_label_for_raw` (`:403-409`). -/
def labelForRaw (values : List (String × Nat)) (raw : Nat) : Option String :=
  (values.find? fun x => x.2 == raw).map Prod.fst

/-- The raw value of a reply's data (`:356-360`). -/
def rawInt (e : Param) : RawValue → Except PyErr Nat
  | .int n => .ok n
  | .list data =>
    if 1 < e.bytes then .ok (unpackNibbles (data.take e.bytes))
    else match data with
      | b :: _ => .ok b
      | [] => .error .indexError

/-- The fx type whose name starts the option's, and `""` for an option of just that name
(`:368-372`). -/
def fxTypePrefix (fxTypes : List String) (name : String) : Option String × Option String :=
  fxTypes.foldl (fun acc i =>
    if startsWith name i then (some i, if name = i then some "" else acc.2) else acc) (none, none)

/-- The block id of an option of fx type `fxType` (`:375-382`). -/
def fxIdOf (fxType name : String) : Except PyErr String :=
  if fxType = "preamp" ∧ name = "preampA" then .ok "1"
  else if fxType = "preamp" ∧ name = "preampB" then .ok "2"
  else if fxType = "fx" then
    match name.toList[2]? with
    | some c => .ok (String.singleton c)
    | none => .error .indexError
  else .ok (removeAll name fxType)

/-- `fx_type`, `fx_id` and `fx_table_suffix` (`:363-384`). -/
def fxOf (fxTypes : List String) (name : String) :
    Except PyErr (Option String × Option String × Option String) :=
  match fxTypePrefix fxTypes name with
  | (none, _) => .ok (none, none, none)
  | (some fxType, found) => do
    let fxId ← (match found with
      | some fxId => .ok fxId
      | none => fxIdOf fxType name)
    let suffix :=
      if fxType = "fx" ∧ 3 < name.length then some (String.ofList (name.toList.drop 3)) else none
    return (some fxType, some fxId, suffix)

namespace AddressMap

variable (m : AddressMap)

/-- `decode` up to the entry (`:336-353`). -/
def locate (address : List Nat) : Option Located :=
  match address with
  | [a, b, c, d] =>
    (m.firstTwoBytes [a, b]).bind fun (sectionName, table) =>
    (m.offsetInPatchTables table).bind fun blocks =>
    (blocks c).bind fun (name, patchTable) =>
    (m.lastByteOption patchTable).bind fun settings =>
    (settings d).map fun (valueName, entry) => ⟨sectionName, table, name, patchTable, valueName, entry⟩
  | _ => none

/-- `decode` from the entry on (`:354-400`). -/
def decodeAt (l : Located) (value : RawValue) : Except PyErr DecodedValue := do
  let intValue ← rawInt l.entry value
  let (fxType, fxId, fxTableSuffix) ← fxOf m.fxTypes l.name
  return { sectionName := l.sectionName, table := l.table, name := l.name,
           patchTable := l.patchTable, valueName := l.valueName,
           strValue := labelForRaw l.entry.values intValue, intValue, fxType, fxId, fxTableSuffix,
           fxName := fxTableSuffix.bind fun suffix => tableSuffixToName.lookup suffix }

/-- `decode` (`:326-400`). -/
def decode (address : List Nat) (value : RawValue) : Except PyErr (Option DecodedValue) :=
  match m.locate address with
  | none => .ok none
  | some l => (m.decodeAt l value).map some

/-! What does not depend on the block counts. -/

section
variable (fxType : String) (count : Nat)

@[simp] theorem setFxBlockCount_addressFor :
    (m.setFxBlockCount fxType count).addressFor = m.addressFor := rfl
@[simp] theorem setFxBlockCount_settingEntry :
    (m.setFxBlockCount fxType count).settingEntry = m.settingEntry := rfl
@[simp] theorem setFxBlockCount_valueRange :
    (m.setFxBlockCount fxType count).valueRange = m.valueRange := rfl
@[simp] theorem setFxBlockCount_locate : (m.setFxBlockCount fxType count).locate = m.locate := rfl
@[simp] theorem setFxBlockCount_decode : (m.setFxBlockCount fxType count).decode = m.decode := rfl
@[simp] theorem setFxBlockCount_fxValueTable :
    (m.setFxBlockCount fxType count).fxValueTable = m.fxValueTable := rfl
@[simp] theorem setFxBlockCount_fxNameValueTable :
    (m.setFxBlockCount fxType count).fxNameValueTable = m.fxNameValueTable := rfl

end

end AddressMap

/-- `read_label` (`:411-417`). -/
def readLabel (valueTable : Table) (setting : String) (raw : Nat) : Except PyErr StrOrInt := do
  let e ← (← subscript (valueTable.find? setting)).param?
  return match labelForRaw e.values raw with
    | some label => .str label
    | none => .int raw

/-! ## Values by their names -/

/-- `_upperfirst` (`:451-461`): upper case up to the first letter; the names of the fx types are
ASCII. -/
def upperFirst (x : String) : String :=
  let chars := x.toList
  match chars.findIdx? Char.isAlpha with
  | some i => String.ofList ((chars.take (i + 1)).map Char.toUpper ++ chars.drop (i + 1))
  | none => String.ofList (chars.map Char.toUpper ++ chars)

/-- `fx_type_table_name` (`:463-464`). -/
def fxTypeTableName (fxType : String) : String := "Patch" ++ upperFirst fxType

/-- The four variants `types_for` leaves out (`:448`), which no container has an option
for (`constants.py:102-107`). -/
def bassVariants : List String :=
  ["DEFRETTER BASS", "OCTAVE BASS", "SLOW GEAR BASS", "TOUCH WAH BASS"]

namespace AddressMap

variable (m : AddressMap)

/-- `value_for` (`:419-434`). -/
def valueFor (fxType prop valueName : String) : Except PyErr (Option Nat) := do
  let table ← subscript (m.tables (fxTypeTableName fxType))
  match table.find? prop with
  | some (.param e) => return e.values.lookup valueName
  | _ => return none

/-- `types_for` (`:436-449`). -/
def typesFor (fxType : String) : Except PyErr (Option (List String)) :=
  if fxType = "ns" ∨ fxType = "delay" then .ok (some [])
  else match m.tables (fxTypeTableName fxType) with
    | none => .ok none
    | some table => do
      let e ← (← subscript (table.find? "TYPE")).param?
      return some ((e.values.map Prod.fst).filter fun x => x ∉ bassVariants)

end AddressMap

/-! ## The shipped map -/

/-- The block types of the facade (`gt1000.py:66-78`). -/
def fxTypes : List String :=
  ["comp", "dist", "preamp", "ns", "eq", "delay", "mstDelay", "chorus", "fx", "pedalFx", "reverb"]

/-- `AddressMap(self.fx_types)` on the shipped files. -/
def addressMap : AddressMap := .load fxTypes baseAddresses containers params

end Pygt1000
