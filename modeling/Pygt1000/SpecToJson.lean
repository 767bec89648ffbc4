import Pygt1000.Basic
import Pygt1000.Lib.Dict
import Pygt1000.Lib.Passes
import Pygt1000.Lib.Replace
import Pygt1000.OptionsToJson

/-!
# From the address maps to the spec files (`scripts/spec-to-json.py`)

| here | there |
| --- | --- |
| `hexAddress`      | `hex_address` (`spec-to-json.py:25-26`) |
| `instances`, `canonicalTable` | the replacements in a table's name (`:33-37`) |
| `step`            | the body of the loop (`:10-40`) |
| `convertToJson`   | `convert_to_json` |
-/

namespace Pygt1000.SpecToJson

/-- What an address map says of a name. -/
structure Entry where
  address : List Int
  table : String
  hexAddress : String
deriving DecidableEq, Repr

/-- `hex(x)`. -/
def hex (x : Int) : List Char :=
  (if x < 0 then ['-'] else []) ++ '0' :: 'x' :: Nat.toDigits 16 x.natAbs

/-- `"[{}]".format(", ".join(hex(x) for x in address))` (`:26`). -/
def hexAddress (address : List Int) : String :=
  String.ofList ('[' :: ((address.map hex).intersperse ", ".toList).flatten ++ [']'])

/-- A name of a table with the mark of its instance, and the name the instances share, in the order
of the replacements (`:33-37`). -/
def instances : List (List Char × List Char) :=
  (['1', '2', '3', '4'].flatMap fun i =>
    ["Dist", "Ns", "Eq", "Fx", "Delay"].map fun effect =>
      ("Patch".toList ++ effect.toList ++ [i], "Patch".toList ++ effect.toList)) ++
  ['A', 'B'].map fun i => ("PatchPreamp".toList ++ [i], "PatchPreamp".toList)

def canonicalTable (table : List Char) : List Char :=
  instances.foldl (fun table x => Text.replace x.1 x.2 table) table

/-- The body of the loop (`:10-40`). -/
def step (result : List (String × Entry)) (line : String) : Except PyErr (List (String × Entry)) :=
  let line := OptionsToJson.stripLine line
  if (line.splitOn '|').length < 3 then .ok result
  else do
    let address ← OptionsToJson.hexBytes (OptionsToJson.column 1 line)
    match (OptionsToJson.column 2 line).splitOn '[' with
    | [name, table] =>
      let name := removeFrom "(*)".toList 0 (Text.strip Text.isSpace name)
      let table := canonicalTable (Text.strip (fun c => c = ']' || c = ' ') table)
      return Dict.set (String.ofList name) ⟨address, String.ofList table, hexAddress address⟩ result
    | _ => .error .valueError

/-- `convert_to_json` (`:8-42`). -/
def convertToJson (data : List String) : Except PyErr (List (String × Entry)) := data.foldlM step []

end Pygt1000.SpecToJson
