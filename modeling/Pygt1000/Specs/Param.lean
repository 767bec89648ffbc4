import Pygt1000.Specs.Labels

/-!
# Entries of the spec tables

| here | there |
| --- | --- |
| `Ref`   | an entry of `base-addresses.json`, `Patch.json`, `Patch2.json` or `Patch3.json` |
| `Param` | an entry of any other table: one parameter |

A table is a list of named entries in file order. `hex_address`, which repeats `address` for a
human reader, is left out: nothing reads it.
-/

namespace Pygt1000.Specs

/-- Where a section or a block starts, and the table that describes what is there. -/
structure Ref where
  address : List Nat
  table : String
deriving DecidableEq, Repr

structure Param where
  offset : List Nat
  /-- Usually the two bounds; one number for a parameter with a fixed value. -/
  valueRange : List Nat
  /-- `entry.get("bytes", 1)`, as every reader of it has it (`address_map.py:247, :301, :356`). -/
  bytes : Nat
  values : List (String × Nat)
deriving DecidableEq, Repr

/-- The offset's byte `i`; the tables give two. -/
def Param.offsetByte (e : Param) (i : Nat) : Nat := e.offset.getD i 0

/-- The address's byte `i`; sections give four, blocks three. -/
def Ref.addressByte (r : Ref) (i : Nat) : Nat := r.address.getD i 0

end Pygt1000.Specs
