import Pygt1000.ShippedMap

/-!
# The top-level blocks

`topBlocks` lists the blocks that carry an fx type: the id the scan records for them, where their
settings start, and the id `decode` gives them. It is checked against the tables and the code
that names blocks, in both directions; the lemmas then hold for every block and every setting of
its table.
-/

namespace Pygt1000

open Specs

structure TopBlock where
  fxType : String
  fxId : StrOrInt
  /-- Second and third byte of its addresses; the first is `10`. -/
  second : Nat
  third : Nat
  decodedId : String
deriving DecidableEq, Repr

def topBlocks : List TopBlock := [
  ⟨"comp", .str "", 0, 0x12, ""⟩,
  ⟨"dist", .int 1, 0, 0x13, "1"⟩,
  ⟨"dist", .int 2, 0, 0x14, "2"⟩,
  ⟨"preamp", .str "A", 0, 0x15, "1"⟩,
  ⟨"preamp", .str "B", 0, 0x16, "2"⟩,
  ⟨"ns", .int 1, 0, 0x17, "1"⟩,
  ⟨"ns", .int 2, 0, 0x18, "2"⟩,
  ⟨"eq", .int 1, 0, 0x19, "1"⟩,
  ⟨"eq", .int 2, 0, 0x1A, "2"⟩,
  ⟨"eq", .int 3, 0, 0x1B, "3"⟩,
  ⟨"eq", .int 4, 0, 0x1C, "4"⟩,
  ⟨"delay", .int 1, 0, 0x1D, "1"⟩,
  ⟨"delay", .int 2, 0, 0x1E, "2"⟩,
  ⟨"delay", .int 3, 0, 0x1F, "3"⟩,
  ⟨"delay", .int 4, 0, 0x20, "4"⟩,
  ⟨"mstDelay", .str "", 0, 0x21, ""⟩,
  ⟨"chorus", .str "", 0, 0x22, ""⟩,
  ⟨"fx", .int 1, 0, 0x23, "1"⟩,
  ⟨"fx", .int 2, 0, 0x3E, "2"⟩,
  ⟨"fx", .int 3, 0, 0x59, "3"⟩,
  ⟨"fx", .int 4, 2, 0x01, "4"⟩,
  ⟨"pedalFx", .str "", 0, 0x75, ""⟩,
  ⟨"reverb", .str "", 0, 0x74, ""⟩]

/-- The value table of each fx type. -/
def valueTables : List (String × String × List (String × Param)) := [
  ("comp", "PatchComp", patchComp), ("dist", "PatchDist", patchDist),
  ("preamp", "PatchPreamp", patchPreamp), ("ns", "PatchNs", patchNs), ("eq", "PatchEq", patchEq),
  ("delay", "PatchDelay", patchDelay), ("mstDelay", "PatchMstDelay", patchMstDelay),
  ("chorus", "PatchChorus", patchChorus), ("fx", "PatchFx", patchFx),
  ("pedalFx", "PatchPedalFx", patchPedalFx), ("reverb", "PatchReverb", patchReverb)]

namespace TopBlock

def sectionName (b : TopBlock) : String := AddressMap.startSection b.fxType b.fxId

def option (b : TopBlock) : String := b.fxType ++ b.fxId.toStr

def tableName (b : TopBlock) : String := ((valueTables.lookup b.fxType).map Prod.fst).getD ""

def table (b : TopBlock) : List (String × Param) := ((valueTables.lookup b.fxType).map Prod.snd).getD []

end TopBlock

/-! ## Checked against the tables -/

/-- Every block is found under its name. -/
theorem topBlocks_found : ∀ b ∈ topBlocks, ∃ container,
    addressMap.findOption b.sectionName b.option =
      .ok (some (⟨[0x10, b.second, 0, 0], container⟩, .ref ⟨[0, b.third, 0], b.tableName⟩)) := by
  have h : ∀ b ∈ topBlocks, addressMap.findOption b.sectionName b.option =
      .ok (some (⟨[0x10, b.second, 0, 0], if b.second = 0 then "Patch" else "Patch3"⟩,
        .ref ⟨[0, b.third, 0], b.tableName⟩)) := by decide
  exact fun b hb => ⟨_, h b hb⟩

theorem topBlocks_fxTypes : ∀ b ∈ topBlocks, b.fxType ∈ fxTypes := by decide

/-- `decode` gives every block its fx type and `decodedId`, from its name. -/
theorem topBlocks_fxOf : ∀ b ∈ topBlocks,
    fxOf fxTypes b.option = .ok (some b.fxType, some b.decodedId, none) := by decide

theorem valueTables_shipped : ∀ t ∈ valueTables, t.2 ∈ params := by
  simp [valueTables, params]

theorem topBlocks_table : ∀ b ∈ topBlocks, b.tableName ≠ "Assign" ∧ b.tableName ≠ "PatchFxDist" ∧
    b.tableName ≠ "PatchFxMasteringFx" ∧ b.tableName ≠ "PatchEfct" ∧
    (valueTables.lookup b.fxType).isSome := by decide

/-- The table a type's names are looked up in is the one its blocks have. -/
theorem fxTypeTableName_shipped : ∀ t ∈ valueTables, fxTypeTableName t.1 = t.2.1 := by decide

/-- The fx type and the table of each block that has an fx type, in the order of the tables. -/
def fxKeys : List (String × String) := [
  ("comp", "PatchComp"), ("dist", "PatchDist"), ("dist", "PatchDist"), ("preamp", "PatchPreamp"),
  ("preamp", "PatchPreamp"), ("ns", "PatchNs"), ("ns", "PatchNs"), ("eq", "PatchEq"),
  ("eq", "PatchEq"), ("eq", "PatchEq"), ("eq", "PatchEq"), ("delay", "PatchDelay"),
  ("delay", "PatchDelay"), ("delay", "PatchDelay"), ("delay", "PatchDelay"),
  ("mstDelay", "PatchMstDelay"), ("chorus", "PatchChorus"), ("fx", "PatchFx"), ("fx", "PatchFx"),
  ("fx", "PatchFx"), ("reverb", "PatchReverb"), ("pedalFx", "PatchPedalFx"), ("fx", "PatchFx")]

theorem fxKeys_shipped :
    ((containers.flatMap Prod.snd).map fun x => (fxTypeOfKey x.1, x.2.table)).filter
      (fun x => fxTypes.contains x.1) = fxKeys := by decide +kernel

theorem fxTables_valueTables : ∀ t ∈ valueTables, addressMap.fxTables t.1 = some t.2.1 := by
  have h : addressMap.fxTables = Index.index Prod.fst Prod.snd fxKeys := by
    rw [← fxKeys_shipped]
    exact AddressMap.load_fxTables ..
  rw [h]
  decide

/-- How many blocks each fx type has; the GT-1000CORE has three fx blocks. -/
def blockCounts : List (String × Nat) := [
  ("comp", 1), ("dist", 2), ("preamp", 2), ("ns", 2), ("eq", 4), ("delay", 4), ("mstDelay", 1),
  ("chorus", 1), ("fx", 4), ("fx", 3), ("pedalFx", 1), ("reverb", 1)]

theorem fxTypesCount_shipped : fxTypes.map addressMap.fxTypesCount =
    [some 1, some 2, some 2, some 2, some 4, some 4, some 1, some 1, some 4, some 1, some 1] := by
  have h : ∀ t ∈ fxTypes, addressMap.fxTypesCount t = some (fxKeys.countP fun x => x.1 == t) := by
    intro t ht
    rw [← fxKeys_shipped]
    exact AddressMap.load_fxTypesCount _ _ _ ht
  rw [List.map_congr_left h]
  decide

theorem fxBlockCount_fx : addressMap.fxBlockCount "fx" = .ok 4 := by
  have hc := fxTypesCount_shipped
  simp only [fxTypes, List.map_cons, List.map_nil, List.cons.injEq, and_true] at hc
  simp [AddressMap.fxBlockCount, hc]

/-- The blocks of a type with `count` of them, in address order. -/
def blocksOf (fxType : String) (count : Nat) : List TopBlock :=
  (topBlocks.filter fun b => b.fxType == fxType).take count

/-- Numbering the blocks from one and normalizing gives their ids, and normalizing again
changes nothing. -/
theorem blocksOf_normalized : ∀ t ∈ blockCounts,
    (List.range t.2).map (fun i : Nat => AddressMap.normalId t.2 t.1 (.int (i + 1))) =
      (blocksOf t.1 t.2).map (·.fxId) ∧
    (∀ b ∈ blocksOf t.1 t.2, AddressMap.normalId t.2 t.1 b.fxId = b.fxId) ∧
    ((blocksOf t.1 t.2).map fun b => b.fxId.toStr).Nodup := by decide

/-! ## The maps of the two models -/

/-- The shipped map, or the same after a GT-1000CORE identified itself (`gt1000.py:272-274`). -/
def Loaded (m : AddressMap) : Prop := m = addressMap ∨ m = addressMap.setFxBlockCount "fx" 3

section

variable {m : AddressMap} (hm : Loaded m)
include hm

theorem Loaded.tables_eq : m.tables = addressMap.tables := by
  rcases hm with rfl | rfl
  · rfl
  · rfl
theorem Loaded.addressFor_eq : m.addressFor = addressMap.addressFor := by
  rcases hm with rfl | rfl
  · rfl
  · exact addressMap.setFxBlockCount_addressFor "fx" 3
theorem Loaded.settingEntry_eq : m.settingEntry = addressMap.settingEntry := by
  rcases hm with rfl | rfl
  · rfl
  · exact addressMap.setFxBlockCount_settingEntry "fx" 3
theorem Loaded.valueRange_eq : m.valueRange = addressMap.valueRange := by
  rcases hm with rfl | rfl
  · rfl
  · exact addressMap.setFxBlockCount_valueRange "fx" 3
theorem Loaded.decode_eq : m.decode = addressMap.decode := by
  rcases hm with rfl | rfl
  · rfl
  · exact addressMap.setFxBlockCount_decode "fx" 3
theorem Loaded.locate_eq : m.locate = addressMap.locate := by
  rcases hm with rfl | rfl
  · rfl
  · exact addressMap.setFxBlockCount_locate "fx" 3
theorem Loaded.fxValueTable_eq : m.fxValueTable = addressMap.fxValueTable := by
  rcases hm with rfl | rfl
  · rfl
  · exact addressMap.setFxBlockCount_fxValueTable "fx" 3
theorem Loaded.fxNameValueTable_eq : m.fxNameValueTable = addressMap.fxNameValueTable := by
  rcases hm with rfl | rfl
  · rfl
  · exact addressMap.setFxBlockCount_fxNameValueTable "fx" 3

theorem Loaded.count {t : String} (ht : t ∈ fxTypes) :
    ∃ n, (t, n) ∈ blockCounts ∧ m.fxBlockCount t = .ok n := by
  have hc := fxTypesCount_shipped
  simp only [fxTypes, List.map_cons, List.map_nil, List.cons.injEq, and_true] at hc
  simp only [fxTypes, List.mem_cons, List.not_mem_nil, or_false] at ht
  rcases hm with rfl | rfl
  · rcases ht with rfl | rfl | rfl | rfl | rfl | rfl | rfl | rfl | rfl | rfl | rfl <;>
      simp [AddressMap.fxBlockCount, hc, blockCounts]
  · rcases ht with rfl | rfl | rfl | rfl | rfl | rfl | rfl | rfl | rfl | rfl | rfl <;>
      simp [AddressMap.fxBlockCount, AddressMap.setFxBlockCount, hc, blockCounts]

theorem Loaded.mem_fxTypes {t : String} {n : Nat} (hc : m.fxBlockCount t = .ok n) : t ∈ fxTypes := by
  by_contra ht
  have hnone : m.fxTypesCount t = none := by
    have hshipped : addressMap.fxTypesCount t = none := if_neg ht
    rcases hm with rfl | rfl
    · exact hshipped
    · have hne : t ≠ "fx" := fun heq => ht (heq ▸ by decide)
      simpa [AddressMap.setFxBlockCount, hne] using hshipped
  simp [AddressMap.fxBlockCount, hnone] at hc

end

end Pygt1000
