import Pygt1000.TopBlocks
import Pygt1000.Specs.ChainElements

/-!
# Loading the spec files (`address_map.py:119-154`)

`_import_specs_tables` goes over the files of a directory in the order the directory lists them, which
is no order in particular, and fills six registries as it goes. `AddressMap.load` says what they hold
in the end. Here the loop is the source's, file by file and key by key, and the two are brought
together: whatever the order, the loop ends with the registries of `load` (`import_eq_load`), as long
as the addresses and offsets it indexes have their first two bytes.

| here | there |
| --- | --- |
| `SpecFile`     | a file, under its name up to the first dot, with its parsed content |
| `importBlock`  | the loop over a container's keys (`:128-139`) |
| `importSection`, `importOption` | the loops over sections (`:141-143`) and options (`:146-152`) |
| `importFile`   | one turn of the loop over the files (`:122-154`) |
-/

namespace Pygt1000.SpecFiles

open Specs

/-- What a file holds: entries, or plain strings, as `ChainElement.json` does. -/
inductive Content where
  | table (table : Table)
  | names (entries : List (String × String))

structure SpecFile where
  name : String
  content : Content

/-- The registries while they are filled. -/
@[ext] structure Registries where
  tables : String → Option Content
  firstTwoBytes : List Nat → Option (String × String)
  offsetInPatchTables : String → Option (Nat → Option (String × String))
  lastByteOption : String → Option (Nat → Option (String × Param))
  fxTables : String → Option String
  fxTypesCount : String → Option Nat

def containerNames : List String := ["Patch", "Patch2", "Patch3"]

/-- The entries of a table whose `address` and `table` are read. -/
def Content.refs? : Content → Except PyErr (List (String × Ref))
  | .table (.refs entries) => .ok entries
  | .table (.params []) | .names [] => .ok []
  | .table (.params _) => .error .keyError
  | .names _ => .error .typeError

/-- The entries of a table whose `offset` is read. -/
def Content.params? : Content → Except PyErr (List (String × Param))
  | .table (.params entries) => .ok entries
  | .table (.refs []) | .names [] => .ok []
  | .table (.refs _) => .error .keyError
  | .names _ => .error .typeError

/-- `bytes[i]`. -/
def byteAt (bytes : List Nat) (i : Nat) : Except PyErr Nat :=
  match bytes[i]? with
  | some byte => .ok byte
  | none => .error .indexError

variable (fxTypes : List String)

/-- What a key of a container is entered for (`:129-139`), under the address byte `second`. -/
def enterBlock (name : String) (r : Registries) (second : Nat) (x : String × Ref) : Registries :=
  let block := (r.offsetInPatchTables name).map fun d => Function.update d second (some (x.1, x.2.table))
  let r := { r with offsetInPatchTables := Function.update r.offsetInPatchTables name block }
  let fxType := fxTypeOfKey x.1
  if fxTypes.contains fxType then
    { r with
      fxTypesCount := Function.update r.fxTypesCount fxType ((r.fxTypesCount fxType).map (· + 1))
      fxTables := Function.update r.fxTables fxType (some x.2.table) }
  else r

/-- A key of a container (`:128-139`). -/
def importBlock (name : String) (r : Registries) (x : String × Ref) : Except PyErr Registries := do
  return enterBlock fxTypes name r (← byteAt x.2.address 1) x

/-- A section of `base-addresses` (`:141-143`). -/
def importSection (d : List Nat → Option (String × String)) (x : String × Ref) :
    Except PyErr (List Nat → Option (String × String)) := do
  let msbs := [← byteAt x.2.address 0, ← byteAt x.2.address 1]
  return Function.update d msbs (some (x.1, x.2.table))

/-- An option of a table of parameters (`:146-152`). -/
def importOption (d : Nat → Option (String × Param)) (x : String × Param) :
    Except PyErr (Nat → Option (String × Param)) := do
  return Function.update d (← byteAt x.2.offset 1) (some x)

/-- A file (`:122-154`). -/
def importFile (r : Registries) (file : SpecFile) : Except PyErr Registries := do
  let r ←
    if file.name ∈ containerNames then do
      let blocks ← file.content.refs?
      let d := (r.offsetInPatchTables file.name).getD fun _ => none
      let r := { r with offsetInPatchTables := Function.update r.offsetInPatchTables file.name (some d) }
      blocks.foldlM (importBlock fxTypes file.name) r
    else if file.name = "base-addresses" then do
      let sections ← file.content.refs?
      pure { r with firstTwoBytes := ← sections.foldlM importSection r.firstTwoBytes }
    else if startsWith file.name "Patch" then do
      let table ← file.content.params?
      let d ← table.foldlM importOption fun _ => none
      pure { r with lastByteOption := Function.update r.lastByteOption file.name (some d) }
    else pure r
  return { r with tables := Function.update r.tables file.name (some file.content) }

/-- `_import_specs_tables` (`:119-154`), the files in the order they are listed. -/
def importSpecsTables (files : List SpecFile) : Except PyErr Registries :=
  files.foldlM (importFile fxTypes)
    ⟨fun _ => none, fun _ => none, fun _ => none, fun _ => none, fun _ => none,
      fun fxType => if fxType ∈ fxTypes then some 0 else none⟩

/-! ## What the loop ends with -/

def Content.refs : Content → List (String × Ref)
  | .table (.refs entries) => entries
  | _ => []

def Content.params : Content → List (String × Param)
  | .table (.params entries) => entries
  | _ => []

namespace SpecFile

def blocks (file : SpecFile) : List (String × Ref) :=
  if file.name ∈ containerNames then file.content.refs else []

/-- A table of parameters that `decode` uses. -/
def decoded (file : SpecFile) : Bool :=
  startsWith file.name "Patch" && !containerNames.contains file.name

/-- The content is of the kind that the name says, and gives the bytes the loop indexes. -/
structure Kinded (file : SpecFile) : Prop where
  refs : file.name ∈ containerNames ∨ file.name = "base-addresses" → file.content.refs? = .ok file.content.refs
  params : file.decoded = true → file.content.params? = .ok file.content.params
  addresses : file.name ∈ containerNames ∨ file.name = "base-addresses" →
    ∀ x ∈ file.content.refs, 2 ≤ x.2.address.length
  offsets : file.decoded = true → ∀ x ∈ file.content.params, 2 ≤ x.2.offset.length

end SpecFile

/-- The registries after some files. -/
def Registries.after (files : List SpecFile) : Registries where
  tables := Index.index SpecFile.name SpecFile.content files
  firstTwoBytes := Index.index (fun x => x.2.address.take 2) (fun x => (x.1, x.2.table))
    (files.flatMap fun file => if file.name = "base-addresses" then file.content.refs else [])
  offsetInPatchTables := fun name =>
    if name ∈ containerNames ∧ name ∈ files.map SpecFile.name then
      some (blockIndex (files.flatMap fun file => if file.name = name then file.content.refs else []))
    else none
  lastByteOption := Index.index SpecFile.name (fun file => settingIndex file.content.params)
    (files.filter SpecFile.decoded)
  fxTables := Index.index (fun x => fxTypeOfKey x.1) (fun x => x.2.table)
    ((files.flatMap SpecFile.blocks).filter fun x => fxTypes.contains (fxTypeOfKey x.1))
  fxTypesCount := fun fxType =>
    if fxType ∈ fxTypes then
      some ((files.flatMap SpecFile.blocks).countP fun x => fxTypeOfKey x.1 == fxType)
    else none

/-! ## The bytes that are there -/

theorem byteAt_eq {bytes : List Nat} {i : Nat} (h : i < bytes.length) :
    byteAt bytes i = .ok (bytes.getD i 0) := by
  simp [byteAt, h]

/-- A loop none of whose turns raises. -/
theorem foldlM_ok {σ α : Type} {f : σ → α → Except PyErr σ} {g : σ → α → σ} {xs : List α}
    (h : ∀ x ∈ xs, ∀ s, f s x = .ok (g s x)) (s : σ) : xs.foldlM f s = .ok (xs.foldl g s) := by
  induction xs generalizing s with
  | nil => rfl
  | cons x xs ih =>
    rw [List.foldlM_cons, h x List.mem_cons_self s, ok_bind, List.foldl_cons]
    exact ih (fun y hy => h y (List.mem_cons_of_mem x hy)) (g s x)

section

variable {x : String × Ref}

theorem importBlock_eq {name : String} (h : 2 ≤ x.2.address.length) (r : Registries) :
    importBlock fxTypes name r x = .ok (enterBlock fxTypes name r (x.2.addressByte 1) x) := by
  rw [importBlock, byteAt_eq h]
  rfl

theorem importSection_eq (h : 2 ≤ x.2.address.length) (d : List Nat → Option (String × String)) :
    importSection d x = .ok (Function.update d (x.2.address.take 2) (some (x.1, x.2.table))) := by
  obtain ⟨first, second, rest, haddress⟩ : ∃ first second rest, x.2.address = first :: second :: rest := by
    match haddress : x.2.address, h with
    | first :: second :: rest, _ => exact ⟨first, second, rest, rfl⟩
  rw [importSection, haddress]
  rfl

theorem importOption_eq {e : String × Param} (h : 2 ≤ e.2.offset.length) (d : Nat → Option (String × Param)) :
    importOption d e = .ok (Function.update d (e.2.offsetByte 1) (some e)) := by
  rw [importOption, byteAt_eq h]
  rfl

theorem importOptions_eq {table : List (String × Param)} (h : ∀ e ∈ table, 2 ≤ e.2.offset.length) :
    table.foldlM importOption (fun _ => none) = .ok (settingIndex table) :=
  foldlM_ok (fun e he d => importOption_eq (h e he) d) fun _ => none

end

/-! ## One file -/

/-- The keys of a container, one after the other. -/
theorem enterBlocks_eq {name : String} {r : Registries} {d : Nat → Option (String × String)}
    (hd : r.offsetInPatchTables name = some d) (blocks : List (String × Ref)) :
    blocks.foldl (fun r x => enterBlock fxTypes name r (x.2.addressByte 1) x) r =
      { r with
        offsetInPatchTables := Function.update r.offsetInPatchTables name (some (blocks.foldl
          (fun d x => Function.update d (x.2.addressByte 1) (some (x.1, x.2.table))) d))
        fxTables := (blocks.filter fun x => fxTypes.contains (fxTypeOfKey x.1)).foldl
          (fun d x => Function.update d (fxTypeOfKey x.1) (some x.2.table)) r.fxTables
        fxTypesCount := fun t => (r.fxTypesCount t).map
          (· + blocks.countP fun x => fxTypes.contains (fxTypeOfKey x.1) && fxTypeOfKey x.1 == t) } := by
  induction blocks generalizing r d with
  | nil =>
    refine Registries.ext rfl rfl ?_ rfl rfl ?_
    · simp [← hd]
    · funext t
      simp
  | cons x blocks ih =>
    have hx : (enterBlock fxTypes name r (x.2.addressByte 1) x).offsetInPatchTables name =
        some (Function.update d (x.2.addressByte 1) (some (x.1, x.2.table))) := by
      simp only [enterBlock]
      split <;> simp [hd]
    rw [List.foldl_cons, ih hx]
    by_cases ht : fxTypes.contains (fxTypeOfKey x.1) = true
    · have hfilter : (x :: blocks).filter (fun x => fxTypes.contains (fxTypeOfKey x.1)) =
          x :: blocks.filter fun x => fxTypes.contains (fxTypeOfKey x.1) := List.filter_cons_of_pos ht
      simp only [enterBlock, if_pos ht]
      refine Registries.ext rfl rfl ?_ rfl ?_ ?_
      · simp [Function.update_idem]
      · simp only [hfilter, List.foldl_cons]
      · funext t
        by_cases hx : fxTypeOfKey x.1 = t
        · subst hx
          cases hcount : r.fxTypesCount (fxTypeOfKey x.1) with
          | none => simp [hcount]
          | some n =>
            simp only [Function.update_self, hcount, Option.map_some, Option.some.injEq]
            rw [List.countP_cons_of_pos (by simpa using ht)]
            omega
        · simp [Function.update_of_ne (Ne.symm hx), hx]
    · have hfilter : (x :: blocks).filter (fun x => fxTypes.contains (fxTypeOfKey x.1)) =
          blocks.filter fun x => fxTypes.contains (fxTypeOfKey x.1) := List.filter_cons_of_neg ht
      simp only [enterBlock, if_neg ht]
      refine Registries.ext rfl rfl ?_ rfl ?_ ?_
      · simp [Function.update_idem]
      · simp only [hfilter]
      · funext t
        have hcount : fxTypeOfKey x.1 ∉ fxTypes := fun hmem => ht (List.contains_iff_mem.2 hmem)
        simp [hcount]

section

variable {fxTypes : List String} {files : List SpecFile} {file : SpecFile}

theorem offsets_other {name : String} (h : name ≠ file.name ∨ file.name ∉ containerNames) :
    (Registries.after fxTypes (files ++ [file])).offsetInPatchTables name =
      (Registries.after fxTypes files).offsetInPatchTables name := by
  simp only [Registries.after]
  by_cases hne : name = file.name
  · subst hne
    have hnot := h.resolve_left (not_not.2 rfl)
    rw [if_neg fun hc => hnot hc.1, if_neg fun hc => hnot hc.1]
  · simp [hne, Ne.symm hne]

/-- The blocks of a container join those under its name. -/
theorem offsets_self (h : file.name ∈ containerNames) :
    (Registries.after fxTypes (files ++ [file])).offsetInPatchTables file.name =
      some (file.content.refs.foldl
        (fun (d : Nat → Option (String × String)) x =>
          Function.update d (x.2.addressByte 1) (some (x.1, x.2.table)))
        (((Registries.after fxTypes files).offsetInPatchTables file.name).getD fun _ => none)) := by
  have hbefore : blockIndex (files.flatMap fun f => if f.name = file.name then f.content.refs else []) =
      ((Registries.after fxTypes files).offsetInPatchTables file.name).getD fun _ => none := by
    by_cases hmem : file.name ∈ files.map SpecFile.name
    · simp only [Registries.after, if_pos (And.intro h hmem), Option.getD_some]
    · have hnil : (files.flatMap fun f => if f.name = file.name then f.content.refs else []) = [] := by
        refine List.flatMap_eq_nil_iff.2 fun f hf => if_neg fun hname => hmem ?_
        exact List.mem_map.2 ⟨f, hf, hname⟩
      simp only [Registries.after, if_neg fun hc : _ ∧ _ => hmem hc.2, hnil, Option.getD_none]
      rfl
  simp only [Registries.after, List.flatMap_append, List.flatMap_cons, List.flatMap_nil, if_true]
  rw [if_pos ⟨h, by simp⟩, List.append_nil, blockIndex, Index.index_append]
  simp only [blockIndex] at hbefore
  rw [hbefore]
  rfl

theorem counts_concat (t : String) : (Registries.after fxTypes (files ++ [file])).fxTypesCount t =
    ((Registries.after fxTypes files).fxTypesCount t).map
      (· + file.blocks.countP fun x => fxTypes.contains (fxTypeOfKey x.1) && fxTypeOfKey x.1 == t) := by
  simp only [Registries.after]
  by_cases ht : t ∈ fxTypes
  · have hcount : (file.blocks.countP fun x => fxTypes.contains (fxTypeOfKey x.1) && fxTypeOfKey x.1 == t) =
        file.blocks.countP fun x => fxTypeOfKey x.1 == t := by
      refine List.countP_congr fun x _ => ?_
      by_cases hx : fxTypeOfKey x.1 = t
      · simp [hx, ht]
      · simp [hx]
    simp only [if_pos ht, Option.map_some, hcount, List.flatMap_append, List.flatMap_cons, List.flatMap_nil,
      List.append_nil, List.countP_append]
  · simp [if_neg ht]

theorem fxTables_concat : (Registries.after fxTypes (files ++ [file])).fxTables =
    (file.blocks.filter fun x => fxTypes.contains (fxTypeOfKey x.1)).foldl
      (fun d x => Function.update d (fxTypeOfKey x.1) (some x.2.table))
      (Registries.after fxTypes files).fxTables := by
  simp only [Registries.after, List.flatMap_append, List.flatMap_cons, List.flatMap_nil, List.append_nil,
    List.filter_append, Index.index_append]

theorem firstTwoBytes_concat : (Registries.after fxTypes (files ++ [file])).firstTwoBytes =
    (if file.name = "base-addresses" then file.content.refs else []).foldl
      (fun (d : List Nat → Option (String × String)) x =>
        Function.update d (x.2.address.take 2) (some (x.1, x.2.table)))
      (Registries.after fxTypes files).firstTwoBytes := by
  simp only [Registries.after, List.flatMap_append, List.flatMap_cons, List.flatMap_nil, List.append_nil,
    Index.index_append]

theorem lastByteOption_concat : (Registries.after fxTypes (files ++ [file])).lastByteOption =
    if file.decoded then
      Function.update (Registries.after fxTypes files).lastByteOption file.name
        (some (settingIndex file.content.params))
    else (Registries.after fxTypes files).lastByteOption := by
  simp only [Registries.after, List.filter_append]
  by_cases hd : file.decoded = true
  · rw [if_pos hd, List.filter_cons_of_pos hd, List.filter_nil, Index.index_concat]
  · rw [if_neg hd, List.filter_cons_of_neg hd, List.filter_nil, List.append_nil]

theorem tables_concat : (Registries.after fxTypes (files ++ [file])).tables =
    Function.update (Registries.after fxTypes files).tables file.name (some file.content) :=
  Index.index_concat file

/-- One file more. -/
theorem importFile_eq (hf : file.Kinded) : importFile fxTypes (.after fxTypes files) file =
    .ok (.after fxTypes (files ++ [file])) := by
  by_cases hc : file.name ∈ containerNames
  · have hblocks : file.blocks = file.content.refs := if_pos hc
    have hbase : file.name ≠ "base-addresses" := by
      rintro heq
      rw [heq] at hc
      exact absurd hc (by decide)
    have hdecoded : file.decoded = false := by simp [SpecFile.decoded, hc]
    simp only [importFile, if_pos hc, hf.refs (Or.inl hc), ok_bind, pure_eq_ok]
    rw [foldlM_ok fun x hx r => importBlock_eq fxTypes (hf.addresses (Or.inl hc) x hx) r, ok_bind,
      enterBlocks_eq fxTypes (Function.update_self ..)]
    refine congrArg Except.ok (Registries.ext tables_concat.symm ?_ ?_ ?_ ?_ ?_)
    · rw [firstTwoBytes_concat, if_neg hbase]
      rfl
    · funext name
      by_cases hname : name = file.name
      · rw [hname, offsets_self hc]
        simp
      · rw [offsets_other (Or.inl hname)]
        simp [Function.update_of_ne hname]
    · rw [lastByteOption_concat, hdecoded]
      rfl
    · rw [fxTables_concat, hblocks]
    · funext t
      rw [counts_concat, hblocks]
  · have hblocks : file.blocks = [] := if_neg hc
    have hsame : (Registries.after fxTypes (files ++ [file])).offsetInPatchTables =
          (Registries.after fxTypes files).offsetInPatchTables ∧
        (Registries.after fxTypes (files ++ [file])).fxTables = (Registries.after fxTypes files).fxTables ∧
        (Registries.after fxTypes (files ++ [file])).fxTypesCount =
          (Registries.after fxTypes files).fxTypesCount := by
      refine ⟨funext fun name => offsets_other (Or.inr hc), by rw [fxTables_concat, hblocks]; rfl, ?_⟩
      funext t
      rw [counts_concat, hblocks]
      simp
    obtain ⟨hoffsets, htables, hcounts⟩ := hsame
    by_cases hbase : file.name = "base-addresses"
    · have hdecoded : file.decoded = false := by
        rw [SpecFile.decoded, hbase]
        decide
      simp only [importFile, if_neg hc, if_pos hbase, hf.refs (Or.inr hbase), ok_bind, pure_eq_ok]
      rw [foldlM_ok fun x hx d => importSection_eq (hf.addresses (Or.inr hbase) x hx) d]
      simp only [ok_bind]
      refine congrArg Except.ok (Registries.ext tables_concat.symm ?_ hoffsets.symm ?_ htables.symm hcounts.symm)
      · rw [firstTwoBytes_concat, if_pos hbase]
      · rw [lastByteOption_concat, hdecoded]
        rfl
    · have hfirst : (Registries.after fxTypes (files ++ [file])).firstTwoBytes =
          (Registries.after fxTypes files).firstTwoBytes := by
        rw [firstTwoBytes_concat, if_neg hbase]
        rfl
      by_cases hpatch : startsWith file.name "Patch" = true
      · have hdecoded : file.decoded = true := by simp [SpecFile.decoded, hpatch, hc]
        simp only [importFile, if_neg hc, if_neg hbase, if_pos hpatch, hf.params hdecoded, ok_bind, pure_eq_ok]
        rw [importOptions_eq (hf.offsets hdecoded)]
        simp only [ok_bind]
        refine congrArg Except.ok
          (Registries.ext tables_concat.symm hfirst.symm hoffsets.symm ?_ htables.symm hcounts.symm)
        rw [lastByteOption_concat, if_pos hdecoded]
      · have hdecoded : ¬ file.decoded = true := by simp [SpecFile.decoded, hpatch]
        simp only [importFile, if_neg hc, if_neg hbase, if_neg hpatch, ok_bind, pure_eq_ok]
        refine congrArg Except.ok
          (Registries.ext tables_concat.symm hfirst.symm hoffsets.symm ?_ htables.symm hcounts.symm)
        rw [lastByteOption_concat, if_neg hdecoded]

/-- The loop over the files. -/
theorem importSpecsTables_eq (hfiles : ∀ file ∈ files, file.Kinded) :
    importSpecsTables fxTypes files = .ok (.after fxTypes files) := by
  induction files using List.reverseRecOn with
  | nil =>
    refine congrArg Except.ok (Registries.ext rfl rfl ?_ rfl rfl ?_)
    · funext name
      simp [Registries.after]
    · funext t
      simp [Registries.after]
  | append_singleton files file ih =>
    have hinit := ih fun f hf => hfiles f (List.mem_append_left _ hf)
    unfold importSpecsTables at hinit ⊢
    rw [List.foldlM_append, hinit, ok_bind, List.foldlM_cons,
      importFile_eq (hfiles file (List.mem_append_right _ List.mem_cons_self)), ok_bind]
    rfl

end

/-! ## The order of the files -/

section

variable {fxTypes : List String} {files files' : List SpecFile}

theorem flatMap_absent {β : Type*} (g : SpecFile → List β) {name : String}
    (h : name ∉ files.map SpecFile.name) :
    (files.flatMap fun file => if file.name = name then g file else []) = [] :=
  List.flatMap_eq_nil_iff.2 fun file hfile => if_neg fun heq => h (List.mem_map.2 ⟨file, hfile, heq⟩)

/-- At most one file has the name, so its entries come in their own order. -/
theorem flatMap_named {β : Type*} (g : SpecFile → List β) {file : SpecFile} (hfile : file ∈ files)
    (hn : (files.map SpecFile.name).Nodup) :
    (files.flatMap fun f => if f.name = file.name then g f else []) = g file := by
  induction files with
  | nil => cases hfile
  | cons f files ih =>
    obtain ⟨hf, hn⟩ := List.nodup_cons.1 hn
    rw [List.flatMap_cons]
    rcases List.mem_cons.1 hfile with rfl | hmem
    · rw [if_pos rfl, flatMap_absent g hf, List.append_nil]
    · have hne : f.name ≠ file.name := fun heq => hf (heq ▸ List.mem_map_of_mem hmem)
      rw [if_neg hne, List.nil_append, ih hmem hn]

theorem flatMap_named_perm {β : Type*} (g : SpecFile → List β) (name : String) (h : files.Perm files')
    (hn : (files.map SpecFile.name).Nodup) :
    (files.flatMap fun f => if f.name = name then g f else []) =
      files'.flatMap fun f => if f.name = name then g f else [] := by
  by_cases hmem : name ∈ files.map SpecFile.name
  · obtain ⟨file, hfile, rfl⟩ := List.mem_map.1 hmem
    rw [flatMap_named g hfile hn, flatMap_named g (h.mem_iff.1 hfile) ((h.map _).nodup_iff.1 hn)]
  · rw [flatMap_absent g hmem, flatMap_absent g fun hmem' => hmem ((h.map SpecFile.name).mem_iff.2 hmem')]

/-- Blocks of one fx type have one table. -/
def OneTable (fxTypes : List String) (blocks : List (String × Ref)) : Prop :=
  ∀ x ∈ blocks, ∀ y ∈ blocks, fxTypeOfKey x.1 ∈ fxTypes → fxTypeOfKey x.1 = fxTypeOfKey y.1 →
    x.2.table = y.2.table

/-- The registries do not depend on the order. -/
theorem after_perm (h : files.Perm files') (hn : (files.map SpecFile.name).Nodup)
    (hone : OneTable fxTypes (files.flatMap SpecFile.blocks)) :
    Registries.after fxTypes files = Registries.after fxTypes files' := by
  have hsame {β : Type} (val : SpecFile → β) (l : List SpecFile) (hl : ∀ f ∈ l, f ∈ files) :
      ∀ x ∈ l, ∀ y ∈ l, x.name = y.name → val x = val y :=
    fun x hx y hy heq => congrArg val (List.inj_on_of_nodup_map hn (hl x hx) (hl y hy) heq)
  have hflat := h.flatMap_right SpecFile.blocks
  refine Registries.ext (Index.index_perm h (hsame _ _ fun _ hf => hf)) ?_ ?_ ?_ ?_ ?_
  · simp only [Registries.after]
    rw [flatMap_named_perm (fun f => f.content.refs) "base-addresses" h hn]
  · funext name
    simp only [Registries.after, (h.map SpecFile.name).mem_iff]
    rw [flatMap_named_perm (fun f => f.content.refs) name h hn]
  · exact Index.index_perm (h.filter _) (hsame _ _ fun _ hf => (List.mem_filter.1 hf).1)
  · refine Index.index_perm (hflat.filter _) fun x hx y hy heq => ?_
    obtain ⟨hx, hfx⟩ := List.mem_filter.1 hx
    exact hone x hx y (List.mem_filter.1 hy).1 (List.contains_iff_mem.1 hfx) heq
  · funext t
    simp only [Registries.after]
    rw [hflat.countP_eq]

end

/-! ## The directory -/

/-- The tables of the directory. -/
structure Directory where
  baseAddresses : List (String × Ref)
  containers : List (String × List (String × Ref))
  params : List (String × List (String × Param))
  chainElement : List (String × String)

namespace Directory

variable (dir : Directory)

def chainFile : SpecFile := ⟨"ChainElement", .names dir.chainElement⟩

def baseFile : SpecFile := ⟨"base-addresses", .table (.refs dir.baseAddresses)⟩

def containerFile (f : String × List (String × Ref)) : SpecFile := ⟨f.1, .table (.refs f.2)⟩

def paramFile (f : String × List (String × Param)) : SpecFile := ⟨f.1, .table (.params f.2)⟩

/-- Its files, in one order. -/
def files : List SpecFile :=
  dir.chainFile :: dir.baseFile :: (dir.containers.map containerFile ++ dir.params.map paramFile)

def load (fxTypes : List String) : AddressMap :=
  .load fxTypes dir.baseAddresses dir.containers dir.params

structure WellFormed (fxTypes : List String) : Prop where
  names : (dir.files.map SpecFile.name).Nodup
  container : ∀ f ∈ dir.containers, f.1 ∈ containerNames
  param : ∀ f ∈ dir.params, f.1 ∉ containerNames
  sectionBytes : ∀ x ∈ dir.baseAddresses, 2 ≤ x.2.address.length
  blockBytes : ∀ f ∈ dir.containers, ∀ x ∈ f.2, 2 ≤ x.2.address.length
  offsetBytes : ∀ f ∈ dir.params, startsWith f.1 "Patch" = true → ∀ x ∈ f.2, 2 ≤ x.2.offset.length
  oneTable : OneTable fxTypes (dir.containers.flatMap Prod.snd)

/-- The registries are those of the map, whose `tables` leaves out the two files that are no tables an
address goes through. -/
structure Loads (r : Registries) (m : AddressMap) : Prop where
  baseAddresses : r.tables "base-addresses" = some (.table (.refs m.baseAddresses))
  chainElement : r.tables "ChainElement" = some (.names dir.chainElement)
  tables : ∀ name, name ≠ "base-addresses" → name ≠ "ChainElement" →
    r.tables name = (m.tables name).map .table
  firstTwoBytes : r.firstTwoBytes = m.firstTwoBytes
  offsetInPatchTables : r.offsetInPatchTables = m.offsetInPatchTables
  lastByteOption : r.lastByteOption = m.lastByteOption
  fxTables : r.fxTables = m.fxTables
  fxTypesCount : r.fxTypesCount = m.fxTypesCount

end Directory

section

variable {dir : Directory} {fxTypes : List String}

theorem other_names : "ChainElement" ∉ containerNames ∧ "base-addresses" ∉ containerNames ∧
    "base-addresses" ≠ "ChainElement" ∧ startsWith "ChainElement" "Patch" = false ∧
    startsWith "base-addresses" "Patch" = false := by decide

namespace Directory

theorem mem_files {file : SpecFile} : file ∈ dir.files ↔ file = dir.chainFile ∨ file = dir.baseFile ∨
    (∃ f ∈ dir.containers, containerFile f = file) ∨ ∃ f ∈ dir.params, paramFile f = file := by
  simp [files]

theorem chainFile_mem : dir.chainFile ∈ dir.files := mem_files.2 (Or.inl rfl)

theorem baseFile_mem : dir.baseFile ∈ dir.files := mem_files.2 (Or.inr (Or.inl rfl))

theorem WellFormed.param_ne (h : dir.WellFormed fxTypes) {f : String × List (String × Param)}
    (hf : f ∈ dir.params) : f.1 ≠ "ChainElement" ∧ f.1 ≠ "base-addresses" := by
  have hmem : f.1 ∈ (dir.containers.map containerFile ++ dir.params.map paramFile).map SpecFile.name :=
    List.mem_map.2 ⟨paramFile f, List.mem_append_right _ (List.mem_map_of_mem hf), rfl⟩
  obtain ⟨hchain, hrest⟩ := List.nodup_cons.1 h.names
  obtain ⟨hbase, -⟩ := List.nodup_cons.1 hrest
  constructor
  · intro heq
    rw [heq] at hmem
    exact hchain (List.mem_cons_of_mem _ hmem)
  · intro heq
    rw [heq] at hmem
    exact hbase hmem

theorem WellFormed.kinded (h : dir.WellFormed fxTypes) : ∀ file ∈ dir.files, file.Kinded := by
  obtain ⟨hchain, hbase, hne, hpatch, hpatch'⟩ := other_names
  intro file hfile
  rcases mem_files.1 hfile with rfl | rfl | ⟨f, hf, rfl⟩ | ⟨f, hf, rfl⟩
  · have hnot : ¬ (dir.chainFile.name ∈ containerNames ∨ dir.chainFile.name = "base-addresses") :=
      not_or.2 ⟨hchain, Ne.symm hne⟩
    have hdecoded : dir.chainFile.decoded ≠ true := by simp [SpecFile.decoded, chainFile, hpatch]
    exact ⟨fun hname => absurd hname hnot, fun hd => absurd hd hdecoded,
      fun hname => absurd hname hnot, fun hd => absurd hd hdecoded⟩
  · have hdecoded : dir.baseFile.decoded ≠ true := by simp [SpecFile.decoded, baseFile, hpatch']
    exact ⟨fun _ => rfl, fun hd => absurd hd hdecoded, fun _ => h.sectionBytes, fun hd => absurd hd hdecoded⟩
  · have hdecoded : (containerFile f).decoded ≠ true := by
      simp [SpecFile.decoded, containerFile, h.container f hf]
    exact ⟨fun _ => rfl, fun hd => absurd hd hdecoded, fun _ => h.blockBytes f hf, fun hd => absurd hd hdecoded⟩
  · have hnot : ¬ ((paramFile f).name ∈ containerNames ∨ (paramFile f).name = "base-addresses") :=
      not_or.2 ⟨h.param f hf, (h.param_ne hf).2⟩
    exact ⟨fun hname => absurd hname hnot, fun _ => rfl, fun hname => absurd hname hnot,
      fun hd => h.offsetBytes f hf (Bool.and_eq_true_iff.1 hd).1⟩

theorem WellFormed.blocks_eq (h : dir.WellFormed fxTypes) :
    dir.files.flatMap SpecFile.blocks = dir.containers.flatMap Prod.snd := by
  obtain ⟨hchain, hbase, -⟩ := other_names
  have hcontainers : (dir.containers.map containerFile).flatMap SpecFile.blocks =
      dir.containers.flatMap Prod.snd := by
    rw [List.flatMap_map]
    exact List.flatMap_congr fun f hf => if_pos (h.container f hf)
  have hparams : (dir.params.map paramFile).flatMap SpecFile.blocks = [] := by
    refine List.flatMap_eq_nil_iff.2 fun file hfile => ?_
    obtain ⟨f, hf, rfl⟩ := List.mem_map.1 hfile
    exact if_neg (h.param f hf)
  have hchainFile : dir.chainFile.blocks = [] := if_neg hchain
  have hbaseFile : dir.baseFile.blocks = [] := if_neg hbase
  simp [files, hcontainers, hparams, hchainFile, hbaseFile]

theorem WellFormed.decoded_eq (h : dir.WellFormed fxTypes) :
    dir.files.filter SpecFile.decoded = (dir.params.filter fun f => startsWith f.1 "Patch").map paramFile := by
  obtain ⟨-, -, -, hpatch, hpatch'⟩ := other_names
  have hcontainers : (dir.containers.map containerFile).filter SpecFile.decoded = [] := by
    refine List.filter_eq_nil_iff.2 fun file hfile => ?_
    obtain ⟨f, hf, rfl⟩ := List.mem_map.1 hfile
    simp [SpecFile.decoded, containerFile, h.container f hf]
  have hparams : (dir.params.map paramFile).filter SpecFile.decoded =
      (dir.params.filter fun f => startsWith f.1 "Patch").map paramFile := by
    rw [List.filter_map]
    refine congrArg _ (List.filter_congr fun f hf => ?_)
    simp [SpecFile.decoded, paramFile, h.param f hf]
  have hchainFile : dir.chainFile.decoded = false := by simp [SpecFile.decoded, chainFile, hpatch]
  have hbaseFile : dir.baseFile.decoded = false := by simp [SpecFile.decoded, baseFile, hpatch']
  simp [files, hcontainers, hparams, hchainFile, hbaseFile]

/-- A file is found under its name. -/
theorem WellFormed.tables_eq (h : dir.WellFormed fxTypes) {file : SpecFile} (hfile : file ∈ dir.files) :
    (Registries.after fxTypes dir.files).tables file.name = some file.content :=
  Index.index_unique hfile fun _ hf heq => List.inj_on_of_nodup_map h.names hf hfile heq

theorem WellFormed.offsets_eq (h : dir.WellFormed fxTypes) :
    (Registries.after fxTypes dir.files).offsetInPatchTables = (dir.load fxTypes).offsetInPatchTables := by
  funext name
  by_cases hmem : ∃ f ∈ dir.containers, f.1 = name
  · obtain ⟨f, hf, rfl⟩ := hmem
    have hfile : containerFile f ∈ dir.files := mem_files.2 (Or.inr (Or.inr (Or.inl ⟨f, hf, rfl⟩)))
    have hflat := flatMap_named (fun file => file.content.refs) hfile h.names
    have hfound : (dir.load fxTypes).offsetInPatchTables f.1 = some (blockIndex f.2) :=
      Index.index_unique (x := f) hf fun y hy heq => by
        have hsame : containerFile y = containerFile f := List.inj_on_of_nodup_map h.names
          (mem_files.2 (Or.inr (Or.inr (Or.inl ⟨y, hy, rfl⟩)))) hfile heq
        simp only [containerFile, SpecFile.mk.injEq, Content.table.injEq, Table.refs.injEq] at hsame
        exact Prod.ext hsame.1 hsame.2
    simp only [Registries.after]
    rw [if_pos ⟨h.container f hf, List.mem_map.2 ⟨_, hfile, rfl⟩⟩, hfound]
    exact congrArg (fun l => some (blockIndex l)) hflat
  · have hnone : (dir.load fxTypes).offsetInPatchTables name = none :=
      Index.index_eq_none fun f hf heq => hmem ⟨f, hf, heq⟩
    rw [hnone]
    refine if_neg ?_
    rintro ⟨hcontainer, hname⟩
    obtain ⟨file, hfile, rfl⟩ := List.mem_map.1 hname
    obtain ⟨hchain, hbase, -⟩ := other_names
    rcases mem_files.1 hfile with rfl | rfl | ⟨f, hf, rfl⟩ | ⟨f, hf, rfl⟩
    · exact hchain hcontainer
    · exact hbase hcontainer
    · exact hmem ⟨f, hf, rfl⟩
    · exact h.param f hf hcontainer

/-- In the order of `files`, the registries are those of `load`. -/
theorem WellFormed.loads (h : dir.WellFormed fxTypes) :
    dir.Loads (.after fxTypes dir.files) (dir.load fxTypes) where
  baseAddresses := h.tables_eq baseFile_mem
  chainElement := h.tables_eq chainFile_mem
  tables name hb hc := by
    have hfiles : dir.containers.map containerFile ++ dir.params.map paramFile =
        (dir.containers.map (Prod.map id Table.refs) ++ dir.params.map (Prod.map id Table.params)).map
          fun x => ⟨x.1, .table x.2⟩ := by
      simp only [List.map_append, List.map_map]
      rfl
    simp only [Registries.after, files]
    rw [Index.index_cons_of_ne (Ne.symm hc), Index.index_cons_of_ne (Ne.symm hb), hfiles, Index.index_map]
    exact (Index.map_index Content.table name).symm
  firstTwoBytes := by
    have hflat := flatMap_named (fun file => file.content.refs) baseFile_mem h.names
    exact congrArg _ hflat
  offsetInPatchTables := h.offsets_eq
  lastByteOption := by
    simp only [Registries.after, h.decoded_eq, Index.index_map]
    rfl
  fxTables := by
    simp only [Registries.after, h.blocks_eq]
    rfl
  fxTypesCount := by
    simp only [Registries.after, h.blocks_eq]
    rfl

end Directory

/-- **The order in which the directory lists its files does not matter**: the loop ends with the
registries of `load`. -/
theorem import_eq_load (h : dir.WellFormed fxTypes) {files : List SpecFile} (hfiles : files.Perm dir.files) :
    ∃ r, importSpecsTables fxTypes files = .ok r ∧ dir.Loads r (dir.load fxTypes) := by
  have hn : (files.map SpecFile.name).Nodup := (hfiles.map SpecFile.name).nodup_iff.2 h.names
  have hone : OneTable fxTypes (files.flatMap SpecFile.blocks) := by
    have hflat := hfiles.flatMap_right SpecFile.blocks
    rw [h.blocks_eq] at hflat
    exact fun x hx y hy => h.oneTable x (hflat.mem_iff.1 hx) y (hflat.mem_iff.1 hy)
  refine ⟨.after fxTypes files, importSpecsTables_eq fun file hfile => h.kinded file (hfiles.mem_iff.1 hfile), ?_⟩
  rw [after_perm hfiles hn hone]
  exact h.loads

end

/-- The directory that is shipped. -/
def shipped : Directory := ⟨baseAddresses, containers, params, chainElement⟩

theorem shipped_names : (shipped.files.map SpecFile.name).Nodup := by decide +kernel

theorem shipped_tables : ∀ x ∈ containers.flatMap Prod.snd, fxTypeOfKey x.1 ∈ Pygt1000.fxTypes →
    (valueTables.lookup (fxTypeOfKey x.1)).map Prod.fst = some x.2.table := by decide +kernel

theorem shipped_wellFormed : shipped.WellFormed Pygt1000.fxTypes where
  names := shipped_names
  container := by decide
  param := by decide
  sectionBytes := by decide +kernel
  blockBytes := by decide +kernel
  offsetBytes := by decide +kernel
  oneTable x hx y hy ht heq := by
    have hxt := shipped_tables x hx ht
    have hyt := shipped_tables y hy (heq ▸ ht)
    rw [heq] at hxt
    exact Option.some.inj (hxt.symm.trans hyt)

/-- The shipped files, the last one first. -/
theorem import_shipped_reversed : ∃ r, importSpecsTables Pygt1000.fxTypes shipped.files.reverse = .ok r ∧
    shipped.Loads r addressMap :=
  import_eq_load shipped_wellFormed (List.reverse_perm _)

end Pygt1000.SpecFiles
