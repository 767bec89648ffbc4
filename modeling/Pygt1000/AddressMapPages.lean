import Pygt1000.PdfSections

/-!
# An address map, from the pages to the spec file

An address map is a list of rows, each an address and the name and table that stand there
(`MapRow`). On the pages a row is a line with these two cells, in any spacing, and between the
rows stand page numbers, borders, headers, totals and the like (`Skipped`). From such lines
`parse_tables` takes the rows and nothing else, and `convert_to_json` reads from each what was
written (`map_extracted`); of two rows with one name the later one stays.
-/

namespace Pygt1000.PdfTables

/-! ## Rows -/

/-- Two digits of a byte. -/
def hexByte (b : Nat) : List Char :=
  let digit n := "0123456789ABCDEF".toList.getD n '0'
  [digit (b / 16), digit (b % 16)]

def hexCell (address : List Nat) : Cell := Text.unwords (address.map hexByte)

def Bytes (address : List Nat) : Prop := address ≠ [] ∧ ∀ b ∈ address, b < 256

structure MapRow where
  address : List Nat
  name : List Char
  table : List Char
deriving DecidableEq, Repr

def MapRow.cells (r : MapRow) : List Cell :=
  [hexCell r.address, r.name ++ ' ' :: '[' :: (r.table ++ [']'])]

/-- What the cells of a row can hold. -/
structure MapRow.Written (r : MapRow) : Prop where
  address : Bytes r.address
  name : Text.Tidy r.name ∧ r.name ≠ [] ∧ '|' ∉ r.name ∧ '[' ∉ r.name
  table : Text.Tidy r.table ∧ r.table ≠ [] ∧ '|' ∉ r.table ∧ '[' ∉ r.table ∧ ']' ∉ r.table

/-- What `convert_to_json` calls the row. -/
def MapRow.key (r : MapRow) : String := String.ofList (removeFrom "(*)".toList 0 r.name)

def MapRow.entry (r : MapRow) : SpecToJson.Entry :=
  let address := r.address.map Int.ofNat
  ⟨address, String.ofList (SpecToJson.canonicalTable r.table), SpecToJson.hexAddress address⟩

variable {r : MapRow} {b : Nat}

theorem hexDigits_read : ∀ high < 16, ∀ low < 16, let byte := hexByte (16 * high + low)
    Text.int? 16 byte = some (Int.ofNat (16 * high + low)) ∧ isHexByte byte = true ∧ Text.IsWord byte ∧
      '|' ∉ byte ∧ '#' ∉ byte := by
  decide +kernel

theorem hexByte_reads (b : Nat) (hb : b < 256) : Text.int? 16 (hexByte b) = some (Int.ofNat b) ∧
    isHexByte (hexByte b) = true ∧ Text.IsWord (hexByte b) ∧ '|' ∉ hexByte b ∧ '#' ∉ hexByte b := by
  have h := hexDigits_read (b / 16) (by omega) (b % 16) (by omega)
  rwa [Nat.div_add_mod] at h

theorem words_hexCell {address : List Nat} (h : ∀ b ∈ address, b < 256) :
    Text.words (hexCell address) = address.map hexByte := by
  refine Text.words_unwords fun w hw => ?_
  obtain ⟨b, hb, rfl⟩ := List.mem_map.1 hw
  exact (hexByte_reads b (h b hb)).2.2.1

theorem mem_unwords {ws : List (List Char)} {c : Char} (h : c ∈ Text.unwords ws) :
    c = ' ' ∨ ∃ w ∈ ws, c ∈ w := by
  induction ws with
  | nil => cases h
  | cons w ws ih =>
    by_cases hws : ws = []
    · subst hws
      exact .inr ⟨w, List.mem_cons_self, h⟩
    · rw [Text.unwords_cons hws] at h
      rcases List.mem_append.1 h with h | h
      · exact .inr ⟨w, List.mem_cons_self, h⟩
      · rcases List.mem_cons.1 h with rfl | h
        · exact .inl rfl
        · exact (ih h).imp_right fun ⟨w', hw', hc⟩ => ⟨w', List.mem_cons_of_mem w hw', hc⟩

theorem isCell_hexCell {address : List Nat} (h : Bytes address) : IsCell (hexCell address) := by
  refine ⟨Text.tidy_unwords fun w hw => ?_, fun hpipe => ?_⟩
  · obtain ⟨b, hb, rfl⟩ := List.mem_map.1 hw
    exact (hexByte_reads b (h.2 b hb)).2.2.1
  · rcases mem_unwords hpipe with hpipe | ⟨w, hw, hpipe⟩
    · exact absurd hpipe (by decide)
    · obtain ⟨b, hb, rfl⟩ := List.mem_map.1 hw
      exact (hexByte_reads b (h.2 b hb)).2.2.2.1 hpipe

namespace MapRow.Written

theorem isCell (h : r.Written) : ∀ c ∈ r.cells, IsCell c := by
  have haddress := isCell_hexCell h.address
  obtain ⟨hname, hne, hpipe, -⟩ := h.name
  obtain ⟨htable, hnet, hpipet, -, -⟩ := h.table
  have hbracket := (htable.concat (c := ']') hnet rfl).cons (c := '[') (by simp) rfl
  have hcell : IsCell (r.name ++ ' ' :: '[' :: (r.table ++ [']'])) := by
    refine ⟨hname.append hne hbracket (by simp), ?_⟩
    simp [hpipe, hpipet]
  simpa [MapRow.cells] using ⟨haddress, hcell⟩

theorem hexBytes_eq (h : r.Written) : isHexBytes (hexCell r.address) none = true := by
  have hmark : (hexCell r.address).dropWhile (· = '#') = hexCell r.address := by
    cases hcell : hexCell r.address with
    | nil => rfl
    | cons c t =>
      refine List.dropWhile_cons_of_neg ?_
      have hc : c ∈ hexCell r.address := hcell ▸ List.mem_cons_self
      rcases mem_unwords hc with rfl | ⟨w, hw, hmem⟩
      · decide
      · obtain ⟨b, hb, rfl⟩ := List.mem_map.1 hw
        have hhash := (hexByte_reads b (h.address.2 b hb)).2.2.2.2
        simpa using fun heq : c = '#' => hhash (heq ▸ hmem)
  have hwords := words_hexCell h.address.2
  have hall : (r.address.map hexByte).all isHexByte = true := by
    rw [List.all_map, List.all_eq_true]
    exact fun b hb => (hexByte_reads b (h.address.2 b hb)).2.1
  have hne : r.address.map hexByte ≠ [] := by simpa using h.address.1
  simp [isHexBytes, hmark, hwords, hall, h.address.1]

theorem kept (h : r.Written) : Kept r.cells := by
  have hfirst := h.hexBytes_eq
  have hbracket : '[' ∈ r.name ++ ' ' :: '[' :: (r.table ++ [']']) := by simp
  refine ⟨h.isCell, ?_, ?_, ?_, .inr (.inl hfirst)⟩
  · refine isFurniture_eq_false (List.mem_cons_of_mem _ List.mem_cons_self) hbracket (by decide) ?_
    intro hheader
    have hnone : ∀ c ∈ headerCells, '[' ∉ c := by decide
    exact hnone _ hheader hbracket
  · intro hmem
    rcases List.mem_cons.1 hmem with heq | hmem
    · rw [← heq] at hfirst
      exact absurd hfirst (by decide +kernel)
    · rw [← List.mem_singleton.1 hmem] at hbracket
      exact absurd hbracket (by decide)
  · intro heq
    rw [Option.some.inj heq] at hfirst
    exact absurd hfirst (by decide)

end MapRow.Written

/-! ## The converter -/

variable {rows : List MapRow}

theorem hexBytes_hexCell {address : List Nat} (h : ∀ b ∈ address, b < 256) :
    OptionsToJson.hexBytes (hexCell address) = .ok (address.map Int.ofNat) := by
  rw [OptionsToJson.hexBytes, words_hexCell h, Passes.mapM_eq_ok, List.forall₂_map_left_iff,
    List.forall₂_map_right_iff, List.forall₂_same]
  intro b hb
  rw [OptionsToJson.toInt, (hexByte_reads b (h b hb)).1]

/-- The second cell of a row, at its bracket. -/
theorem splitOn_reference (h : r.Written) :
    (r.name ++ ' ' :: '[' :: (r.table ++ [']'])).splitOn '[' = [r.name ++ [' '], r.table ++ [']']] := by
  have hname : '[' ∉ r.name ++ [' '] := by simp [h.name.2.2.2]
  have htable : '[' ∉ r.table ++ [']'] := by simp [h.table.2.2.2.1]
  rw [List.append_cons, List.splitOn_append_cons_self_of_not_mem hname,
    List.splitOn_eq_singleton htable]

/-- A row is read as what was written. -/
theorem convert_row (h : r.Written) (result : List (String × SpecToJson.Entry)) :
    SpecToJson.step result (formatRow r.cells) = .ok (Dict.set r.key r.entry result) := by
  have hcells := h.isCell
  have hcolumns : ((formatRow r.cells).toList.splitOn '|').length = 4 := by
    rw [splitOn_formatRow hcells]
    rfl
  have haddress : OptionsToJson.column 1 (formatRow r.cells).toList = hexCell r.address :=
    column_formatRow hcells (i := 0) (by simp [MapRow.cells])
  have hreference : OptionsToJson.column 2 (formatRow r.cells).toList =
      r.name ++ ' ' :: '[' :: (r.table ++ [']']) := column_formatRow hcells (i := 1) (by simp [MapRow.cells])
  have hname : Text.strip Text.isSpace (r.name ++ [' ']) = r.name := by
    rw [Text.strip_concat rfl, h.name.1.strip_eq]
  have htable : Text.strip (fun c => c = ']' || c = ' ') (r.table ++ [']']) = r.table := by
    rw [Text.strip_concat rfl]
    refine Text.strip_eq_of_imp (fun c hc hp => ?_) h.table.1.strip_eq
    have hne : c ≠ ']' := fun heq => h.table.2.2.2.2 (heq ▸ hc)
    obtain rfl : c = ' ' := by simpa [hne] using hp
    rfl
  rw [SpecToJson.step, stripLine_formatRow h.kept.ne_nil]
  dsimp only
  rw [hcolumns, if_neg (by omega), haddress, hexBytes_hexCell h.address.2, ok_bind, hreference,
    splitOn_reference h]
  dsimp only
  rw [hname, htable]
  rfl

/-- What the rows of an address map say together. -/
def assigned (rows : List MapRow) : List (String × SpecToJson.Entry) :=
  rows.foldl (fun result r => Dict.set r.key r.entry result) []

theorem convert_rows (h : ∀ r ∈ rows, r.Written) :
    SpecToJson.convertToJson (rows.map fun r => formatRow r.cells) = .ok (assigned rows) := by
  have hfrom : ∀ result, (rows.map fun r => formatRow r.cells).foldlM SpecToJson.step result =
      .ok (rows.foldl (fun result r => Dict.set r.key r.entry result) result) := by
    induction rows with
    | nil => exact fun result => rfl
    | cons r rows ih =>
      intro result
      rw [List.map_cons, List.foldlM_cons, convert_row (h r List.mem_cons_self), ok_bind,
        ih fun r' hr' => h r' (List.mem_cons_of_mem r hr')]
      rfl
  exact hfrom []

theorem assigned_of_nodup (h : (rows.map MapRow.key).Nodup) :
    assigned rows = rows.map fun r => (r.key, r.entry) := by
  induction rows using List.reverseRecOn with
  | nil => rfl
  | append_singleton rows r ih =>
    rw [List.map_append, List.nodup_append] at h
    have hfresh : r.key ∉ Dict.keys (assigned rows) := by
      rw [ih h.1, Dict.keys, List.map_map]
      exact fun hmem => h.2.2 _ hmem _ (List.mem_singleton_self _) rfl
    have hlast : assigned (rows ++ [r]) = Dict.set r.key r.entry (assigned rows) := by
      simp [assigned, List.foldl_append]
    rw [hlast, Dict.set_of_not_mem hfresh, ih h.1, List.map_append]
    rfl

theorem tableKind_rows (h : ∀ r ∈ rows, r.Written) (hne : rows ≠ []) :
    tableKind (rows.map fun r => formatRow r.cells) = .map := by
  cases rows with
  | nil => exact absurd rfl hne
  | cons r rows =>
    have hkept := (h r List.mem_cons_self).kept
    have hcells := splitCells_formatRow hkept.ne_nil hkept.isCell
    rw [List.map_cons, tableKind, hcells, if_pos]
    simp [MapRow.cells]

/-- **An address map comes out as it was written**: a section anywhere in the text, declared once,
whose lines hold the rows of an address map in any spacing, with anything between them that a table
skips, is extracted to a table that is taken for an address map, and whose rows convert to what they
say: an entry each, in their order, where the names differ. -/
theorem map_extracted {pre post : List String} {declared : List (List Char)} {head name : String}
    {lines : List String} (hhead : sectionNames? (Text.strip Text.isSpace head.toList) = some declared)
    (hname : name = String.ofList (canonicalName declared)) (hbase : name ≠ "base-addresses")
    (honce : Elsewhere name (pre ++ post)) (hpost : ∀ line ∈ post.head?, Ends line)
    (hlines : Laid lines (rows.map MapRow.cells)) (hrows : ∀ r ∈ rows, r.Written) (hne : rows ≠ []) :
    ∃ extracted, (parseTables (pre ++ head :: lines ++ post)).lookup name = some extracted ∧
      rowsToJson extracted (tableKind extracted) = some (.map (assigned rows)) ∧
      ((rows.map MapRow.key).Nodup → assigned rows = rows.map fun r => (r.key, r.entry)) := by
  refine ⟨rows.map fun r => formatRow r.cells, ?_, ?_, assigned_of_nodup⟩
  · rw [section_extracted hhead hname hbase honce hpost hlines (by simpa using hne), List.map_map]
    rfl
  · rw [tableKind_rows hrows hne, rowsToJson, convert_rows hrows]
    rfl

/-- Two blocks of a patch, with a page between them. -/
theorem map_extracted_patch :
    let rows : List MapRow := [⟨[0, 0x10, 0], "efct".toList, "PatchEfct".toList⟩,
      ⟨[0, 0x23, 0], "fx1(*)".toList, "PatchFx1".toList⟩]
    ∃ extracted, (parseTables (["3. Parameter address map"] ++ "* [Patch]" ::
          ["| Offset  | Description |", "|  00 10 00 | efct   [PatchEfct] |", "page 7", "|  :  |",
            "| 00 23 00 | fx1(*) [PatchFx1] |", "| 00 00 01 00 | Total Size |"] ++
          ["* [PatchEfct]"])).lookup "Patch" = some extracted ∧
      rowsToJson extracted (tableKind extracted) = some (.map (assigned rows)) ∧
      ((rows.map MapRow.key).Nodup → assigned rows = rows.map fun r => (r.key, r.entry)) := by
  intro rows
  have hefct : MapRow.Written ⟨[0, 0x10, 0], "efct".toList, "PatchEfct".toList⟩ :=
    ⟨⟨by decide, by decide⟩, by decide, by decide⟩
  have hfx : MapRow.Written ⟨[0, 0x23, 0], "fx1(*)".toList, "PatchFx1".toList⟩ :=
    ⟨⟨by decide, by decide⟩, by decide, by decide⟩
  have hrows : ∀ r ∈ rows, r.Written :=
    List.forall_mem_cons.2 ⟨hefct, List.forall_mem_cons.2 ⟨hfx, by simp⟩⟩
  have hhead : sectionNames? (Text.strip Text.isSpace "* [Patch]".toList) = some ["Patch".toList] := by
    decide
  refine map_extracted hhead (by decide) (by decide) (by decide +kernel) (by decide +kernel) ?_ hrows
    (by decide)
  refine .skip (.furniture rfl (by decide)) (.row rfl (by decide) hefct.kept ?_)
  refine .skip (.prose (by decide) (by decide) (by decide +kernel)) (.skip (.elision rfl (by decide)) ?_)
  exact .row rfl (by decide) hfx.kept (.skip (.furniture rfl (by decide)) .nil)

end Pygt1000.PdfTables
