import Pygt1000.AddressMapPages
import Pygt1000.Lib.Numerals
import Pygt1000.ValueLists

/-!
# A parameter table, from the pages to the spec file

A parameter is a named row with its range, before it the rows of a field of several addresses
where it is one, and after it the lines that list its values (`Param`). On the pages these rows are
lines in any spacing, with page numbers, borders and headers between them, and an ellipsis may stand
in the middle of a list. `parse_tables` and `process_data` make of them what the parameters say
(`params_extracted`), under two conditions on the names: no two parameters share one, and the first
value of a list is not a span.
-/

namespace Pygt1000.PdfTables

open OptionsToJson

/-- A row after a named one: values, separated by commas, or an ellipsis. -/
inductive ListRow where
  | items (cell : Cell)
  | ellipsis
deriving DecidableEq, Repr

def ListRow.cells : ListRow → List Cell
  | .items cell => [[], [], cell]
  | .ellipsis => [[':'], [], []]

/-- The values a row lists. -/
def ListRow.values : ListRow → List String
  | .items cell => ((cell.splitOn ',').map (Text.strip Text.isSpace)).filterMap fun item =>
      if item = [] then none else some (String.ofList item)
  | .ellipsis => []

structure Param where
  /-- The rows of the addresses before the last, with what stands in the second column. -/
  opening : List (List Nat × Cell)
  offset : List Nat
  bits : Cell
  name : List Char
  range : List Nat
  lists : List ListRow
deriving DecidableEq, Repr

def openingCells : List (List Nat × Cell) → List (List Cell)
  | [] => []
  | (start, bits) :: rest =>
    ['#' :: ' ' :: hexCell start, bits, []] :: rest.map fun x => [hexCell x.1, x.2, []]

/-- `lo - hi`. -/
def rangeText : List Nat → List Char
  | [] => []
  | [n] => Nat.toDigits 10 n
  | n :: ns => Nat.toDigits 10 n ++ ' ' :: '-' :: ' ' :: rangeText ns

def Param.namedCells (p : Param) : List Cell :=
  [hexCell p.offset, p.bits, p.name ++ ' ' :: '(' :: (rangeText p.range ++ [')'])]

def Param.rows (p : Param) : List (List Cell) :=
  openingCells p.opening ++ p.namedCells :: p.lists.map ListRow.cells

def Param.values (p : Param) : List String := p.lists.flatMap ListRow.values

/-- The key of the parameter's entry. -/
def Param.key (p : Param) : String := storedName (String.ofList p.name)

/-- What the named row stores. -/
def Param.stored (p : Param) : OptionsToJson.Entry where
  offset := ((p.opening.head?.map Prod.fst).getD p.offset).map Int.ofNat
  valueRange := p.range.map Int.ofNat
  bytes := if p.opening = [] then none else some (p.opening.length + 1)
  values := []

/-- What the table says of the parameter. -/
def Param.entry (p : Param) : OptionsToJson.Entry :=
  { p.stored with values := number (p.range.headD 0 : Nat) p.values }

/-- What the rows of a parameter can hold. -/
structure Param.Written (p : Param) : Prop where
  offset : Bytes p.offset
  opening : ∀ x ∈ p.opening, Bytes x.1
  consecutive : ∀ x ∈ p.opening.head?,
    BigEndian.value 256 p.offset = BigEndian.value 256 x.1 + p.opening.length
  name : Text.Tidy p.name ∧ p.key ≠ ""
  range : p.range ≠ []
  lists : ∀ cell, .items cell ∈ p.lists → (formatRow [[], [], cell]) ∉ shorthands ∧ cell ≠ "[ms]".toList
  values : p.values.Nodup ∧ ∀ item ∈ p.values.head?, spanShaped item = false

/-! ## Reading the rows -/

variable {address : List Nat} {cells : List Cell} {cell bits last : Cell} {p : Param}

theorem hexByte_first (b : Nat) (hb : b < 256) : ∃ c d, hexByte b = [c, d] ∧ c ∉ ['#', ':', '|'] := by
  have h : ∀ high < 16, "0123456789ABCDEF".toList.getD high '0' ∉ ['#', ':', '|'] := by decide
  exact ⟨_, _, rfl, h (b / 16) (by omega)⟩

/-- An address begins with a digit. -/
theorem hexCell_first (ha : Bytes address) : ∃ c t, hexCell address = c :: t ∧ c ∉ ['#', ':', '|'] := by
  obtain ⟨b, rest, rfl⟩ := List.exists_cons_of_ne_nil ha.1
  obtain ⟨c, d, hbyte, hc⟩ := hexByte_first b (ha.2 b List.mem_cons_self)
  rw [hexCell, List.map_cons, hbyte, Text.unwords_cons_cons]
  exact ⟨c, _, rfl, hc⟩

/-- A row that begins with an address is neither a field's first nor part of a list. -/
theorem readLine_address (ha : Bytes address) (opened : Bool)
    (hcells : ∀ c ∈ [hexCell address, bits, last], IsCell c) :
    readLine opened (formatRow [hexCell address, bits, last]) =
      OptionsToJson.readRow (formatRow [hexCell address, bits, last]).toList := by
  have hcolumns : 3 < ((formatRow [hexCell address, bits, last]).toList.splitOn '|').length := by
    rw [splitOn_formatRow hcells]
    simp
  obtain ⟨c, t, hcell, hc⟩ := hexCell_first ha
  simp only [List.mem_cons, List.not_mem_nil, or_false, not_or] at hc
  have hline : (formatRow [hexCell address, bits, last]).toList =
      '|' :: ' ' :: c :: (t ++ [' ', '|'] ++ formatCell bits ++ formatCell last) := by
    rw [toList_formatRow, hcell]
    simp [formatCell, hc.1]
  have hmarker : ¬ "|# ".toList <+: (formatRow [hexCell address, bits, last]).toList := by
    rw [hline]
    simp
  have hellipsis : ¬ "| : | | |".toList <+: (formatRow [hexCell address, bits, last]).toList := by
    rw [hline]
    simp [Ne.symm hc.2.1]
  have hlist : ¬ "| | |".toList <+: (formatRow [hexCell address, bits, last]).toList := by
    rw [hline]
    simp [Ne.symm hc.2.2]
  have hpipe : "|".toList <+: (formatRow [hexCell address, bits, last]).toList := by
    rw [hline]
    exact ⟨_, rfl⟩
  rw [readLine, stripLine_formatRow (List.cons_ne_nil _ _)]
  dsimp only
  rw [if_neg hmarker, if_neg hellipsis, if_neg fun h => hlist h.2, if_pos ⟨hpipe, hcolumns⟩]

theorem isCell_nil : IsCell [] := by decide

/-- A row without a name. -/
theorem readLine_nameless (ha : Bytes address) (opened : Bool) (hbits : IsCell bits) :
    readLine opened (formatRow [hexCell address, bits, []]) = .ok .other := by
  have hcells : ∀ c ∈ [hexCell address, bits, []], IsCell c := by
    simp [isCell_hexCell ha, hbits, isCell_nil]
  rw [readLine_address ha opened hcells, OptionsToJson.readRow, column_formatRow hcells (i := 0) (by simp),
    column_formatRow hcells (i := 2) (by simp)]
  simp only [List.getElem_cons_zero, List.getElem_cons_succ, hexBytes_hexCell ha.2, ok_bind, Text.splitLast]
  rfl

/-- The first row of a field. -/
theorem readLine_marker (ha : Bytes address) (opened : Bool) (hbits : IsCell bits) :
    readLine opened (formatRow ['#' :: ' ' :: hexCell address, bits, []]) =
      .ok (.marker (address.map Int.ofNat)) := by
  have haddress := isCell_hexCell ha
  obtain ⟨c, t, hcell, -⟩ := hexCell_first ha
  have hmark : IsCell ('#' :: ' ' :: hexCell address) := by
    have htidy : Text.Tidy ("#".toList ++ ' ' :: hexCell address) :=
      Text.Tidy.append (by decide) (by decide) haddress.1 (by simp [hcell])
    exact ⟨htidy, by simp [haddress.2]⟩
  have hcells : ∀ c ∈ ['#' :: ' ' :: hexCell address, bits, []], IsCell c := by
    simp [hmark, hbits, isCell_nil]
  have hmarker : "|# ".toList <+: (formatRow ['#' :: ' ' :: hexCell address, bits, []]).toList := by
    rw [toList_formatRow]
    exact ⟨_, rfl⟩
  have hdrop : ('#' :: ' ' :: hexCell address).dropWhile (· = '#') = ' ' :: hexCell address := rfl
  rw [readLine, stripLine_formatRow (List.cons_ne_nil _ _)]
  dsimp only
  rw [if_pos hmarker, column_formatRow hcells (i := 0) (by simp), List.getElem_cons_zero, hdrop,
    Text.strip_cons rfl, haddress.1.strip_eq, hexBytes_hexCell ha.2, map_ok]

theorem readLine_ellipsis (opened : Bool) : readLine opened (formatRow ListRow.ellipsis.cells) = .ok .other := by
  cases opened <;> decide

/-! ## The range of a named row -/

variable {ns : List Nat}

theorem mem_rangeText {c : Char} (h : c ∈ rangeText ns) : c = ' ' ∨ c = '-' ∨ ∃ d < 10, c = Nat.digitChar d := by
  induction ns with
  | nil => cases h
  | cons n ns ih =>
    cases ns with
    | nil => exact .inr (.inr (Text.digits_toDigits n c h))
    | cons m ns =>
      simp only [rangeText, List.mem_append, List.mem_cons] at h
      rcases h with h | h | h | h | h
      · exact .inr (.inr (Text.digits_toDigits n c h))
      · exact .inl h
      · exact .inr (.inl h)
      · exact .inl h
      · exact ih h

theorem not_mem_rangeText {c : Char} (hc : c ∉ [' ', '-']) (hdigit : ∀ d < 10, c ≠ Nat.digitChar d) :
    c ∉ rangeText ns := by
  intro h
  simp only [List.mem_cons, List.not_mem_nil, or_false, not_or] at hc
  rcases mem_rangeText h with h | h | ⟨d, hd, h⟩
  · exact hc.1 h
  · exact hc.2 h
  · exact hdigit d hd h

theorem toInt_padded {lead trail : List Char} (n : Nat) (hlead : lead ∈ [[], [' ']])
    (htrail : trail ∈ [[], [' ']]) : toInt 10 (lead ++ Nat.toDigits 10 n ++ trail) = .ok (n : Int) := by
  have hstrip := Text.strip_digits (Text.digits_toDigits n)
  have hread : Text.int? 10 (lead ++ Nat.toDigits 10 n ++ trail) = some (n : Int) := by
    refine Text.int?_of_strip ?_
    have hspace : Text.isAsciiSpace (Text.toAscii ' ') = true := rfl
    simp only [List.mem_cons, List.not_mem_nil, or_false] at hlead htrail
    rw [List.map_append, List.map_append]
    rcases hlead with rfl | rfl <;> rcases htrail with rfl | rfl <;>
      simp only [List.map_nil, List.map_cons, List.nil_append, List.append_nil, List.cons_append,
        Text.strip_cons hspace, Text.strip_concat hspace, hstrip]
  rw [toInt, hread]

/-- The numbers of a range, read one by one. -/
theorem mapM_rangeText (hne : ns ≠ []) {lead : List Char} (hlead : lead ∈ [[], [' ']]) :
    ((lead ++ rangeText ns).splitOn '-').mapM (toInt 10) = .ok (ns.map Int.ofNat) := by
  have hdash : ∀ d < 10, '-' ≠ Nat.digitChar d := by decide
  have hdigits : ∀ n, '-' ∉ Nat.toDigits 10 n := fun n hmem => by
    obtain ⟨d, hd, heq⟩ := Text.digits_toDigits n _ hmem
    exact hdash d hd heq
  have hfree : '-' ∉ lead := by
    simp only [List.mem_cons, List.not_mem_nil, or_false] at hlead
    rcases hlead with rfl | rfl <;> decide
  induction ns generalizing lead with
  | nil => exact absurd rfl hne
  | cons n ns ih =>
    cases ns with
    | nil =>
      have hread : toInt 10 (lead ++ Nat.toDigits 10 n ++ []) = .ok (n : Int) :=
        toInt_padded n hlead (by simp)
      rw [List.append_nil] at hread
      rw [rangeText, List.splitOn_eq_singleton (by simp [hfree, hdigits]), List.mapM_cons, hread]
      rfl
    | cons m ns =>
      have hpart : '-' ∉ lead ++ Nat.toDigits 10 n ++ [' '] := by simp [hfree, hdigits]
      have hsplit : lead ++ rangeText (n :: m :: ns) =
          lead ++ Nat.toDigits 10 n ++ [' '] ++ '-' :: ([' '] ++ rangeText (m :: ns)) := by
        simp [rangeText]
      rw [hsplit, List.splitOn_append_cons_self_of_not_mem hpart, List.mapM_cons,
        toInt_padded n hlead (by simp), ok_bind, ih (by simp) (by simp) (by simp)]
      rfl

theorem parseValueRange_rangeText (hne : ns ≠ []) :
    parseValueRange (rangeText ns ++ [')']) = .ok (ns.map Int.ofNat) := by
  have hopen : '(' ∉ rangeText ns := not_mem_rangeText (by decide) (by decide)
  have hclose : ')' ∉ rangeText ns := not_mem_rangeText (by decide) (by decide)
  have hstrip : Text.strip (fun c => c = '(' || c = ')') (rangeText ns ++ [')']) = rangeText ns := by
    rw [Text.strip_concat rfl]
    refine Text.strip_eq_self fun c hc => ?_
    have hne : c ≠ '(' ∧ c ≠ ')' := ⟨fun heq => hopen (heq ▸ hc), fun heq => hclose (heq ▸ hc)⟩
    simp [hne]
  rw [parseValueRange, hstrip]
  have hmem : [] ∈ [[], [' ']] := List.mem_cons_self
  exact mapM_rangeText hne hmem

/-- The named row. -/
theorem readLine_named (h : p.Written) (opened : Bool) (hcells : ∀ c ∈ p.namedCells, IsCell c) :
    readLine opened (formatRow p.namedCells) =
      .ok (.row ⟨String.ofList p.name, p.offset.map Int.ofNat, p.range.map Int.ofNat⟩) := by
  have hparen : '(' ∉ rangeText p.range ++ [')'] := by
    have hrange : '(' ∉ rangeText p.range := not_mem_rangeText (by decide) (by decide)
    simp [hrange]
  have hsplit : Text.splitLast '(' (p.name ++ ' ' :: '(' :: (rangeText p.range ++ [')'])) =
      some (p.name ++ [' '], rangeText p.range ++ [')']) := by
    rw [List.append_cons, Text.splitLast_append hparen]
  have hname : Text.strip Text.isSpace (p.name ++ [' ']) = p.name := by
    rw [Text.strip_concat rfl, h.name.1.strip_eq]
  have hoffset : column 1 (formatRow p.namedCells).toList = hexCell p.offset :=
    column_formatRow hcells (i := 0) (by simp [Param.namedCells])
  have htext : column 3 (formatRow p.namedCells).toList =
      p.name ++ ' ' :: '(' :: (rangeText p.range ++ [')']) :=
    column_formatRow hcells (i := 2) (by simp [Param.namedCells])
  rw [Param.namedCells, readLine_address h.offset opened hcells, ← Param.namedCells,
    OptionsToJson.readRow, hoffset, htext, hexBytes_hexCell h.offset.2, ok_bind, hsplit]
  dsimp only
  rw [parseValueRange_rangeText h.range, ok_bind, hname]
  rfl

/-! ## The lists -/

theorem isCell_items (hcell : IsCell cell) : ∀ c ∈ [[], [], cell], IsCell c := by
  simp [hcell, isCell_nil]

theorem map_strip_padded (cell : Cell) : ((padded cell).splitOn ',').map (Text.strip Text.isSpace) =
    (cell.splitOn ',').map (Text.strip Text.isSpace) := by
  have hspace : Text.isSpace ' ' = true := rfl
  unfold padded
  split
  · rfl
  · rw [Text.strip_splitOn_concat hspace (by decide)]
  · rw [List.cons_append, Text.strip_splitOn_cons hspace (by decide),
      Text.strip_splitOn_concat hspace (by decide)]

theorem lineItems_items (hcell : IsCell cell) :
    lineItems (formatRow [[], [], cell]) = (ListRow.items cell).values := by
  rw [lineItems, stripLine_formatRow (List.cons_ne_nil _ _), optionsOf,
    splitOn_formatRow (isCell_items hcell)]
  simp only [List.map_cons, List.getD_cons_succ, List.map_nil, List.cons_append, List.getD_cons_zero,
    map_strip_padded, ListRow.values]

/-- A row of values. -/
theorem readLine_items (hcell : IsCell cell) (hwritten : formatRow [[], [], cell] ∉ shorthands)
    (hunit : cell ≠ "[ms]".toList) :
    readLine true (formatRow [[], [], cell]) = .ok (.options (ListRow.items cell).values) := by
  have hline := stripLine_formatRow (List.cons_ne_nil [] [[], cell])
  rw [← lineItems_items hcell]
  refine readLine_continuation ⟨?_, fun x hx heq => ?_, ?_⟩
  · rw [hline, toList_formatRow]
    exact ⟨_, rfl⟩
  · rw [hline] at heq
    exact hwritten (String.toList_inj.1 heq ▸ hx)
  · rw [hline, column_formatRow (isCell_items hcell) (i := 2) (by simp)]
    exact hunit

/-! ## A parameter -/

variable {s : OptionsToJson.State} {result : List (String × OptionsToJson.Entry)} {ps : List Param}

theorem step_other {row : String} (h : readLine s.opened row = .ok .other) :
    OptionsToJson.step s row = .ok s := by
  rw [OptionsToJson.step, h, ok_bind]
  rfl

/-- The rows before the named one. -/
theorem opening_pass (h : ∀ x ∈ p.opening, Bytes x.1)
    (hcells : ∀ cells ∈ openingCells p.opening, ∀ c ∈ cells, IsCell c) (hs : s.pendingStart = none) :
    ((openingCells p.opening).map formatRow).foldlM OptionsToJson.step s =
      .ok { s with pendingStart := p.opening.head?.map fun x => x.1.map Int.ofNat } := by
  cases hopening : p.opening with
  | nil =>
    rw [List.head?_nil, Option.map_none, ← hs]
    rfl
  | cons x rest =>
    rw [hopening] at h hcells
    have hcell : ∀ cells ∈ openingCells (x :: rest), ∀ hlen : 1 < cells.length, IsCell cells[1] :=
      fun cells hmem hlen => hcells cells hmem _ (List.getElem_mem hlen)
    have hrest : ∀ (ys : List (List Nat × Cell)) (s : OptionsToJson.State),
        (∀ y ∈ ys, Bytes y.1 ∧ IsCell y.2) →
        ((ys.map fun y => [hexCell y.1, y.2, []]).map formatRow).foldlM OptionsToJson.step s = .ok s := by
      intro ys
      induction ys with
      | nil => exact fun s _ => rfl
      | cons y ys ih =>
        intro s hys
        obtain ⟨hbytes, hbits⟩ := hys y List.mem_cons_self
        rw [List.map_cons, List.map_cons, List.foldlM_cons,
          step_other (readLine_nameless hbytes s.opened hbits)]
        exact ih s fun y hy => hys y (List.mem_cons_of_mem _ hy)
    have hbits : IsCell x.2 := hcell _ List.mem_cons_self (by simp)
    rw [openingCells, List.map_cons, List.foldlM_cons, OptionsToJson.step,
      readLine_marker (h x List.mem_cons_self) s.opened hbits, ok_bind]
    refine hrest rest _ fun y hy => ⟨h y (List.mem_cons_of_mem _ hy), ?_⟩
    exact hcell _ (List.mem_cons_of_mem _ (List.mem_map_of_mem hy)) (by simp)

theorem offsetToInt_bytes (h : Bytes address) :
    offsetToInt (address.map Int.ofNat) = .ok (BigEndian.value 256 address) := by
  have hbytes : ∀ b ∈ address.map Int.ofNat, 0 ≤ b ∧ b < 256 := by
    intro b hb
    obtain ⟨n, hn, rfl⟩ := List.mem_map.1 hb
    have := h.2 n hn
    exact ⟨by simp, by simpa using this⟩
  have hback : (address.map Int.ofNat).map Int.toNat = address := by
    rw [List.map_map]
    exact List.map_id address
  rw [offsetToInt, if_pos hbytes, hback]

/-- What the named row stores. -/
theorem newEntry_named (h : p.Written) :
    newEntry (p.opening.head?.map fun x => x.1.map Int.ofNat)
        ⟨String.ofList p.name, p.offset.map Int.ofNat, p.range.map Int.ofNat⟩ =
      .ok p.stored := by
  cases hopening : p.opening with
  | nil => simp [newEntry, Param.stored, hopening]
  | cons x rest =>
    have hx : Bytes x.1 := h.opening x (by simp [hopening])
    have hvalue := h.consecutive x (by simp [hopening])
    rw [List.head?_cons, Option.map_some, newEntry, offsetToInt_bytes h.offset, offsetToInt_bytes hx,
      ok_bind, ok_bind, hvalue]
    simp only [Param.stored, hopening]
    simp

/-- The rows of the list, after the named one. -/
theorem lists_rows_pass {key : String} {range : List Int} {e : OptionsToJson.Entry} {lists : List ListRow}
    (hfresh : key ∉ Dict.keys result) (hkey : key ≠ "") (hs : s.result = result ++ [(key, e)])
    (hcurrent : s.current = some (key, range))
    (hcells : ∀ cells ∈ lists.map ListRow.cells, ∀ c ∈ cells, IsCell c)
    (hlists : ∀ cell, .items cell ∈ lists → formatRow [[], [], cell] ∉ shorthands ∧ cell ≠ "[ms]".toList) :
    ((lists.map ListRow.cells).map formatRow).foldlM OptionsToJson.step s =
      .ok { s with
        result := result ++ [(key, { e with
          values := assign (range.headD 0 + s.offset) e.values (lists.flatMap ListRow.values) })]
        offset := s.offset + (lists.flatMap ListRow.values).length } := by
  have hopen : ∀ {s : OptionsToJson.State}, s.current = some (key, range) → s.opened = true :=
    fun hc => opened_iff.2 ⟨key, range, hc, hkey⟩
  induction lists generalizing s e with
  | nil =>
    rw [List.map_nil, List.map_nil, List.foldlM_nil, List.flatMap_nil, assign, ← hs]
    rfl
  | cons row lists ih =>
    have hcells' := fun cells hmem => hcells cells (List.mem_cons_of_mem row.cells hmem)
    have hlists' := fun cell hmem => hlists cell (List.mem_cons_of_mem row hmem)
    rw [List.map_cons, List.map_cons, List.foldlM_cons]
    cases row with
    | ellipsis =>
      rw [step_other (readLine_ellipsis s.opened)]
      exact ih hs hcurrent hcells' hlists'
    | items cell =>
      obtain ⟨hwritten, hunit⟩ := hlists cell List.mem_cons_self
      have hcell : IsCell cell := hcells _ List.mem_cons_self cell (by simp [ListRow.cells])
      have hread := readLine_items hcell hwritten hunit
      rw [← hopen hcurrent] at hread
      rw [ListRow.cells, OptionsToJson.step, hread, ok_bind]
      have hresult : (storeOptions s (ListRow.items cell).values).result =
          result ++ [(key, { e with
            values := assign (range.headD 0 + s.offset) e.values (ListRow.items cell).values })] := by
        simp only [storeOptions, hcurrent, hs]
        exact Dict.modify_concat _ hfresh
      have hafter := ih hresult (by simp [storeOptions, hcurrent]) hcells' hlists'
      refine hafter.trans ?_
      simp [storeOptions, hcurrent, assign_append, Int.add_assoc, Nat.add_assoc]

theorem isCell_rows (h : ∀ cells ∈ p.rows, Kept cells) :
    (∀ cells ∈ openingCells p.opening, ∀ c ∈ cells, IsCell c) ∧ (∀ c ∈ p.namedCells, IsCell c) ∧
      ∀ cells ∈ p.lists.map ListRow.cells, ∀ c ∈ cells, IsCell c := by
  simp only [Param.rows, List.mem_append, List.mem_cons] at h
  exact ⟨fun cells hmem => (h cells (.inl hmem)).isCell, (h _ (.inr (.inl rfl))).isCell,
    fun cells hmem => (h cells (.inr (.inr hmem))).isCell⟩

/-- The rows of a parameter add its entry. -/
theorem rows_pass (h : p.Written) (hkept : ∀ cells ∈ p.rows, Kept cells) (hs : s.pendingStart = none)
    (hfresh : p.key ∉ Dict.keys s.result) :
    ∃ t, (p.rows.map formatRow).foldlM OptionsToJson.step s = .ok t ∧
      t.result = s.result ++ [(p.key, p.entry)] ∧ t.pendingStart = none := by
  obtain ⟨hopening, hnamed, hlists⟩ := isCell_rows hkept
  let pending : OptionsToJson.State :=
    { s with pendingStart := p.opening.head?.map fun x => x.1.map Int.ofNat }
  let row : Row := ⟨String.ofList p.name, p.offset.map Int.ofNat, p.range.map Int.ofNat⟩
  have hkey : pending.keyOf row = p.key := if_neg hfresh
  have hstored : OptionsToJson.step pending (formatRow p.namedCells) =
      .ok (pending.withRow row p.stored) := by
    rw [OptionsToJson.step, readLine_named h pending.opened hnamed, ok_bind]
    dsimp only
    rw [storeRow, newEntry_named h]
    rfl
  have hresult : (pending.withRow row p.stored).result =
      s.result ++ [(p.key, p.stored)] := by
    rw [withRow_result, hkey]
    exact Dict.set_of_not_mem hfresh
  have hcurrent : (pending.withRow row p.stored).current =
      some (p.key, p.range.map Int.ofNat) := by rw [withRow_current, hkey]
  have hlisted := lists_rows_pass hfresh h.name.2 hresult hcurrent hlists h.lists
  have hall := Passes.append.2
    ⟨_, opening_pass h.opening hopening hs, Passes.cons.2 ⟨_, hstored, hlisted⟩⟩
  rw [← List.map_cons, ← List.map_append, ← Param.rows] at hall
  have hvalues : assign ((p.range.map Int.ofNat).headD 0) [] p.values = p.entry.values := by
    rw [assign_eq_append h.values.1 (fun x _ => by simp [Dict.keys])]
    cases hrange : p.range with
    | nil => exact absurd hrange h.range
    | cons n ns => simp [Param.entry, hrange]
  refine ⟨_, hall, ?_, rfl⟩
  simp only [withRow_offset, Int.ofNat_zero, Int.add_zero]
  rw [← Param.values, Param.stored, hvalues]
  rfl

theorem params_pass (h : ∀ p ∈ ps, p.Written) (hkept : ∀ cells ∈ ps.flatMap Param.rows, Kept cells)
    (hkeys : (Dict.keys s.result ++ ps.map Param.key).Nodup) (hs : s.pendingStart = none) :
    ∃ t, ((ps.flatMap Param.rows).map formatRow).foldlM OptionsToJson.step s = .ok t ∧
      t.result = s.result ++ ps.map fun p => (p.key, p.entry) := by
  induction ps generalizing s with
  | nil => exact ⟨s, rfl, (List.append_nil _).symm⟩
  | cons p ps ih =>
    have hfresh : p.key ∉ Dict.keys s.result := fun hmem =>
      (List.nodup_append.1 hkeys).2.2 _ hmem _ List.mem_cons_self rfl
    obtain ⟨u, hu, hresult, hpending⟩ := rows_pass (h p List.mem_cons_self)
      (fun cells hmem => hkept cells (List.mem_append_left _ hmem)) hs hfresh
    have hkeys' : (Dict.keys u.result ++ ps.map Param.key).Nodup := by
      rw [hresult, Dict.keys, List.map_append, List.append_assoc]
      exact hkeys
    obtain ⟨t, ht, hlast⟩ := ih (fun p hp => h p (List.mem_cons_of_mem _ hp))
      (fun cells hmem => hkept cells (List.mem_append_right _ hmem)) hkeys' hpending
    refine ⟨t, ?_, ?_⟩
    · rw [List.flatMap_cons, List.map_append]
      exact Passes.append.2 ⟨u, hu, ht⟩
    · rw [hlast, hresult, List.append_assoc]
      rfl

/-! ## The table -/

/-- No list of a parameter that is written begins with a span. -/
theorem fixSpanTail_entry (h : p.Written) : fixSpanTail p.entry = .ok p.entry := by
  rw [fixSpanTail]
  cases hvalues : p.entry.values with
  | nil => rfl
  | cons x values =>
    obtain ⟨first, n⟩ := x
    have hfirst : spanShaped first = false := by
      refine h.values.2 first ?_
      cases hp : p.values with
      | nil => simp [Param.entry, hp, number] at hvalues
      | cons y ys =>
        simp only [Param.entry, hp, number, List.cons.injEq, Prod.mk.injEq] at hvalues
        rw [← hvalues.1.1]
        rfl
    dsimp only
    rw [hfirst]
    rfl

theorem processData_rows (h : ∀ p ∈ ps, p.Written) (hkept : ∀ cells ∈ ps.flatMap Param.rows, Kept cells)
    (hkeys : (ps.map Param.key).Nodup) :
    processData ((ps.flatMap Param.rows).map formatRow) = .ok (ps.map fun p => (p.key, p.entry)) := by
  obtain ⟨t, ht, hresult⟩ := params_pass (s := OptionsToJson.fresh) h hkept hkeys rfl
  have hspans : fixSpanTails (ps.map fun p => (p.key, p.entry)) = .ok (ps.map fun p => (p.key, p.entry)) := by
    rw [fixSpanTails, Passes.mapM_eq_ok, List.forall₂_same]
    intro x hx
    obtain ⟨p, hp, rfl⟩ := List.mem_map.1 hx
    rw [fixSpanTail_entry (h p hp)]
    rfl
  rw [processData, ht, ok_bind, hresult]
  exact hspans

theorem length_row {row : List Cell} (h : row ∈ p.rows) : row.length = 3 := by
  rcases List.mem_append.1 h with h | h
  · cases hopening : p.opening with
    | nil =>
      rw [hopening] at h
      cases h
    | cons x rest =>
      rw [hopening] at h
      rcases List.mem_cons.1 h with rfl | h
      · rfl
      · obtain ⟨y, -, rfl⟩ := List.mem_map.1 h
        rfl
  · rcases List.mem_cons.1 h with rfl | h
    · rfl
    · obtain ⟨l, -, rfl⟩ := List.mem_map.1 h
      cases l <;> rfl

theorem tableKind_params (hkept : ∀ cells ∈ ps.flatMap Param.rows, Kept cells) :
    tableKind ((ps.flatMap Param.rows).map formatRow) = .params := by
  cases hrows : ps.flatMap Param.rows with
  | nil => rfl
  | cons row rows =>
    have hrow : row ∈ ps.flatMap Param.rows := hrows ▸ List.mem_cons_self
    obtain ⟨p, -, hmem⟩ := List.mem_flatMap.1 hrow
    have hlen := length_row hmem
    rw [List.map_cons, tableKind, splitCells_formatRow (hkept row hrow).ne_nil (hkept row hrow).isCell,
      if_neg (by omega), if_pos (by omega)]

/-- **A parameter table comes out as it was written**: a section anywhere in the text, declared
once, whose lines hold the rows of parameters in any spacing, with anything between them that a
table skips, is extracted to a table that is taken for a parameter table, and whose rows convert to
what the parameters say. -/
theorem params_extracted {pre post : List String} {declared : List (List Char)} {head name : String}
    {lines : List String} (hhead : sectionNames? (Text.strip Text.isSpace head.toList) = some declared)
    (hname : name = String.ofList (canonicalName declared)) (hbase : name ≠ "base-addresses")
    (honce : Elsewhere name (pre ++ post)) (hpost : ∀ line ∈ post.head?, Ends line)
    (hlines : Laid lines (ps.flatMap Param.rows)) (hps : ∀ p ∈ ps, p.Written) (hne : ps ≠ [])
    (hkeys : (ps.map Param.key).Nodup) :
    ∃ extracted, (parseTables (pre ++ head :: lines ++ post)).lookup name = some extracted ∧
      rowsToJson extracted (tableKind extracted) = some (.params (ps.map fun p => (p.key, p.entry))) := by
  have hrows : ps.flatMap Param.rows ≠ [] := by
    obtain ⟨p, rest, rfl⟩ := List.exists_cons_of_ne_nil hne
    simp [Param.rows]
  refine ⟨(ps.flatMap Param.rows).map formatRow, section_extracted hhead hname hbase honce hpost hlines hrows, ?_⟩
  rw [tableKind_params hlines.kept, rowsToJson, processData_rows hps hlines.kept hkeys]
  rfl

/-- A time of two addresses and a type, whose list goes on after a page number and an ellipsis. -/
theorem params_extracted_delay :
    let time : Param := ⟨[([0, 0], "0000 aaaa".toList)], [0, 1], "0000 bbbb".toList, "TIME".toList, [1, 300], []⟩
    let type : Param := ⟨[], [0, 2], "0000 0aaa".toList, "TYPE".toList, [0, 3],
      [.items "SINGLE, PAN,".toList, .ellipsis, .items "TAPE".toList]⟩
    ∃ extracted, (parseTables (["3. Parameter address map"] ++ "* [PatchDly]" ::
          ["|# 00 00 | 0000 aaaa |  |", "|  00 01 | 0000 bbbb | TIME  (1 - 300) |", "|---|---|---|",
            "| 00 02 | 0000 0aaa | TYPE (0 - 3) |", "|  |  | SINGLE, PAN, |", "page 7", "| : | | |",
            "|  |  | TAPE |"] ++
          ["* [PatchMfx]"])).lookup "PatchDly" = some extracted ∧
      rowsToJson extracted (tableKind extracted) =
        some (.params ([time, type].map fun p => (p.key, p.entry))) := by
  intro time type
  have htime : time.Written := by
    refine ⟨⟨by decide, by decide⟩, ?_, by decide, by decide, by decide, nofun, by decide, by decide⟩
    exact List.forall_mem_singleton.2 ⟨by decide, by decide⟩
  have hlists : ∀ row ∈ type.lists, ∀ cell, row = .items cell →
      formatRow [[], [], cell] ∉ shorthands ∧ cell ≠ "[ms]".toList := by
    refine List.forall_mem_cons.2 ⟨?_, List.forall_mem_cons.2 ⟨nofun, List.forall_mem_singleton.2 ?_⟩⟩
    all_goals
      rintro cell ⟨⟩
      exact ⟨by decide, by decide⟩
  have htype : type.Written :=
    ⟨⟨by decide, by decide⟩, nofun, nofun, by decide, by decide,
      fun cell hcell => hlists _ hcell cell rfl, by decide +kernel⟩
  have hps : ∀ p ∈ [time, type], p.Written := List.forall_mem_cons.2 ⟨htime, by simpa using htype⟩
  have hhead : sectionNames? (Text.strip Text.isSpace "* [PatchDly]".toList) = some ["PatchDly".toList] := by
    decide
  refine params_extracted hhead (by decide) (by decide) (by decide +kernel) (by decide +kernel) ?_ hps
    (by decide) (by decide)
  refine .row rfl (by decide) (by decide +kernel) (.row rfl (by decide) (by decide +kernel) ?_)
  refine .skip (.furniture rfl (by decide)) (.row rfl (by decide) (by decide +kernel) ?_)
  refine .row rfl (by decide) (by decide +kernel)
    (.skip (.prose (by decide) (by decide) (by decide +kernel)) ?_)
  refine .elided rfl (by decide) (by decide) ?_
  exact .row rfl (by decide) (by decide +kernel) .nil

end Pygt1000.PdfTables
