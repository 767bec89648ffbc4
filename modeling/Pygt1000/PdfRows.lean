import Pygt1000.PdfTables

/-!
# Rows as they are put out

The rows `parse_tables` puts out are in a form of their own: their cells are tidy and free of
pipes, `format_row` writes them and `split_cells` reads them back (`splitCells_formatRow`), and so
do the converters, which take the columns of a row (`column_formatRow`). A row that a table keeps
(`Kept`) is kept again when it is read from what was put out (`step_emitted`).
-/

namespace Pygt1000.PdfTables

/-! ## Cells -/

/-- What `split_cells` makes. -/
def IsCell (c : Cell) : Prop := Text.Tidy c ∧ '|' ∉ c

instance (c : Cell) : Decidable (IsCell c) := inferInstanceAs (Decidable (_ ∧ _))

/-- What stands between the pipes for a cell. -/
def padded : Cell → List Char
  | [] => [' ']
  | '#' :: cell => '#' :: cell ++ [' ']
  | cell => ' ' :: cell ++ [' ']

variable {cell : Cell} {cells : List Cell} {line : List Char}

theorem formatCell_eq (cell : Cell) : formatCell cell = padded cell ++ ['|'] := by
  unfold formatCell padded
  split <;> simp_all

theorem words_padded (cell : Cell) : Text.words (padded cell) = Text.words cell := by
  unfold padded
  split
  · rfl
  · exact (Text.words_append_space rfl _ []).trans (List.append_nil _)
  · exact Text.words_pad rfl cell

theorem pipe_not_mem_padded (h : '|' ∉ cell) : '|' ∉ padded cell := by
  unfold padded
  split <;> simp_all

theorem cleaned_padded (h : IsCell cell) : cleaned (padded cell) = cell :=
  h.1.strip_collapse_eq (words_padded cell)

theorem mem_collapse {c : Char} {s : List Char} (h : c ∈ Text.collapse s) : c ∈ s ∨ c = ' ' := by
  induction s with
  | nil => exact .inl h
  | cons d s ih =>
    rw [Text.collapse] at h
    split at h
    · split at h
      · exact (ih h).imp_left (List.mem_cons_of_mem d)
      · rcases List.mem_cons.1 h with rfl | h
        · exact .inr rfl
        · exact (ih h).imp_left (List.mem_cons_of_mem d)
    · rcases List.mem_cons.1 h with rfl | h
      · exact .inl List.mem_cons_self
      · exact (ih h).imp_left (List.mem_cons_of_mem d)

theorem isCell_of_mem_splitCells (h : cell ∈ splitCells line) : IsCell cell := by
  obtain ⟨part, hpart, rfl⟩ := List.mem_map.1 h
  refine ⟨Text.tidy_strip_collapse part, fun hpipe => ?_⟩
  have hmem := List.mem_of_mem_drop (List.dropLast_sublist _ |>.subset hpart)
  rcases mem_collapse (Text.mem_of_mem_strip hpipe) with hp | hp
  · exact Text.not_mem_of_mem_splitOn hmem hp
  · exact absurd hp (by decide)

/-! ## A row, written and read -/

theorem splitOn_formatted (h : ∀ c ∈ cells, IsCell c) :
    (cells.flatMap formatCell).splitOn '|' = cells.map padded ++ [[]] := by
  induction cells with
  | nil => rfl
  | cons cell cells ih =>
    have hcell := pipe_not_mem_padded (h cell List.mem_cons_self).2
    rw [List.flatMap_cons, formatCell_eq, List.append_assoc, List.singleton_append,
      List.splitOn_append_cons_self_of_not_mem hcell, ih fun c hc => h c (List.mem_cons_of_mem _ hc)]
    rfl

theorem toList_formatRow (cells : List Cell) :
    (formatRow cells).toList = '|' :: cells.flatMap formatCell := String.toList_ofList

/-- A row begins and ends with a pipe. -/
theorem strip_formatRow (h : cells ≠ []) :
    Text.strip Text.isSpace (formatRow cells).toList = (formatRow cells).toList := by
  obtain ⟨init, last, rfl⟩ := (List.eq_nil_or_concat' cells).resolve_left h
  rw [toList_formatRow, List.flatMap_append, List.flatMap_singleton, formatCell_eq, ← List.append_assoc]
  exact Text.strip_between rfl rfl _

theorem splitOn_formatRow (h : ∀ c ∈ cells, IsCell c) :
    (formatRow cells).toList.splitOn '|' = [] :: (cells.map padded ++ [[]]) := by
  rw [toList_formatRow, List.splitOn_cons_eq_if_modifyHead, if_pos (by simp), splitOn_formatted h]

/-- **A row comes back as its cells.** -/
theorem splitCells_formatRow (hne : cells ≠ []) (h : ∀ c ∈ cells, IsCell c) :
    splitCells (formatRow cells).toList = cells := by
  rw [splitCells, strip_formatRow hne, splitOn_formatRow h, List.drop_one, List.tail_cons, List.dropLast_concat, List.map_map]
  exact (List.map_congr_left fun c hc => cleaned_padded (h c hc)).trans (List.map_id' cells)

/-! ## What a converter reads in a row -/

theorem strip_padded (h : IsCell cell) : Text.strip Text.isSpace (padded cell) = cell := by
  have hspace : Text.isSpace ' ' = true := rfl
  unfold padded
  split
  · rfl
  · rw [Text.strip_concat hspace, h.1.strip_eq]
  · rw [List.cons_append, Text.strip_cons hspace, Text.strip_concat hspace, h.1.strip_eq]

theorem stripLine_formatRow (h : cells ≠ []) :
    OptionsToJson.stripLine (formatRow cells) = (formatRow cells).toList := strip_formatRow h

/-- The columns of a row are its cells. -/
theorem column_formatRow (h : ∀ c ∈ cells, IsCell c) {i : Nat} (hi : i < cells.length) :
    OptionsToJson.column (i + 1) (formatRow cells).toList = cells[i] := by
  have hlen : i < (cells.map padded).length := by simpa using hi
  rw [OptionsToJson.column, splitOn_formatRow h, List.getD_cons_succ, List.getD_eq_getElem?_getD,
    List.getElem?_append_left hlen, List.getElem?_eq_getElem hlen, Option.getD_some, List.getElem_map,
    strip_padded (h _ (List.getElem_mem hi))]

/-! ## Rows a table keeps -/

/-- Cells of a row that `parse_tables` puts into a table. -/
structure Kept (cells : List Cell) : Prop where
  isCell : ∀ c ∈ cells, IsCell c
  furniture : isFurniture cells = false
  total : "Total Size".toList ∉ cells
  target : cells.head? ≠ some ['#']
  first : cells.headD [] = [] ∨ isHexBytes (cells.headD []) none = true ∨ cells = [[':'], [], []]

instance (cells : List Cell) : Decidable (Kept cells) :=
  decidable_of_iff ((∀ c ∈ cells, IsCell c ∧ c ≠ "Total Size".toList) ∧ isFurniture cells = false ∧
      cells.head? ≠ some ['#'] ∧
      (cells.headD [] = [] ∨ isHexBytes (cells.headD []) none = true ∨ cells = [[':'], [], []]))
    ⟨fun ⟨hcell, hfurniture, htarget, hfirst⟩ =>
        ⟨fun c hc => (hcell c hc).1, hfurniture, fun htotal => (hcell _ htotal).2 rfl, htarget, hfirst⟩,
      fun h => ⟨fun c hc => ⟨h.isCell c hc, fun heq => h.total (heq ▸ hc)⟩, h.furniture, h.target, h.first⟩⟩

def Emitted (row : String) : Prop := ∃ cells, Kept cells ∧ row = formatRow cells

theorem Kept.ne_nil (h : Kept cells) : cells ≠ [] := by
  rintro rfl
  exact absurd h.furniture (by decide)

theorem kept_elision : Kept [[':'], [], []] :=
  ⟨by decide, by decide, by decide, by decide, .inr (.inr rfl)⟩

/-- A cell with something in it that is no header makes a row no furniture. -/
theorem isFurniture_eq_false {x : Char} (hcell : cell ∈ cells) (hx : x ∈ cell) (hline : x ∉ ['-', '+', ' '])
    (hheader : cell ∉ headerCells) : isFurniture cells = false := by
  have hne : cells ≠ [] := List.ne_nil_of_mem hcell
  have hborder : cells.all (fun c => c.all ['-', '+', ' '].contains) = false := by
    rw [List.all_eq_false]
    refine ⟨cell, hcell, fun hall => hline ?_⟩
    simpa using List.all_eq_true.1 hall x hx
  have hnames : (cells.filter (· ≠ [])).all headerCells.contains = false := by
    rw [List.all_eq_false]
    exact ⟨cell, List.mem_filter.2 ⟨hcell, by simpa using List.ne_nil_of_mem hx⟩, by simpa using hheader⟩
  rw [isFurniture, if_neg hne, hborder, if_neg Bool.false_ne_true]
  dsimp only
  rw [hnames, Bool.and_false]

theorem isHexBytes_any {cell : Cell} {count : Option Nat} (h : isHexBytes cell count = true) :
    isHexBytes cell none = true := by
  simp only [isHexBytes, Bool.and_eq_true] at h ⊢
  exact ⟨⟨rfl, h.1.2⟩, h.2⟩

variable {s : State} {row name : String}

/-- Neither a section nor a chapter begins with a pipe. -/
theorem step_piped {raw : String} {t : List Char} (h : Text.strip Text.isSpace raw.toList = '|' :: t) :
    step s raw = readPiped s (splitCells ('|' :: t)) := by
  have hsection : sectionNames? ('|' :: t) = none := rfl
  have hchapter : isChapter ('|' :: t) = false := by
    have hdigit : (Text.digit? '|').isSome = false := by decide +kernel
    simp [isChapter, OptionsToJson.some1, hdigit]
  simp [step, h, hsection, hchapter]

theorem step_line {raw : String} {t : List Char} (h : Kept cells)
    (hraw : Text.strip Text.isSpace raw.toList = '|' :: t) (hcells : splitCells ('|' :: t) = cells)
    (haux : s.auxSkip = false) : step s raw = readRow s cells := by
  rw [step_piped hraw, hcells, readPiped, h.furniture, if_neg Bool.false_ne_true, if_neg h.total,
    if_neg h.target, haux, if_neg Bool.false_ne_true]

/-- A row that was put out is read as the cells it was made of. -/
theorem step_kept (h : Kept cells) (haux : s.auxSkip = false) : step s (formatRow cells) = readRow s cells :=
  step_line h ((strip_formatRow h.ne_nil).trans (toList_formatRow cells))
    ((congrArg splitCells (toList_formatRow cells)).symm.trans (splitCells_formatRow h.ne_nil h.isCell)) haux

theorem readRow_kept (h : Kept cells) (hs : s.current = some name) :
    readRow s cells = s.addRow name (formatRow cells) := by
  rw [readRow, hs]
  rcases h.first with hfirst | hfirst | rfl
  · simp only [hfirst]
    rw [if_neg (by simp), if_neg (by simp)]
  · have hcolon : cells.headD [] ≠ [':'] := by
      intro hc
      rw [hc] at hfirst
      exact absurd hfirst (by decide)
    simp only [hfirst]
    rw [if_neg (by simp), if_neg hcolon]
  · rfl

/-- It goes into the table again, as it is. -/
theorem step_emitted (h : Emitted row) (hs : s.current = some name) (haux : s.auxSkip = false) :
    step s row = s.addRow name row := by
  obtain ⟨cells, hk, rfl⟩ := h
  rw [step_kept hk haux, readRow_kept hk hs]

/-- Rows for the table that was begun last. -/
theorem addRows_concat {tables : List (String × List String)} (h : name ∉ Dict.keys tables)
    (old rows : List String) :
    addRows name rows (tables ++ [(name, old)]) = tables ++ [(name, old ++ rows)] := by
  induction tables with
  | nil => simp [addRows, Dict.set]
  | cons x tables ih =>
    obtain ⟨key, value⟩ := x
    simp only [Dict.keys, List.map_cons, List.mem_cons, not_or] at h
    have ih := ih h.2
    have hkey : (key == name) = false := beq_eq_false_iff_ne.2 (Ne.symm h.1)
    have hname : (name == key) = false := beq_eq_false_iff_ne.2 h.1
    rw [addRows] at ih ⊢
    simp only [List.cons_append, Dict.set, List.lookup_cons, hkey, hname, Bool.false_eq_true, if_false, ih]

end Pygt1000.PdfTables
