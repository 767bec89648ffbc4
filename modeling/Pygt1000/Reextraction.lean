import Pygt1000.PdfSections

/-!
# Extracting what was extracted

The tables that `parse_tables` returns, each under a section header with its name, are a text
again (`render`). Extracted, it gives the same tables, exactly where every name survives being a
header: it is not empty, and has no white space at its ends (`reextracted_iff`). A name that
`canonical_name` cut out of the names of a section may have some.
-/

namespace Pygt1000.PdfTables

/-- `* [name]`. -/
def header (name : String) : String := String.ofList ('*' :: ' ' :: '[' :: (name.toList ++ [']']))

def render (tables : List (String × List String)) : List String :=
  tables.flatMap fun x => header x.1 :: x.2

/-- What a header makes of a name. -/
def stripped (name : String) : String := String.ofList (Text.strip Text.isSpace name.toList)

variable {name row : String} {s : State}

/-! ## Headers -/

theorem strip_header (name : String) :
    Text.strip Text.isSpace (header name).toList = (header name).toList := by
  rw [header, String.toList_ofList]
  exact Text.strip_between rfl rfl (' ' :: '[' :: name.toList)

theorem takeWhile_name (h : Named name) : (name.toList ++ [']']).takeWhile (· ≠ ']') = name.toList := by
  have hall : ∀ c ∈ name.toList, decide (c ≠ ']') = true := by
    rintro c hc
    simpa using fun heq : c = ']' => h.1 (heq ▸ hc)
  rw [List.takeWhile_append_of_pos hall]
  simp

theorem sectionNames_bracket (t : List Char) : sectionNames? ('*' :: ' ' :: '[' :: t) =
    if t.takeWhile (· ≠ ']') ≠ [] ∧ (t.takeWhile (· ≠ ']')).length < t.length then
      some (((t.takeWhile (· ≠ ']')).splitOn ',').map (Text.strip Text.isSpace))
    else none := rfl

theorem sectionNames_header (h : Named name) (hne : name ≠ "") :
    sectionNames? (header name).toList = some [Text.strip Text.isSpace name.toList] := by
  have hnil : name.toList ≠ [] := by simpa using hne
  have hsplit : name.toList.splitOn ',' = [name.toList] := List.splitOn_eq_singleton h.2
  rw [header, String.toList_ofList, sectionNames_bracket, takeWhile_name h, if_pos ⟨hnil, by simp⟩,
    hsplit, List.map_singleton]

theorem step_header (h : Named name) (hne : name ≠ "") (s : State) :
    step s (header name) = ⟨addRows (stripped name) [] s.tables, some (stripped name), false, false⟩ := by
  rw [step, strip_header]
  dsimp only
  rw [sectionNames_header h hne]
  rfl

/-- `* []` is no header. -/
theorem step_header_empty (s : State) : step s (header "") = s := by
  have hsection : sectionNames? (header "").toList = none := by decide
  have hchapter : isChapter (header "").toList = false := by decide +kernel
  have hpipe : (header "").toList.head? ≠ some '|' := by decide
  rw [step, strip_header]
  dsimp only
  rw [hsection]
  dsimp only
  rw [hchapter, if_neg Bool.false_ne_true, if_neg hpipe]

/-! ## One table after the other -/

/-- A table's rows all go to it. -/
theorem run_rows {tables : List (String × List String)} (h : name ∉ Dict.keys tables) {rows : List String}
    (hrows : ∀ row ∈ rows, Emitted row) (old : List String) :
    Runs.run step ⟨tables ++ [(name, old)], some name, false, false⟩ rows =
      ⟨tables ++ [(name, old ++ rows)], some name, false, false⟩ := by
  induction rows generalizing old with
  | nil => simp
  | cons row rows ih =>
    rw [Runs.run_cons, step_emitted (hrows row List.mem_cons_self) rfl rfl, State.addRow]
    dsimp only
    rw [addRows_concat h, ih fun r hr => hrows r (List.mem_cons_of_mem row hr), List.append_assoc]
    rfl

/-- Names that survive being a header. -/
def Survives (name : String) : Prop := name ≠ "" ∧ stripped name = name

instance (name : String) : Decidable (Survives name) := inferInstanceAs (Decidable (_ ∧ _))

theorem run_render {tables : List (String × List String)} (hkeys : (Dict.keys (s.tables ++ tables)).Nodup)
    (h : ∀ x ∈ tables, Survives x.1 ∧ Named x.1 ∧ ∀ row ∈ x.2, Emitted row) :
    (Runs.run step s (render tables)).tables = s.tables ++ tables := by
  induction tables generalizing s with
  | nil => simp [render]
  | cons x tables ih =>
    obtain ⟨name, rows⟩ := x
    obtain ⟨⟨hne, hstrip⟩, hnamed, hrows⟩ := h _ List.mem_cons_self
    have hfresh : name ∉ Dict.keys s.tables := by
      intro hmem
      simp only [Dict.keys, List.map_append, List.map_cons] at hkeys hmem
      exact (List.nodup_append.1 hkeys).2.2 name hmem name List.mem_cons_self rfl
    have hlookup : s.tables.lookup name = none := by
      rw [List.lookup_eq_none_iff]
      intro p hp
      have hne : name ≠ p.1 := fun heq => hfresh (heq ▸ List.mem_map_of_mem hp)
      simpa using hne
    have hhead : step s (header name) = ⟨s.tables ++ [(name, [])], some name, false, false⟩ := by
      rw [step_header hnamed hne, hstrip, addRows, Dict.set_of_not_mem hfresh, hlookup]
      rfl
    rw [render, List.flatMap_cons, List.cons_append, Runs.run_cons, hhead, Runs.run_append,
      run_rows hfresh hrows, List.nil_append]
    have hrest := ih (s := ⟨s.tables ++ [(name, rows)], some name, false, false⟩)
      (by simpa using hkeys) fun x hx => h x (List.mem_cons_of_mem _ hx)
    simpa [render] using hrest

/-! ## Names that do not survive -/

/-- Reading a text of tables, under a header or before the first. -/
structure Reading (names : List String) (s : State) : Prop where
  keys : ∀ key ∈ Dict.keys s.tables, ∃ n ∈ names, n ≠ "" ∧ key = stripped n
  current : ∀ key, s.current = some key → ∃ n ∈ names, n ≠ "" ∧ key = stripped n
  flags : s.inAddressMap = false ∧ s.auxSkip = false

variable {names : List String}

theorem Reading.step_header (h : Reading names s) (hname : name ∈ names) (hnamed : Named name) :
    Reading names (step s (header name)) := by
  by_cases hne : name = ""
  · subst hne
    rwa [step_header_empty]
  rw [PdfTables.step_header hnamed hne]
  refine ⟨fun key hkey => ?_, fun key hkey => ?_, rfl, rfl⟩
  · rcases Dict.mem_keys_set.1 hkey with rfl | hkey
    · exact ⟨name, hname, hne, rfl⟩
    · exact h.keys key hkey
  · exact ⟨name, hname, hne, (Option.some.inj hkey).symm⟩

theorem Reading.step_row (h : Reading names s) (hrow : Emitted row) : Reading names (step s row) := by
  cases hc : s.current with
  | none =>
    obtain ⟨cells, hk, rfl⟩ := hrow
    have hsame : readRow s cells = s := by simp [readRow, hc, h.flags.1]
    rwa [step_kept hk h.flags.2, hsame]
  | some current =>
    rw [step_emitted hrow hc h.flags.2]
    refine ⟨fun key hkey => ?_, h.current, h.flags⟩
    rcases Dict.mem_keys_set.1 hkey with rfl | hkey
    · exact h.current _ hc
    · exact h.keys key hkey

theorem reading_render {tables : List (String × List String)}
    (h : ∀ x ∈ tables, Named x.1 ∧ ∀ row ∈ x.2, Emitted row) :
    Reading (Dict.keys tables) (Runs.run step fresh (render tables)) := by
  have hlines : ∀ line ∈ render tables,
      (∃ name ∈ Dict.keys tables, Named name ∧ line = header name) ∨ Emitted line := by
    intro line hline
    obtain ⟨x, hx, hline⟩ := List.mem_flatMap.1 hline
    rcases List.mem_cons.1 hline with rfl | hline
    · exact .inl ⟨x.1, List.mem_map_of_mem hx, (h x hx).1, rfl⟩
    · exact .inr ((h x hx).2 line hline)
  refine Runs.invariant ⟨nofun, nofun, rfl, rfl⟩ (fun s line hline hs => ?_)
    (Runs.guarded_of_forall fun line hline _ => hlines line hline)
  rcases hline with ⟨name, hname, hnamed, rfl⟩ | hrow
  · exact hs.step_header hname hnamed
  · exact hs.step_row hrow

/-- A stripped name does not change any more. -/
theorem stripped_stripped (name : String) : stripped (stripped name) = stripped name := by
  simp only [stripped, String.toList_ofList]
  rw [Text.strip_idem]

/-! ## Again -/

/-- **Extracting what was extracted gives it again, exactly** where the names of the tables survive
being headers. -/
theorem reextracted_iff (lines : List String) :
    parseTables (render (parseTables lines)) = parseTables lines ↔
      ∀ name ∈ Dict.keys (parseTables lines), Survives name := by
  have hsound := sound_run lines
  have hkeys : (Dict.keys (parseTables lines)).Nodup :=
    hsound.keys.sublist ((List.filter_sublist).map Prod.fst)
  have htables : ∀ x ∈ parseTables lines, Named x.1 ∧ ∀ row ∈ x.2, Emitted row := fun x hx =>
    hsound.tables x (List.mem_filter.1 hx).1
  constructor
  · intro heq
    have hreading := reading_render htables
    have hstripped : ∀ key ∈ Dict.keys (parseTables lines),
        ∃ n ∈ Dict.keys (parseTables lines), n ≠ "" ∧ key = stripped n := by
      intro key hkey
      rw [← heq] at hkey
      obtain ⟨x, hx, rfl⟩ := List.mem_map.1 hkey
      exact hreading.keys _ (List.mem_map_of_mem (List.mem_filter.1 hx).1)
    have hself : ∀ key ∈ Dict.keys (parseTables lines), stripped key = key := by
      intro key hkey
      obtain ⟨n, -, -, rfl⟩ := hstripped key hkey
      exact stripped_stripped n
    intro key hkey
    obtain ⟨n, hn, hne, rfl⟩ := hstripped key hkey
    exact ⟨(hself n hn).symm ▸ hne, stripped_stripped n⟩
  · intro h
    have hrun : (Runs.run step fresh (render (parseTables lines))).tables = parseTables lines :=
      run_render hkeys fun x hx => ⟨h x.1 (List.mem_map_of_mem hx), htables x hx⟩
    rw [parseTables, hrun]
    exact List.filter_eq_self.2 fun x hx => (List.mem_filter.1 hx).2

/-- A name with a space at its end, cut out of two. -/
example : canonicalName ["Assign 1".toList, "Assign 2".toList] = "Assign ".toList := by decide

end Pygt1000.PdfTables
