import Pygt1000.PdfRows

/-!
# Sections of the text

What `parse_tables` knows at any time: every name once, with rows a table keeps (`sound_run`). A
section begins a table, a section or a chapter ends it, and no line outside changes it (`Away`); so
a section gives the rows its lines hold, wherever it stands (`section_extracted`).
-/

namespace Pygt1000.PdfTables

variable {s : State} {row name : String} {cells : List Cell}

/-! ## What a step adds -/

/-- Into which table a row goes that a step keeps. -/
def State.target (s : State) : Option String :=
  s.current <|> if s.inAddressMap then some "base-addresses" else none

theorem readRow_cases (hcells : ∀ c ∈ cells, IsCell c) (hf : isFurniture cells = false)
    (ht : "Total Size".toList ∉ cells) (hh : cells.head? ≠ some ['#']) (s : State) :
    readRow s cells = s ∨ ∃ name row, s.target = some name ∧ Emitted row ∧
      readRow s cells = s.addRow name row := by
  have hkept : cells.headD [] = [] ∨ isHexBytes (cells.headD []) none = true →
      Emitted (formatRow cells) := fun hfirst =>
    ⟨cells, ⟨hcells, hf, ht, hh, hfirst.imp_right .inl⟩, rfl⟩
  unfold readRow
  cases hc : s.current with
  | none =>
    dsimp only
    split
    · next hin =>
      simp only [Bool.and_eq_true] at hin
      refine .inr ⟨_, _, ?_, hkept (.inr (isHexBytes_any hin.2)), rfl⟩
      simp [State.target, hc, hin.1.1]
    · exact .inl rfl
  | some name =>
    have htarget : s.target = some name := by simp [State.target, hc]
    dsimp only
    split
    · exact .inl rfl
    · next hskip =>
      split
      · split
        · exact .inr ⟨name, elision, htarget, ⟨_, kept_elision, rfl⟩, rfl⟩
        · exact .inl rfl
      · next hcolon =>
        refine .inr ⟨name, _, htarget, hkept ?_, rfl⟩
        by_contra hnone
        rw [not_or, Bool.not_eq_true] at hnone
        exact hskip ⟨hnone.1, hcolon, hnone.2⟩

/-- What a step does: a section begins, no table changes and none begins, or a row is kept. -/
theorem step_cases (s : State) (raw : String) :
    (∃ names, sectionNames? (Text.strip Text.isSpace raw.toList) = some names ∧
      step s raw = ⟨addRows (String.ofList (canonicalName names)) [] s.tables,
        some (String.ofList (canonicalName names)), false, false⟩) ∨
    ((step s raw).tables = s.tables ∧ (step s raw).current ∈ [none, s.current]) ∨
    ∃ name row, s.target = some name ∧ Emitted row ∧ step s raw = s.addRow name row := by
  unfold step
  dsimp only
  cases hnames : sectionNames? (Text.strip Text.isSpace raw.toList) with
  | some names => exact .inl ⟨names, rfl, rfl⟩
  | none =>
    dsimp only
    split
    · exact .inr (.inl ⟨rfl, List.mem_cons_self⟩)
    · split
      · have hsame : s.tables = s.tables ∧ s.current ∈ [none, s.current] := ⟨rfl, by simp⟩
        unfold readPiped
        split
        · exact .inr (.inl hsame)
        · next hf =>
          split
          · exact .inr (.inl hsame)
          · next ht =>
            split
            · exact .inr (.inl hsame)
            · next hh =>
              split
              · exact .inr (.inl hsame)
              · rcases readRow_cases (fun c hc => isCell_of_mem_splitCells hc) (by simpa using hf) ht hh s
                  with hread | hread
                · exact .inr (.inl (by rw [hread]; exact hsame))
                · exact .inr (.inr hread)
      · exact .inr (.inl ⟨rfl, by simp⟩)

/-! ## Names of tables -/

/-- A name that the brackets of a header, and the commas in them, leave whole. -/
def Named (name : String) : Prop := ']' ∉ name.toList ∧ ',' ∉ name.toList

instance (name : String) : Decidable (Named name) := inferInstanceAs (Decidable (_ ∧ _))

theorem mem_canonicalName {names : List (List Char)} {c : Char} (h : c ∈ canonicalName names) :
    ∃ n ∈ names, c ∈ n := by
  unfold canonicalName at h
  split at h
  · cases h
  · exact ⟨_, List.mem_singleton_self _, h⟩
  · next first names _ =>
    refine ⟨first, List.mem_cons_self, ?_⟩
    have hfront : names.foldl (fun p n => Affixes.keepPrefix n p) first <+: first :=
      (Affixes.prefix_foldl_iff.1 List.prefix_rfl).1
    have hback : names.foldl (fun s n => Affixes.keepSuffix n s) first <:+ first :=
      (Affixes.suffix_foldl_iff.1 List.suffix_rfl).1
    dsimp only at h
    split at h
    · exact hfront.subset h
    · rcases List.mem_append.1 h with h | h
      · exact hfront.subset h
      · exact hback.subset h

theorem mem_of_sectionNames {t n : List Char} {names : List (List Char)} {c : Char}
    (h : sectionNames? t = some names) (hn : n ∈ names) (hc : c ∈ n) : c ≠ ']' ∧ c ≠ ',' := by
  unfold sectionNames? at h
  split at h
  · split at h
    · dsimp only at h
      split at h
      · obtain rfl := Option.some.inj h
        obtain ⟨part, hpart, rfl⟩ := List.mem_map.1 hn
        have hmem := Text.mem_of_mem_strip hc
        refine ⟨fun heq => ?_, fun heq => Text.not_mem_of_mem_splitOn hpart (heq ▸ hmem)⟩
        have hgroup := List.mem_takeWhile_imp (Text.mem_of_mem_splitOn hpart hmem)
        simp [heq] at hgroup
      · cases h
    · cases h
  · cases h

theorem named_of_section {t : List Char} {names : List (List Char)} (h : sectionNames? t = some names) :
    Named (String.ofList (canonicalName names)) := by
  have hchar : ∀ c ∈ canonicalName names, c ≠ ']' ∧ c ≠ ',' := fun c hc => by
    obtain ⟨n, hn, hcn⟩ := mem_canonicalName hc
    exact mem_of_sectionNames h hn hcn
  simp only [Named, String.toList_ofList]
  exact ⟨fun hc => (hchar _ hc).1 rfl, fun hc => (hchar _ hc).2 rfl⟩

/-! ## What is extracted -/

/-- Every name once, each fit for a header, with rows a table keeps. -/
structure Sound (s : State) : Prop where
  keys : (Dict.keys s.tables).Nodup
  tables : ∀ x ∈ s.tables, Named x.1 ∧ ∀ row ∈ x.2, Emitted row
  current : ∀ name, s.current = some name → Named name

theorem Sound.addRows {t : State} (h : Sound s) (rows : List String)
    (hname : Named name) (hrows : ∀ row ∈ rows, Emitted row)
    (ht : t.tables = addRows name rows s.tables) (hc : t.current = s.current ∨ t.current = some name) :
    Sound t := by
  refine ⟨ht ▸ Dict.nodup_keys_set h.keys, fun x hx => ?_, fun n hn => ?_⟩
  · rcases Dict.mem_of_mem_set (ht ▸ hx) with rfl | hx
    · refine ⟨hname, fun row hrow => ?_⟩
      rcases List.mem_append.1 hrow with hrow | hrow
      · cases hl : s.tables.lookup name with
        | none => simp [hl] at hrow
        | some old =>
          rw [hl, Option.getD_some] at hrow
          exact (h.tables _ (Dict.mem_of_lookup hl)).2 row hrow
      · exact hrows row hrow
    · exact h.tables x hx
  · rcases hc with hc | hc
    · exact h.current n (hc ▸ hn)
    · obtain rfl : name = n := Option.some.inj (hc ▸ hn)
      exact hname

theorem Sound.target (h : Sound s) (ht : s.target = some name) : Named name := by
  unfold State.target at ht
  cases hc : s.current with
  | some current =>
    obtain rfl : current = name := by simpa [hc] using ht
    exact h.current current hc
  | none =>
    obtain ⟨-, rfl⟩ : s.inAddressMap = true ∧ "base-addresses" = name := by simpa [hc] using ht
    decide

theorem Sound.step (h : Sound s) (raw : String) : Sound (step s raw) := by
  rcases step_cases s raw with ⟨names, hnames, hstep⟩ | ⟨htables, hcurrent⟩ |
    ⟨name, row, htarget, hrow, hstep⟩
  · exact h.addRows [] (named_of_section hnames) nofun (by rw [hstep]) (.inr (by rw [hstep]))
  · refine ⟨htables ▸ h.keys, fun x hx => h.tables x (htables ▸ hx), fun n hn => ?_⟩
    rcases List.mem_cons.1 hcurrent with hnone | hsame
    · exact absurd (hnone ▸ hn) (by simp)
    · exact h.current n ((List.mem_singleton.1 hsame) ▸ hn)
  · exact h.addRows [row] (h.target htarget) (by simpa using hrow) (by rw [hstep]; rfl)
      (.inl (by rw [hstep]; rfl))

theorem sound_run (lines : List String) : Sound (Runs.run PdfTables.step fresh lines) :=
  Runs.invariant ⟨List.nodup_nil, nofun, nofun⟩ (fun _ raw _ h => h.step raw)
    (Runs.guarded_always fresh lines)

/-! ## Lines -/

/-- A line that a table skips. -/
inductive Skipped (line : String) : Prop where
  | prose (hpipe : (Text.strip Text.isSpace line.toList).head? ≠ some '|')
      (hsection : sectionNames? (Text.strip Text.isSpace line.toList) = none)
      (hchapter : isChapter (Text.strip Text.isSpace line.toList) = false)
  | furniture {t : List Char} (hline : Text.strip Text.isSpace line.toList = '|' :: t)
      (hcells : isFurniture (splitCells ('|' :: t)) = true ∨ "Total Size".toList ∈ splitCells ('|' :: t))
  /-- An ellipsis of an address map. -/
  | elision {t : List Char} (hline : Text.strip Text.isSpace line.toList = '|' :: t)
      (hcells : (splitCells ('|' :: t)).head? = some [':'] ∧ (splitCells ('|' :: t)).length < 3)
  /-- A row of a table within the table. -/
  | embedded {t : List Char} {first : Cell} (hline : Text.strip Text.isSpace line.toList = '|' :: t)
      (hcells : (splitCells ('|' :: t)).head? = some first)
      (hfirst : first ∉ [[], [':'], ['#']] ∧ isHexBytes first none = false)

/-- The lines of a section hold rows of these cells, in this order. -/
inductive Laid : List String → List (List Cell) → Prop where
  | nil : Laid [] []
  | skip {line : String} {lines : List String} {rows : List (List Cell)} (hline : Skipped line)
      (h : Laid lines rows) : Laid (line :: lines) rows
  | row {line : String} {lines : List String} {rows : List (List Cell)} {cells : List Cell}
      {t : List Char} (hline : Text.strip Text.isSpace line.toList = '|' :: t)
      (hcells : splitCells ('|' :: t) = cells) (hkept : Kept cells) (h : Laid lines rows) :
      Laid (line :: lines) (cells :: rows)
  /-- An ellipsis of a parameter table. -/
  | elided {line : String} {lines : List String} {rows : List (List Cell)} {t : List Char}
      (hline : Text.strip Text.isSpace line.toList = '|' :: t)
      (hcells : (splitCells ('|' :: t)).head? = some [':'] ∧ 3 ≤ (splitCells ('|' :: t)).length)
      (hfurniture : isFurniture (splitCells ('|' :: t)) = false ∧
        "Total Size".toList ∉ splitCells ('|' :: t))
      (h : Laid lines rows) : Laid (line :: lines) ([[':'], [], []] :: rows)

variable {line : String} {lines : List String} {rows : List (List Cell)}

theorem readPiped_skips {cells : List Cell} (haux : s.auxSkip = false) (htarget : cells.head? ≠ some ['#'])
    (hread : readRow s cells = s) : readPiped s cells = s := by
  unfold readPiped
  split
  · rfl
  · split
    · rfl
    · rw [haux, if_neg Bool.false_ne_true, hread]

theorem Skipped.step_eq (h : Skipped line) (hs : s.current = some name) (haux : s.auxSkip = false) :
    step s line = s := by
  cases h with
  | prose hpipe hsection hchapter =>
    rw [step]
    dsimp only
    rw [hsection]
    dsimp only
    rw [hchapter, if_neg Bool.false_ne_true, if_neg hpipe]
  | furniture hline hcells =>
    rw [step_piped hline, readPiped]
    split
    · rfl
    · next hf => rw [if_pos (hcells.resolve_left hf)]
  | elision hline hcells =>
    rw [step_piped hline]
    refine readPiped_skips haux (by rw [hcells.1]; decide) ?_
    rw [readRow, hs]
    dsimp only
    rw [List.headD_eq_head?_getD, hcells.1, Option.getD_some, if_neg (by simp), if_pos rfl,
      if_neg (by omega)]
  | embedded hline hcells hfirst =>
    simp only [List.mem_cons, List.not_mem_nil, or_false, not_or] at hfirst
    obtain ⟨⟨hne, hcolon, hhash⟩, hhex⟩ := hfirst
    rw [step_piped hline]
    refine readPiped_skips haux (by rw [hcells]; simpa using hhash) ?_
    rw [readRow, hs]
    dsimp only
    rw [List.headD_eq_head?_getD, hcells, Option.getD_some, if_pos ⟨hne, hcolon, hhex⟩]

theorem Laid.kept (h : Laid lines rows) : ∀ cells ∈ rows, Kept cells := by
  induction h with
  | nil => exact nofun
  | skip _ _ ih => exact ih
  | row _ _ hkept _ ih => exact List.forall_mem_cons.2 ⟨hkept, ih⟩
  | elided _ _ _ _ ih => exact List.forall_mem_cons.2 ⟨kept_elision, ih⟩

/-- The lines of a section add its rows to its table. -/
theorem Laid.run (h : Laid lines rows) {tables : List (String × List String)}
    (hname : name ∉ Dict.keys tables) (old : List String) :
    Runs.run PdfTables.step ⟨tables ++ [(name, old)], some name, false, false⟩ lines =
      ⟨tables ++ [(name, old ++ rows.map formatRow)], some name, false, false⟩ := by
  induction h generalizing old with
  | nil => simp
  | skip hline _ ih => rw [Runs.run_cons, hline.step_eq rfl rfl, ih old]
  | row hline hcells hkept _ ih =>
    rw [Runs.run_cons, step_line hkept hline hcells rfl, readRow_kept hkept rfl, State.addRow]
    dsimp only
    rw [addRows_concat hname, ih, List.append_assoc]
    rfl
  | @elided line lines rows t hline hcells hfurniture _ ih =>
    have hread : readRow ⟨tables ++ [(name, old)], some name, false, false⟩ (splitCells ('|' :: t)) =
        ⟨tables ++ [(name, old ++ [elision])], some name, false, false⟩ := by
      rw [readRow]
      dsimp only
      rw [List.headD_eq_head?_getD, hcells.1, Option.getD_some, if_neg (by simp), if_pos rfl,
        if_pos hcells.2, State.addRow]
      dsimp only
      rw [addRows_concat hname]
    rw [Runs.run_cons, step_piped hline, readPiped, hfurniture.1, if_neg Bool.false_ne_true,
      if_neg hfurniture.2, hcells.1, if_neg (by decide), if_neg Bool.false_ne_true, hread, ih,
      List.append_assoc]
    rfl

/-! ## One table of many -/

/-- No section of the lines is that of the table. -/
def Elsewhere (table : String) (lines : List String) : Prop :=
  ∀ line ∈ lines, ∀ names ∈ sectionNames? (Text.strip Text.isSpace line.toList),
    String.ofList (canonicalName names) ≠ table

instance (table : String) (lines : List String) : Decidable (Elsewhere table lines) :=
  inferInstanceAs (Decidable (∀ line ∈ lines, _))

/-- A line that ends a table: a section or a chapter begins. -/
def Ends (line : String) : Prop :=
  (sectionNames? (Text.strip Text.isSpace line.toList)).isSome = true ∨
    isChapter (Text.strip Text.isSpace line.toList) = true

instance (line : String) : Decidable (Ends line) := inferInstanceAs (Decidable (_ ∨ _))

/-- The table under way is another one, or none. -/
structure Away (table : String) (old : Option (List String)) (s : State) : Prop where
  lookup : s.tables.lookup table = old
  current : s.current ≠ some table

variable {table : String} {old : Option (List String)}

theorem Away.step (h : Away table old s) (hbase : table ≠ "base-addresses") {line : String}
    (hline : Elsewhere table [line]) : Away table old (step s line) := by
  have hother : ∀ name : String, name ≠ table → ∀ new tables,
      (addRows name new tables).lookup table = tables.lookup table :=
    fun name hne new tables => Dict.lookup_set_of_ne hne.symm
  rcases step_cases s line with ⟨names, hnames, hstep⟩ | ⟨htables, hcurrent⟩ |
    ⟨name, row, htarget, -, hstep⟩
  · have hne := hline line (List.mem_singleton_self line) names hnames
    rw [hstep]
    exact ⟨(hother _ hne [] _).trans h.lookup, fun heq => hne (Option.some.inj heq)⟩
  · refine ⟨htables ▸ h.lookup, fun heq => ?_⟩
    rcases List.mem_cons.1 hcurrent with hnone | hsame
    · exact absurd (hnone.symm.trans heq) (by simp)
    · exact h.current ((List.mem_singleton.1 hsame).symm.trans heq)
  · have hne : name ≠ table := by
      rintro rfl
      cases hc : s.current with
      | some current => exact h.current (hc.trans (by simpa [State.target, hc] using htarget))
      | none =>
        obtain ⟨-, heq⟩ : s.inAddressMap = true ∧ "base-addresses" = name := by
          simpa [State.target, hc] using htarget
        exact hbase heq.symm
    rw [hstep]
    exact ⟨(hother name hne [row] _).trans h.lookup, h.current⟩

theorem Away.run (h : Away table old s) (hbase : table ≠ "base-addresses")
    (hlines : Elsewhere table lines) : Away table old (Runs.run PdfTables.step s lines) :=
  Runs.invariant h (fun _ _ hline hs => hs.step hbase hline)
    (Runs.guarded_of_forall fun line hline _ => fun _ hline' =>
      List.mem_singleton.1 hline' ▸ hlines line hline)

/-- What a table has when it ends it keeps. -/
theorem away_of_ends {line : String} (h : Ends line) (hline : Elsewhere table [line])
    (hlookup : s.tables.lookup table = old) : Away table old (PdfTables.step s line) := by
  unfold PdfTables.step
  dsimp only
  cases hnames : sectionNames? (Text.strip Text.isSpace line.toList) with
  | some names =>
    have hne := hline line (List.mem_singleton_self line) names hnames
    exact ⟨(Dict.lookup_set_of_ne hne.symm).trans hlookup, fun heq => hne (Option.some.inj heq)⟩
  | none =>
    have hchapter : isChapter (Text.strip Text.isSpace line.toList) = true := by
      simpa [Ends, hnames] using h
    dsimp only
    rw [hchapter, if_pos rfl]
    exact ⟨hlookup, by simp⟩

/-- A section that is declared once gives the rows its lines hold. -/
theorem section_extracted {pre post : List String} {declared : List (List Char)} {head : String}
    (hhead : sectionNames? (Text.strip Text.isSpace head.toList) = some declared)
    (hname : name = String.ofList (canonicalName declared)) (hbase : name ≠ "base-addresses")
    (honce : Elsewhere name (pre ++ post)) (hpost : ∀ line ∈ post.head?, Ends line)
    (hlines : Laid lines rows) (hne : rows ≠ []) :
    (parseTables (pre ++ head :: lines ++ post)).lookup name = some (rows.map formatRow) := by
  have hpre : Away name none (Runs.run PdfTables.step fresh pre) :=
    Away.run ⟨rfl, by simp [fresh]⟩ hbase fun line hline => honce line (List.mem_append_left _ hline)
  have hkey : name ∉ Dict.keys (Runs.run PdfTables.step fresh pre).tables := by
    intro hmem
    obtain ⟨x, hx, hxname⟩ := List.mem_map.1 hmem
    have hnone := List.lookup_eq_none_iff.1 hpre.lookup x hx
    simp [hxname] at hnone
  have hbegin : PdfTables.step (Runs.run PdfTables.step fresh pre) head =
      ⟨(Runs.run PdfTables.step fresh pre).tables ++ [(name, [])], some name, false, false⟩ := by
    simp only [PdfTables.step, hhead, ← hname, addRows, hpre.lookup, Dict.set_of_not_mem hkey]
    rfl
  have hsection : (Runs.run PdfTables.step fresh (pre ++ head :: lines)).tables.lookup name =
      some (rows.map formatRow) := by
    rw [Runs.run_append, Runs.run_cons, hbegin, hlines.run hkey, List.nil_append,
      ← Dict.set_of_not_mem hkey]
    exact Dict.lookup_set_self
  have hall : (Runs.run PdfTables.step fresh (pre ++ head :: lines ++ post)).tables.lookup name =
      some (rows.map formatRow) := by
    rw [Runs.run_append]
    cases post with
    | nil => exact hsection
    | cons line post =>
      have haway := away_of_ends (hpost line rfl)
        (fun l hl => honce l (by simp [List.mem_singleton.1 hl])) hsection
      exact (haway.run hbase fun l hl => honce l (by simp [hl])).lookup
  have hkeys := (sound_run (pre ++ head :: lines ++ post)).keys
  refine Dict.lookup_of_mem (hkeys.sublist (List.filter_sublist.map Prod.fst)) ?_
  exact List.mem_filter.2 ⟨Dict.mem_of_lookup hall, by simpa using hne⟩

end Pygt1000.PdfTables
