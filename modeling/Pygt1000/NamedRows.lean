import Pygt1000.Conversion

/-!
# Named rows and the keys they are stored under

A row whose name is a key already is stored under the name with a number, which may be a key as
well: the rows of a text all keep their entries exactly if that never happens (`rows_kept_iff`).
Whether it does can be seen from the names of the rows alone (`NumbersFree`); it cannot where no
name is another one, there twice, with a number (`numbersFree_of_apart`).
-/

namespace Pygt1000.OptionsToJson

variable {s t : State} {line key : String} {r : Row} {e : Entry} {lines : List String}

/-! ## The key a number makes -/

/-- The row a line is read as. -/
def rowOf (s : State) (line : String) : List Row :=
  match readLine s.opened line with
  | .ok (.row r) => [r]
  | _ => []

/-- The rows of a text with a name and a range, in order. -/
def namedRows (lines : List String) : List Row := Passes.outputs step rowOf fresh lines

/-- A row with a name that is taken gets a number that makes a name that is not. -/
def NumberFree (s : State) (line : String) : Prop :=
  ∀ r, readLine s.opened line = .ok (.row r) → storedName r.name ∈ Dict.keys s.result →
    storedName r.name ++ toString (s.conflict (storedName r.name)) ∉ Dict.keys s.result

theorem NumberFree.keyOf_not_mem (h : NumberFree s line) (hread : readLine s.opened line = .ok (.row r)) :
    s.keyOf r ∉ Dict.keys s.result := by
  unfold State.keyOf State.keyFor
  split
  · next htaken => exact h r hread htaken
  · next hfree => exact hfree

theorem numberFree_of_not_mem (hread : readLine s.opened line = .ok (.row r))
    (h : s.keyOf r ∉ Dict.keys s.result) : NumberFree s line := by
  intro r' hread' htaken
  obtain rfl : r = r' := by simpa [hread] using hread'
  rwa [State.keyOf, State.keyFor, if_pos htaken] at h

/-- The same of the names alone: what is `taken` so far, and how many `numbers` each name has had. -/
def NumbersFree (taken : List String) (numbers : String → Nat) : List String → Prop
  | [] => True
  | name :: names =>
    if name ∈ taken then
      name ++ toString (numbers name + 1) ∉ taken ∧
        NumbersFree ((name ++ toString (numbers name + 1)) :: taken)
          (Function.update numbers name (numbers name + 1)) names
    else NumbersFree (name :: taken) numbers names

instance decidableNumbersFree : ∀ (taken : List String) (numbers : String → Nat) (names : List String),
    Decidable (NumbersFree taken numbers names)
  | _, _, [] => isTrue trivial
  | taken, numbers, name :: names =>
    have := decidableNumbersFree ((name ++ toString (numbers name + 1)) :: taken)
      (Function.update numbers name (numbers name + 1)) names
    have := decidableNumbersFree (name :: taken) numbers names
    inferInstanceAs (Decidable (if name ∈ taken then
      name ++ toString (numbers name + 1) ∉ taken ∧
        NumbersFree ((name ++ toString (numbers name + 1)) :: taken)
          (Function.update numbers name (numbers name + 1)) names
      else NumbersFree (name :: taken) numbers names))

theorem conflict_withRow (m : String) : (s.withRow r e).conflict m =
    if m = storedName r.name ∧ storedName r.name ∈ Dict.keys s.result then s.conflict m + 1
    else s.conflict m := by
  by_cases htaken : storedName r.name ∈ Dict.keys s.result
  · by_cases hm : m = storedName r.name
    · simp [State.conflict, State.withRow, htaken, hm]
    · simp [State.conflict, State.withRow, htaken, hm, Dict.lookup_set]
  · simp [State.conflict, State.withRow, htaken]

/-- A line of another kind adds no row and takes no number. -/
theorem rowOf_other (h : ∀ r, readLine s.opened line ≠ .ok (.row r)) :
    rowOf s line = [] ∧ NumberFree s line := by
  refine ⟨?_, fun r hread => absurd hread (h r)⟩
  unfold rowOf
  split
  · next r hread => exact absurd hread (h r)
  · rfl

/-- The names of the rows say whether the numbers are free. -/
theorem guarded_iff_numbersFree {taken : List String} {numbers : String → Nat}
    (htaken : ∀ k, k ∈ taken ↔ k ∈ Dict.keys s.result) (hnumbers : ∀ m, s.conflict m = numbers m + 1) :
    Passes.Guarded step NumberFree s lines ↔
      NumbersFree taken numbers ((Passes.outputs step rowOf s lines).map fun r => storedName r.name) := by
  induction lines generalizing s taken numbers with
  | nil => exact iff_of_true trivial trivial
  | cons line lines ih =>
    cases hstep : step s line with
    | error err =>
      refine iff_of_true (fun t ht => ?_) ?_
      · rw [hstep] at ht
        cases ht
      · simp [Passes.outputs, hstep, NumbersFree]
    | ok t =>
      rw [Passes.guarded_cons hstep, Passes.outputs_cons hstep]
      rcases step_cases hstep with ⟨_, hread, rfl⟩ | ⟨items, hread, rfl⟩ | ⟨r, e, hread, _, rfl⟩ | ⟨hread, rfl⟩
      · obtain ⟨hnone, hfree⟩ : rowOf s line = [] ∧ NumberFree s line := rowOf_other fun r => by simp [hread]
        rw [hnone, List.nil_append, and_iff_right hfree]
        exact ih htaken hnumbers
      · obtain ⟨hnone, hfree⟩ : rowOf s line = [] ∧ NumberFree s line := rowOf_other fun r => by simp [hread]
        rw [hnone, List.nil_append, and_iff_right hfree]
        refine ih (fun k => ?_) fun m => ?_
        · rw [storeOptions_keys]
          exact htaken k
        · simpa [State.conflict] using hnumbers m
      · simp only [rowOf, hread, List.singleton_append, List.map_cons]
        have hfree : NumberFree s line ↔ (storedName r.name ∈ taken →
            storedName r.name ++ toString (numbers (storedName r.name) + 1) ∉ taken) := by
          rw [htaken, htaken, ← hnumbers]
          refine ⟨fun h => h r hread, fun h r' hread' => ?_⟩
          obtain rfl : r = r' := by simpa [hread] using hread'
          exact h
        rw [hfree]
        by_cases hmem : storedName r.name ∈ taken
        · have hkeys := (htaken _).1 hmem
          rw [NumbersFree, if_pos hmem, ← hnumbers]
          refine and_congr (imp_iff_right hmem) (ih (fun k => ?_) fun m => ?_)
          · rw [withRow_result, Dict.mem_keys_set, State.keyOf, State.keyFor, if_pos hkeys, List.mem_cons, htaken]
          · rw [conflict_withRow]
            by_cases hm : m = storedName r.name
            · simp [hm, hkeys]
            · simp [hm, hnumbers]
        · have hkeys : storedName r.name ∉ Dict.keys s.result := fun h => hmem ((htaken _).2 h)
          rw [NumbersFree, if_neg hmem, and_iff_right fun h => absurd h hmem]
          refine ih (fun k => ?_) fun m => ?_
          · rw [withRow_result, Dict.mem_keys_set, State.keyOf, State.keyFor, if_neg hkeys, List.mem_cons, htaken]
          · rw [conflict_withRow, if_neg fun h => hkeys h.2, hnumbers]
      · obtain ⟨hnone, hfree⟩ : rowOf t line = [] ∧ NumberFree t line := rowOf_other fun r => by simp [hread]
        rw [hnone, List.nil_append, and_iff_right hfree]
        exact ih htaken hnumbers

theorem guarded_iff_numbersFree_fresh : Passes.Guarded step NumberFree fresh lines ↔
    NumbersFree [] (fun _ => 0) ((namedRows lines).map fun r => storedName r.name) :=
  guarded_iff_numbersFree (by simp [fresh, Dict.keys]) fun m => by simp [State.conflict, fresh]

theorem mem_keys_step (h : step s line = .ok t) (hk : key ∈ Dict.keys s.result) :
    key ∈ Dict.keys t.result := by
  rcases step_cases h with ⟨_, _, rfl⟩ | ⟨_, _, rfl⟩ | ⟨r, e, _, _, rfl⟩ | ⟨_, rfl⟩
  · exact hk
  · rwa [storeOptions_keys]
  · exact Dict.mem_keys_set.2 (.inr hk)
  · exact hk

/-- Where every number is free, no row takes the place of an entry. -/
theorem kept_of_numberFree (hg : Passes.Guarded step NumberFree s lines) (hk : key ∈ Dict.keys s.result) :
    Kept key s lines := by
  induction lines generalizing s with
  | nil => trivial
  | cons line lines ih =>
    intro t ht
    obtain ⟨hfree, hg⟩ := hg t ht
    exact ⟨fun r hread heq => hfree.keyOf_not_mem hread (heq ▸ hk), ih hg (mem_keys_step ht hk)⟩

/-! ## One entry per row -/

/-- Addresses and ranges, in order. -/
def records (result : List (String × Entry)) : List (List Int × List Int) :=
  result.map fun x => (x.2.offset, x.2.valueRange)

/-- What lines with these rows add to the entries: one for each row at most, and all of them exactly
under the condition. -/
structure Recorded (s t : State) (rows : List Row) (free : Prop) : Prop where
  length_le : t.result.length ≤ s.result.length + rows.length
  kept : free → records t.result = records s.result ++ rows.map fun r => (r.offset, r.valueRange)
  free_of_length : t.result.length = s.result.length + rows.length → free

/-- A line that adds no row. -/
theorem recorded_nil {free : Prop} (h : records t.result = records s.result) (hfree : free) :
    Recorded s t [] free := by
  have hlen : t.result.length = s.result.length := by simpa [records] using congrArg List.length h
  exact ⟨by simp [hlen], fun _ => by simp [h], fun _ => hfree⟩

theorem Recorded.trans {u : State} {rows rows' : List Row} {free free' : Prop} (h : Recorded s u rows free)
    (h' : Recorded u t rows' free') : Recorded s t (rows ++ rows') (free ∧ free') := by
  have hle := h.length_le
  have hle' := h'.length_le
  refine ⟨?_, fun ⟨hfree, hfree'⟩ => ?_, fun hlen => ?_⟩
  · rw [List.length_append]
    omega
  · rw [h'.kept hfree', h.kept hfree]
    simp
  · rw [List.length_append] at hlen
    exact ⟨h.free_of_length (by omega), h'.free_of_length (by omega)⟩

/-- One line, where no marker waits. -/
theorem recorded_step (h : step s line = .ok t) (hp : s.pendingStart = none)
    (hm : ∀ start, readLine s.opened line ≠ .ok (.marker start)) :
    t.pendingStart = none ∧ Recorded s t (rowOf s line) (NumberFree s line) := by
  rcases step_cases h with ⟨start, hread, _⟩ | ⟨items, hread, rfl⟩ | ⟨r, e, hread, he, rfl⟩ | ⟨hread, rfl⟩
  · exact absurd hread (hm start)
  · refine ⟨by simpa using hp, ?_⟩
    simp only [rowOf, hread]
    refine recorded_nil ?_ fun r hr => by simp [hread] at hr
    unfold storeOptions
    split
    · rfl
    · simp only [records, Dict.modify, List.map_map]
      refine List.map_congr_left fun x _ => ?_
      simp only [Function.comp]
      split <;> rfl
  · refine ⟨rfl, ?_⟩
    rw [hp] at he
    cases he
    simp only [rowOf, hread]
    refine ⟨?_, fun hfree => ?_, fun hlen => ?_⟩
    · rw [withRow_result, Dict.length_set]
      split <;> simp
    · rw [withRow_result, Dict.set_of_not_mem (hfree.keyOf_not_mem hread)]
      simp [records]
    · rw [withRow_result, Dict.length_set] at hlen
      refine numberFree_of_not_mem hread fun hkey => ?_
      rw [if_pos hkey] at hlen
      simp at hlen
  · refine ⟨hp, ?_⟩
    simp only [rowOf, hread]
    exact recorded_nil rfl fun r hr => by simp [hread] at hr

/-- A text without markers. -/
theorem recorded_run (h : lines.foldlM step s = .ok t) (hp : s.pendingStart = none)
    (hm : ∀ line ∈ lines, ∀ opened start, readLine opened line ≠ .ok (.marker start)) :
    Recorded s t (Passes.outputs step rowOf s lines) (Passes.Guarded step NumberFree s lines) := by
  induction lines generalizing s with
  | nil =>
    obtain rfl := Passes.nil.1 h
    exact recorded_nil rfl trivial
  | cons line lines ih =>
    obtain ⟨u, hu, h⟩ := Passes.cons.1 h
    obtain ⟨hpu, hline⟩ := recorded_step hu hp (hm line List.mem_cons_self s.opened)
    have hrest := ih h hpu fun l hl => hm l (List.mem_cons_of_mem line hl)
    have hboth := hline.trans hrest
    rw [Passes.outputs_cons hu]
    refine ⟨hboth.length_le, fun hg => hboth.kept (hg u hu), fun hlen u' hu' => ?_⟩
    obtain rfl : u = u' := by rw [hu, Except.ok.injEq] at hu'; exact hu'
    exact hboth.free_of_length hlen

theorem records_fixSpanTails {result res : List (String × Entry)} (h : fixSpanTails result = .ok res) :
    records res = records result := by
  have hall := fixSpanTails_eq_ok h
  clear h
  induction hall with
  | nil => rfl
  | cons hxy _ ih =>
    have hfields := fixSpanTail_fields hxy.2
    simp only [records, List.map_cons] at ih ⊢
    rw [ih, hfields]

/-- A line that is read as the row wherever it stands. -/
def IsRow (line : String) (r : Row) : Prop := ∀ opened, readLine opened line = .ok (.row r)

/-- A text of rows is converted, whatever their ranges. -/
theorem rows_returns (h : ∀ line ∈ lines, ∃ r, IsRow line r) : ∃ res, processData lines = .ok res := by
  have h0 : fresh.pendingStart = none ∧ ∀ x ∈ fresh.result, x.2.values = [] := by simp [fresh]
  obtain ⟨t, ht, -, hempty⟩ := Passes.returns
    (I := fun s : State => s.pendingStart = none ∧ ∀ x ∈ s.result, x.2.values = [])
    (fun s line hline hs => by
      obtain ⟨r, hr⟩ := h line hline
      refine ⟨_, step_row (e := ⟨r.offset, r.valueRange, none, []⟩) (hr s.opened) (by rw [hs.1]; rfl), rfl,
        fun x hx => ?_⟩
      rcases Dict.mem_of_mem_set hx with rfl | hx
      · rfl
      · exact hs.2 x hx) h0
  have hfix : ∀ x ∈ t.result, ∃ y, (fixSpanTail x.2).map (Prod.mk x.1) = .ok y :=
    fun x hx => ⟨x, by simp [fixSpanTail, hempty x hx]⟩
  obtain ⟨res, hres⟩ := Passes.mapM_returns hfix
  exact ⟨res, by rw [processData, ht, ok_bind]; exact hres⟩

/-- **One entry per row exactly if no number runs into a name.** A text of rows is converted. A text
of rows and any other lines but markers, once converted, has one entry per row, in order and with the
row's address and range, exactly if every row with a name that is taken gets a number that makes a
name that is not; the names of the rows decide it. -/
theorem rows_kept_iff (lines : List String) :
    ((∀ line ∈ lines, ∃ r, IsRow line r) → ∃ res, processData lines = .ok res) ∧
    ∀ res, processData lines = .ok res →
      (∀ line ∈ lines, ∀ opened start, readLine opened line ≠ .ok (.marker start)) →
        (records res = (namedRows lines).map (fun r => (r.offset, r.valueRange)) ↔
          NumbersFree [] (fun _ => 0) ((namedRows lines).map fun r => storedName r.name)) := by
  refine ⟨rows_returns, fun res hres hm => ?_⟩
  obtain ⟨t, ht, hfix⟩ := processData_eq_ok hres
  have hrun : Recorded fresh t (namedRows lines) (Passes.Guarded step NumberFree fresh lines) :=
    recorded_run ht rfl hm
  rw [records_fixSpanTails hfix, ← guarded_iff_numbersFree_fresh]
  refine ⟨fun heq => hrun.free_of_length ?_, fun hfree => by simpa [records, fresh] using hrun.kept hfree⟩
  simpa [records, fresh] using congrArg List.length heq

/-- The second BAND is stored as BAND1, in the place of the row of that name. -/
theorem row_overwritten :
    List.Forall₂ IsRow
      ["| 00 04 | 0000 00aa | BAND1 (0 - 3) |", "| 00 05 | 0000 0aaa | BAND (0 - 5) |",
        "| 00 06 | 0000 0aaa | BAND (0 - 7) |"]
      [⟨"BAND1", [0, 4], [0, 3]⟩, ⟨"BAND", [0, 5], [0, 5]⟩, ⟨"BAND", [0, 6], [0, 7]⟩] ∧
    processData
      ["| 00 04 | 0000 00aa | BAND1 (0 - 3) |", "| 00 05 | 0000 0aaa | BAND (0 - 5) |",
        "| 00 06 | 0000 0aaa | BAND (0 - 7) |"] =
      .ok [("BAND1", ⟨[0, 6], [0, 7], none, []⟩), ("BAND", ⟨[0, 5], [0, 5], none, []⟩)] := by
  refine ⟨.cons (fun opened => ?_) (.cons (fun opened => ?_) (.cons (fun opened => ?_) .nil)), ?_⟩
  · cases opened <;> decide +kernel
  · cases opened <;> decide +kernel
  · cases opened <;> decide +kernel
  · decide +kernel

example : ¬ NumbersFree [] (fun _ => 0) ["BAND1", "BAND", "BAND"] := by decide +kernel

/-! ## Names that no number runs into -/

/-- No name is a name that is there twice, with a number. -/
def Apart (names : List String) : Prop :=
  ∀ n ∈ names, ∀ m ∈ names, 2 ≤ names.count m → ∀ c : Nat, n ≠ m ++ toString c

/-- What is taken are names that came, and names there twice with a number they have had. -/
def Numbered (before taken : List String) (numbers : String → Nat) : Prop :=
  ∀ k ∈ taken, k ∈ before ∨
    ∃ (m : String) (c : Nat), k = m ++ toString c ∧ 2 ≤ before.count m ∧ c ≤ numbers m

section Names

variable {before taken names : List String} {numbers : String → Nat} {n : String}

/-- One more name, stored as it is. -/
theorem Numbered.name (h : Numbered before taken numbers) : Numbered (before ++ [n]) (n :: taken) numbers := by
  intro k hk
  rcases List.mem_cons.1 hk with rfl | hk
  · exact .inl (by simp)
  · rcases h k hk with hk | ⟨m, c, hkm, hm, hc⟩
    · exact .inl (List.mem_append_left [n] hk)
    · exact .inr ⟨m, c, hkm, hm.trans ((List.sublist_append_left before [n]).count_le m), hc⟩

/-- One more name, stored with its next number. -/
theorem Numbered.number (h : Numbered before taken numbers) (htwice : 2 ≤ (before ++ [n]).count n) :
    Numbered (before ++ [n]) ((n ++ toString (numbers n + 1)) :: taken)
      (Function.update numbers n (numbers n + 1)) := by
  intro k hk
  rcases List.mem_cons.1 hk with rfl | hk
  · exact .inr ⟨n, numbers n + 1, rfl, htwice, by simp⟩
  · rcases h k hk with hk | ⟨m, c, hkm, hm, hc⟩
    · exact .inl (List.mem_append_left [n] hk)
    · refine .inr ⟨m, c, hkm, hm.trans ((List.sublist_append_left before [n]).count_le m), ?_⟩
      by_cases hmn : m = n
      · subst hmn
        rw [Function.update_self]
        omega
      · rwa [Function.update_of_ne hmn]

/-- Where the names are apart, a name that is taken came before. -/
theorem Numbered.mem_before (h : Numbered before taken numbers) (hap : Apart (before ++ n :: names))
    (htaken : n ∈ taken) : n ∈ before := by
  rcases h n htaken with hmem | ⟨m, c, hm, htwice, -⟩
  · exact hmem
  · have hm2 := htwice.trans ((List.sublist_append_left before (n :: names)).count_le m)
    exact absurd hm (hap n (by simp) m (List.count_pos_iff.1 (by omega)) hm2 c)

/-- Where the names are apart, the number a repeated name gets makes a name that is not taken. -/
theorem Numbered.number_free (h : Numbered before taken numbers) (hap : Apart (before ++ n :: names))
    (htwice : 2 ≤ (before ++ n :: names).count n) : n ++ toString (numbers n + 1) ∉ taken := by
  intro hk
  have hn : n ∈ before ++ n :: names := by simp
  rcases h _ hk with hmem | ⟨m, c, hm, hm2, hc⟩
  · exact hap _ (List.mem_append_left _ hmem) n hn htwice _ rfl
  · have hm2 := hm2.trans ((List.sublist_append_left before (n :: names)).count_le m)
    have hmem : m ∈ before ++ n :: names := List.count_pos_iff.1 (by omega)
    rcases Text.append_toString_eq hm with rfl | ⟨d, hd⟩ | ⟨d, hd⟩
    · rw [← Text.append_toString_inj hm] at hc
      omega
    · exact hap n hn m hmem hm2 d hd
    · exact hap m hmem n hn htwice d hd

theorem numbersFree_of_numbered (h : Numbered before taken numbers) (hap : Apart (before ++ names)) :
    NumbersFree taken numbers names := by
  induction names generalizing before taken numbers with
  | nil => trivial
  | cons n names ih =>
    have hap' : Apart (before ++ [n] ++ names) := by simpa using hap
    by_cases htaken : n ∈ taken
    · have hbefore : 1 ≤ before.count n := List.count_pos_iff.2 (h.mem_before hap htaken)
      have htwice : 2 ≤ (before ++ [n]).count n := by
        rw [List.count_append, List.count_singleton_self]
        omega
      have hall : 2 ≤ (before ++ n :: names).count n := by
        rw [List.count_append, List.count_cons_self]
        omega
      rw [NumbersFree, if_pos htaken]
      exact ⟨h.number_free hap hall, ih (h.number htwice) hap'⟩
    · rw [NumbersFree, if_neg htaken]
      exact ih h.name hap'

/-- Where no name is a name that is there twice, with a number, every number is free. -/
theorem numbersFree_of_apart (h : Apart names) : NumbersFree [] (fun _ => 0) names :=
  have h0 : Numbered [] [] fun _ => 0 := fun _ hk => absurd hk List.not_mem_nil
  numbersFree_of_numbered h0 h

end Names

end Pygt1000.OptionsToJson
