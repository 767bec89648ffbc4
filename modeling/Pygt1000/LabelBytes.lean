import Pygt1000.AddressMap
import Pygt1000.ValueLists

/-!
# Labels and bytes of a converted table

In every table `processData` returns, two labels of a parameter are on different values, whatever the
lines: the counter of a row only grows, and every name it gives a value to leaves the ones before
behind (`OneToOne.assign`). So the map, which takes the first label on a value, finds the label it
was given the value of (`labels_read_back`).
-/

namespace Pygt1000.OptionsToJson

variable {s t : State} {line : String} {r : Row} {e e' : Entry} {items lines : List String}
  {res : List (String × Entry)} {values : List (String × Int)} {start : Int}

/-- Every label once, no two on one value, no value below zero. -/
structure OneToOne (values : List (String × Int)) : Prop where
  labels : (Dict.keys values).Nodup
  apart : ∀ x ∈ values, ∀ y ∈ values, x.2 = y.2 → x.1 = y.1
  nonneg : ∀ x ∈ values, 0 ≤ x.2

theorem oneToOne_nil : OneToOne [] := by
  refine ⟨List.nodup_nil, ?_, ?_⟩ <;> simp

/-- A value above all others. -/
theorem OneToOne.set (h : OneToOne values) (hlt : ∀ x ∈ values, x.2 < start) (hstart : 0 ≤ start)
    (label : String) : OneToOne (Dict.set label start values) := by
  refine ⟨Dict.nodup_keys_set h.labels, fun x hx y hy hxy => ?_, fun x hx => ?_⟩
  · rcases Dict.mem_of_mem_set hx with rfl | hx <;> rcases Dict.mem_of_mem_set hy with rfl | hy
    · rfl
    · have := hlt y hy
      simp only at hxy
      omega
    · have := hlt x hx
      simp only at hxy
      omega
    · exact h.apart x hx y hy hxy
  · rcases Dict.mem_of_mem_set hx with rfl | hx
    · exact hstart
    · exact h.nonneg x hx

/-- Options numbered from above all values. -/
theorem OneToOne.assign (h : OneToOne values) (hlt : ∀ x ∈ values, x.2 < start) (hstart : 0 ≤ start)
    (items : List String) : OneToOne (assign start values items) ∧
      ∀ x ∈ OptionsToJson.assign start values items, x.2 < start + items.length := by
  induction items generalizing start values with
  | nil => exact ⟨h, by simpa [OptionsToJson.assign] using hlt⟩
  | cons item items ih =>
    have hlt' : ∀ x ∈ Dict.set item start values, x.2 < start + 1 := by
      intro x hx
      rcases Dict.mem_of_mem_set hx with rfl | hx
      · simp
      · have := hlt x hx
        omega
    obtain ⟨hone, hbound⟩ := ih (h.set hlt hstart item) hlt' (by omega)
    refine ⟨hone, fun x hx => ?_⟩
    have hx := hbound x hx
    simp only [List.length_cons]
    omega

theorem oneToOne_number (hd : items.Nodup) (hstart : 0 ≤ start) : OneToOne (number start items) := by
  refine ⟨by rwa [keys_number], ?_, fun x hx => hstart.trans (mem_number hx).1⟩
  clear hstart
  induction items generalizing start with
  | nil => simp [number]
  | cons item items ih =>
    intro x hx y hy hxy
    rw [number, List.mem_cons] at hx hy
    rcases hx with rfl | hx <;> rcases hy with rfl | hy
    · rfl
    · have := (mem_number hy).1
      simp only at hxy
      omega
    · have := (mem_number hx).1
      simp only at hxy
      omega
    · exact ih (List.nodup_cons.1 hd).2 x hx y hy hxy

/-! ## The loop -/

/-- A range has no negative bound: it is split at every minus. -/
theorem parseValueRange_nonneg {txt : List Char} {range : List Int} (h : parseValueRange txt = .ok range) :
    ∀ n ∈ range, 0 ≤ n := by
  intro n hn
  obtain ⟨part, hpart, hint⟩ := Passes.exists_of_mem_mapM h hn
  cases hk : Text.int? 10 part with
  | none => simp [toInt, hk] at hint
  | some k =>
    obtain rfl : k = n := by simpa [toInt, hk] using hint
    exact Text.int?_nonneg (Text.not_mem_of_mem_splitOn hpart) hk

theorem readLine_range {opened : Bool} {text : String} (h : readLine opened text = .ok (.row r)) :
    ∀ n ∈ r.valueRange, 0 ≤ n := by
  rcases readLine_cases h with ⟨_, hr, _⟩ | ⟨_, hr⟩ | ⟨_, _, _, _, hr, _, _, hrange⟩ | hr
  · cases hr
  · cases hr
  · cases hr
    exact parseValueRange_nonneg hrange
  · cases hr

/-- What the loop keeps: every list is one to one, and the values of the current one are below the
next value. -/
structure Labelled (s : State) : Prop where
  keys : (Dict.keys s.result).Nodup
  entries : ∀ x ∈ s.result, OneToOne x.2.values ∧ ∀ n ∈ x.2.valueRange, 0 ≤ n
  next : ∀ name range, s.current = some (name, range) → 0 ≤ range.headD 0 ∧
    ∀ e, s.result.lookup name = some e → ∀ x ∈ e.values, x.2 < range.headD 0 + s.offset

theorem labelled_fresh : Labelled fresh := by
  refine ⟨List.nodup_nil, ?_, ?_⟩ <;> simp [fresh]

theorem Labelled.storeOptions (h : Labelled s) (items : List String) : Labelled (storeOptions s items) := by
  cases hc : s.current with
  | none => simpa [OptionsToJson.storeOptions, hc] using h
  | some c =>
    obtain ⟨name, range⟩ := c
    obtain ⟨hrange, hnext⟩ := h.next name range hc
    have hassign (e : Entry) (he : s.result.lookup name = some e) :=
      (h.entries (name, e) (Dict.mem_of_lookup he)).1.assign (hnext e he) (by omega) items
    refine ⟨by simpa using h.keys, fun x hx => ?_, fun name' range' hc' => ?_⟩
    · simp only [OptionsToJson.storeOptions, hc] at hx
      rcases Dict.mem_of_mem_modify hx with ⟨e, he, rfl⟩ | hx
      · exact ⟨(hassign e (Dict.lookup_of_mem h.keys he)).1, (h.entries (name, e) he).2⟩
      · exact h.entries x hx
    · obtain ⟨rfl, rfl⟩ : name = name' ∧ range = range' := by simpa [hc] using hc'
      refine ⟨hrange, fun e he x hx => ?_⟩
      simp only [OptionsToJson.storeOptions, hc, Dict.lookup_modify, beq_self_eq_true, if_true,
        Option.map_eq_some_iff] at he ⊢
      obtain ⟨e₀, he₀, rfl⟩ := he
      have hx := (hassign e₀ he₀).2 x hx
      push_cast
      omega

theorem Labelled.withRow (h : Labelled s) (he : newEntry s.pendingStart r = .ok e)
    (hrange : ∀ n ∈ r.valueRange, 0 ≤ n) : Labelled (s.withRow r e) := by
  obtain ⟨hentry, hvalues⟩ := newEntry_fields he
  refine ⟨Dict.nodup_keys_set h.keys, fun x hx => ?_, fun name range hc => ?_⟩
  · rcases Dict.mem_of_mem_set hx with rfl | hx
    · exact ⟨by rw [hvalues]; exact oneToOne_nil, by rwa [hentry]⟩
    · exact h.entries x hx
  · rw [withRow_current, Option.some.injEq, Prod.mk.injEq] at hc
    obtain ⟨rfl, rfl⟩ := hc
    refine ⟨?_, fun e' he' x hx => ?_⟩
    · cases hr : r.valueRange with
      | nil => simp
      | cons lo range => exact hrange lo (by simp [hr])
    · rw [withRow_result, Dict.lookup_set_self, Option.some.injEq] at he'
      rw [← he', hvalues] at hx
      cases hx

theorem Labelled.step (h : Labelled s) (hs : step s line = .ok t) : Labelled t := by
  rcases step_cases hs with ⟨_, _, rfl⟩ | ⟨items, _, rfl⟩ | ⟨r, e, hread, he, rfl⟩ | ⟨_, rfl⟩
  · exact ⟨h.keys, h.entries, h.next⟩
  · exact h.storeOptions items
  · exact h.withRow he (readLine_range hread)
  · exact h

/-! ## The post-pass -/

theorem OneToOne.fixSpanTail (h : OneToOne e.values) (hrange : ∀ n ∈ e.valueRange, 0 ≤ n)
    (he : fixSpanTail e = .ok e') : OneToOne e'.values := by
  unfold OptionsToJson.fixSpanTail at he
  split at he
  · cases he
    exact h
  · next first v tail hvalues =>
    split at he
    · cases he
      exact h
    · split at he
      · cases he
        exact oneToOne_nil
      · split at he
        · next lo hi hlohi =>
          dsimp only at he
          split at he
          · cases he
            exact h
          · next hstart =>
            cases he
            have hlo := hrange lo (by simp [hlohi])
            have hlabels := h.labels
            rw [hvalues] at hlabels
            exact oneToOne_number (List.nodup_cons.1 hlabels).2 (by omega)
        · cases he

/-- Every list of a converted table is one to one. -/
theorem oneToOne_of_processData (hres : processData lines = .ok res) : ∀ x ∈ res, OneToOne x.2.values := by
  obtain ⟨t, ht, hfix⟩ := processData_eq_ok hres
  have hlabelled : Labelled t := Passes.invariant (fun s line t hs _ h => h.step hs) ht labelled_fresh
  intro x hx
  obtain ⟨y, hy, hxy⟩ := Passes.exists_of_mem_mapM hfix hx
  cases he : fixSpanTail y.2 with
  | error err => rw [he] at hxy; cases hxy
  | ok e =>
    rw [he, map_ok, Except.ok.injEq] at hxy
    subst hxy
    obtain ⟨hone, hrange⟩ := hlabelled.entries y hy
    exact hone.fixSpanTail hrange he

/-! ## Under the map -/

/-- An entry as the map loads it from the written file. -/
def Entry.toParam (e : Entry) : Specs.Param :=
  ⟨e.offset.map Int.toNat, e.valueRange.map Int.toNat, (e.bytes.map Int.toNat).getD 1,
    e.values.map fun x => (x.1, x.2.toNat)⟩

/-- The written file as a table. -/
def tableOf (res : List (String × Entry)) : Table := .params (res.map fun x => (x.1, x.2.toParam))

theorem OneToOne.labelForRaw (h : OneToOne values) {label : String} {v : Int}
    (hl : values.lookup label = some v) :
    labelForRaw (values.map fun x => (x.1, x.2.toNat)) v.toNat = some label := by
  have hmem := Dict.mem_of_lookup hl
  have hv := h.nonneg _ hmem
  cases hfind : (values.map fun x => (x.1, x.2.toNat)).find? fun x => x.2 == v.toNat with
  | none =>
    rw [List.find?_eq_none] at hfind
    exact absurd (by simp) (hfind (label, v.toNat) (List.mem_map.2 ⟨_, hmem, rfl⟩))
  | some x =>
    obtain ⟨y, hy, rfl⟩ := List.mem_map.1 (List.mem_of_find?_eq_some hfind)
    have hraw : y.2.toNat = v.toNat := by simpa using List.find?_some hfind
    have hy0 := h.nonneg y hy
    have hlabel := h.apart y hy _ hmem (by omega)
    simp [Pygt1000.labelForRaw, hfind, hlabel]

/-- **Labels and values are one to one, and each label is read back.** In a table that
`processData` returns no two labels of a parameter have one value; so the label of a label's value is
that label, for `labelForRaw`, for `readLabel` after `valueFor`, and in what `decode` makes of a frame
with that value. -/
theorem labels_read_back (hres : processData lines = .ok res) :
    (∀ x ∈ res, ∀ a ∈ x.2.values, ∀ b ∈ x.2.values, a.2 = b.2 → a.1 = b.1) ∧
    (∀ setting e label v, res.lookup setting = some e → e.values.lookup label = some v →
      labelForRaw e.toParam.values v.toNat = some label ∧
        readLabel (tableOf res) setting v.toNat = .ok (.str label) ∧
        ∀ (m : AddressMap) l value d, l.entry = e.toParam → rawInt l.entry value = .ok v.toNat →
          m.decodeAt l value = .ok d → d.strValue = some label) ∧
    (∀ (m : AddressMap) fxType setting label raw,
      m.tables (fxTypeTableName fxType) = some (tableOf res) →
        m.valueFor fxType setting label = .ok (some raw) →
          readLabel (tableOf res) setting raw = .ok (.str label)) := by
  have hone := oneToOne_of_processData hres
  have hlabel : ∀ setting e label v, res.lookup setting = some e → e.values.lookup label = some v →
      labelForRaw e.toParam.values v.toNat = some label := fun setting e label v he hv =>
    (hone (setting, e) (Dict.mem_of_lookup he)).labelForRaw hv
  have hread : ∀ setting e label v, res.lookup setting = some e → e.values.lookup label = some v →
      readLabel (tableOf res) setting v.toNat = .ok (.str label) := by
    intro setting e label v he hv
    simp [readLabel, tableOf, Dict.lookup_map, he, hlabel setting e label v he hv]
  refine ⟨fun x hx => (hone x hx).apart, fun setting e label v he hv =>
    ⟨hlabel setting e label v he hv, hread setting e label v he hv, ?_⟩, ?_⟩
  · intro m l value d hl hraw hd
    simp only [AddressMap.decodeAt, hraw, ok_bind] at hd
    obtain ⟨fx, -, hd⟩ := bind_eq_ok hd
    cases hd
    rw [hl]
    exact hlabel setting e label v he hv
  · intro m fxType setting label raw htable hvalue
    simp only [AddressMap.valueFor, htable, subscript_some, ok_bind, tableOf, find?_params, Dict.lookup_map,
      Option.map_map] at hvalue
    cases he : res.lookup setting with
    | none => simp [he] at hvalue
    | some e =>
      simp only [he, Option.map_some, Function.comp_apply, pure_eq_ok, Except.ok.injEq, Entry.toParam,
        Dict.lookup_map, Option.map_eq_some_iff] at hvalue
      obtain ⟨v, hv, rfl⟩ := hvalue
      exact hread setting e label v he hv

/-- The equalizer's TYPE, its list on two lines (`specs/PatchEq.txt:3-4`). -/
theorem labels_read_back_type :
    processData ["| 00 01 | 0000 000a | TYPE (0 - 1) |", "| | | PARAMETRIC, |", "| | | GRAPHIC |"] =
      .ok [("TYPE", ⟨[0, 1], [0, 1], none, [("PARAMETRIC", 0), ("GRAPHIC", 1)]⟩)] ∧
    readLabel (tableOf [("TYPE", ⟨[0, 1], [0, 1], none, [("PARAMETRIC", 0), ("GRAPHIC", 1)]⟩)]) "TYPE" 1 =
      .ok (.str "GRAPHIC") := by
  have hres : processData
      ["| 00 01 | 0000 000a | TYPE (0 - 1) |", "| | | PARAMETRIC, |", "| | | GRAPHIC |"] =
        .ok [("TYPE", ⟨[0, 1], [0, 1], none, [("PARAMETRIC", 0), ("GRAPHIC", 1)]⟩)] := by
    decide +kernel
  exact ⟨hres, ((labels_read_back hres).2.1 "TYPE" _ "GRAPHIC" 1 rfl rfl).2.1⟩

end Pygt1000.OptionsToJson
