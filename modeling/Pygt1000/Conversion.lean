import Pygt1000.OptionsToJson

/-!
# One line, and the lines after it

`readLine_cases` says once what a line can be, and `step_cases` what it does. An entry keeps its
address, range and width while no row is stored under its key (`Kept.fields`), and its values once
another row is the current one (`Kept.entry`); the post-pass changes values only. So a row whose
place no other takes has its own entry in the result (`RowAt.ownEntry`). A text that is `Readable`
is converted (`Readable.returns`).
-/

namespace Pygt1000.OptionsToJson

variable {s t u : State} {line key : String} {r : Row} {e : Entry} {items lines pre post : List String}
  {res : List (String × Entry)}

/-! ## One line -/

theorem readLine_cases {opened : Bool} {text : String} {read : Line} (h : readLine opened text = .ok read) :
    (∃ start, read = .marker start ∧
      hexBytes (Text.strip Text.isSpace ((column 1 (stripLine text)).dropWhile (· = '#'))) = .ok start) ∨
    (opened = true ∧ read = .options (optionsOf (expandShorthand (stripLine text)))) ∨
    (∃ name txt offset range, read = .row ⟨String.ofList (Text.strip Text.isSpace name), offset, range⟩ ∧
      Text.splitLast '(' (column 3 (stripLine text)) = some (name, txt) ∧
      hexBytes (column 1 (stripLine text)) = .ok offset ∧ parseValueRange txt = .ok range) ∨
    read = .other := by
  simp only [readLine] at h
  split at h
  · cases hstart : hexBytes (Text.strip Text.isSpace ((column 1 (stripLine text)).dropWhile (· = '#'))) with
    | error err => rw [hstart] at h; cases h
    | ok start =>
      rw [hstart, map_ok, Except.ok.injEq] at h
      exact .inl ⟨start, h.symm, rfl⟩
  · split at h
    · cases h
      exact .inr (.inr (.inr rfl))
    · split at h
      · next hopen =>
        rw [Except.ok.injEq] at h
        split at h
        · exact .inr (.inr (.inr h.symm))
        · exact .inr (.inl ⟨hopen.1, h.symm⟩)
      · split at h
        · obtain ⟨offset, hoffset, h⟩ := bind_eq_ok h
          split at h
          · cases h
            exact .inr (.inr (.inr rfl))
          · next name txt hsplit =>
            obtain ⟨range, hrange, h⟩ := bind_eq_ok h
            cases h
            exact .inr (.inr (.inl ⟨name, txt, offset, range, rfl, hsplit, hoffset, hrange⟩))
        · cases h
          exact .inr (.inr (.inr rfl))

/-- The key a row is stored under. -/
def State.keyOf (s : State) (r : Row) : String := s.keyFor (storedName r.name)

theorem step_cases (h : step s line = .ok t) :
    (∃ start, readLine s.opened line = .ok (.marker start) ∧
      t = { s with pendingStart := some start }) ∨
    (∃ items, readLine s.opened line = .ok (.options items) ∧ t = storeOptions s items) ∨
    (∃ r e, readLine s.opened line = .ok (.row r) ∧ newEntry s.pendingStart r = .ok e ∧
      t = s.withRow r e) ∨
    (readLine s.opened line = .ok .other ∧ t = s) := by
  obtain ⟨read, hread, h⟩ := bind_eq_ok h
  cases read with
  | marker start => exact .inl ⟨start, hread, by cases h; rfl⟩
  | options items => exact .inr (.inl ⟨items, hread, by cases h; rfl⟩)
  | row r =>
    simp only [storeRow] at h
    cases he : newEntry s.pendingStart r with
    | error err => rw [he] at h; cases h
    | ok e =>
      rw [he] at h
      exact .inr (.inr (.inl ⟨r, e, hread, he, by cases h; rfl⟩))
  | other => exact .inr (.inr (.inr ⟨hread, by cases h; rfl⟩))

theorem step_row (hread : readLine s.opened line = .ok (.row r)) (he : newEntry s.pendingStart r = .ok e) :
    step s line = .ok (s.withRow r e) := by
  simp [step, hread, storeRow, he]

theorem step_row_inv (hread : readLine s.opened line = .ok (.row r)) (h : step s line = .ok t) :
    ∃ e, newEntry s.pendingStart r = .ok e ∧ t = s.withRow r e := by
  rcases step_cases h with ⟨_, h, _⟩ | ⟨_, h, _⟩ | ⟨r', e, h, he, ht⟩ | ⟨h, _⟩ <;> rw [hread] at h
  · cases h
  · cases h
  · cases h
    exact ⟨e, he, ht⟩
  · cases h

/-- A new entry lists nothing yet. -/
theorem newEntry_fields {pending : Option (List Int)} (h : newEntry pending r = .ok e) :
    e.valueRange = r.valueRange ∧ e.values = [] := by
  cases pending with
  | none => cases h; exact ⟨rfl, rfl⟩
  | some start =>
    obtain ⟨last, -, h⟩ := bind_eq_ok h
    obtain ⟨first, -, h⟩ := bind_eq_ok h
    cases h
    exact ⟨rfl, rfl⟩

section

variable (s r e items)

@[simp] theorem withRow_result : (s.withRow r e).result = Dict.set (s.keyOf r) e s.result := rfl
@[simp] theorem withRow_current : (s.withRow r e).current = some (s.keyOf r, r.valueRange) := rfl
@[simp] theorem withRow_offset : (s.withRow r e).offset = 0 := rfl
@[simp] theorem withRow_pendingStart : (s.withRow r e).pendingStart = none := rfl

@[simp] theorem storeOptions_current : (storeOptions s items).current = s.current := by
  unfold storeOptions
  split <;> rfl

@[simp] theorem storeOptions_pendingStart : (storeOptions s items).pendingStart = s.pendingStart := by
  unfold storeOptions
  split <;> rfl

@[simp] theorem storeOptions_conflictCount : (storeOptions s items).conflictCount = s.conflictCount := by
  unfold storeOptions
  split <;> rfl

@[simp] theorem storeOptions_keys : Dict.keys (storeOptions s items).result = Dict.keys s.result := by
  unfold storeOptions
  split
  · rfl
  · simp

end

/-- Options change the current entry only. -/
theorem storeOptions_lookup_of_ne (h : ∀ range, s.current ≠ some (key, range)) :
    (storeOptions s items).result.lookup key = s.result.lookup key := by
  unfold storeOptions
  split
  · rfl
  · next name range hcurrent =>
    have hne : key ≠ name := fun hk => h range (hk ▸ hcurrent)
    simp [Dict.lookup_modify, hne]

/-- Of an entry, options change the values only. -/
theorem storeOptions_fields (h : ∃ values, s.result.lookup key = some { e with values }) :
    ∃ values, (storeOptions s items).result.lookup key = some { e with values } := by
  obtain ⟨values, hv⟩ := h
  unfold storeOptions
  split
  · exact ⟨values, hv⟩
  · next name range _ =>
    by_cases hk : key = name
    · subst hk
      exact ⟨_, by rw [Dict.lookup_modify, beq_self_eq_true, if_pos rfl, hv]; rfl⟩
    · exact ⟨values, by simp [Dict.lookup_modify, hk, hv]⟩

/-! ## The lines after a row -/

/-- No row of the lines is stored under the key. -/
def Kept (key : String) : State → List String → Prop :=
  Passes.Guarded step fun s line => ∀ r, readLine s.opened line = .ok (.row r) → s.keyOf r ≠ key

theorem Kept.fields (hk : Kept key s lines) (h : lines.foldlM step s = .ok t)
    (h0 : ∃ values, s.result.lookup key = some { e with values }) :
    ∃ values, t.result.lookup key = some { e with values } := by
  refine Passes.invariant_guarded
    (I := fun s => ∃ values, s.result.lookup key = some { e with values })
    (fun s line t hs hne hI => ?_) hk h h0
  rcases step_cases hs with ⟨_, _, rfl⟩ | ⟨_, _, rfl⟩ | ⟨r, e', hread, _, rfl⟩ | ⟨_, rfl⟩
  · exact hI
  · exact storeOptions_fields hI
  · rwa [withRow_result, Dict.lookup_set_of_ne (hne r hread).symm]
  · exact hI

theorem Kept.entry (hk : Kept key s lines) (h : lines.foldlM step s = .ok t)
    (hc : ∀ range, s.current ≠ some (key, range)) (h0 : s.result.lookup key = some e) :
    t.result.lookup key = some e := by
  have hinv : (∀ range, t.current ≠ some (key, range)) ∧ t.result.lookup key = some e := by
    refine Passes.invariant_guarded
      (I := fun s => (∀ range, s.current ≠ some (key, range)) ∧ s.result.lookup key = some e)
      (fun s line t hs hne hI => ?_) hk h ⟨hc, h0⟩
    rcases step_cases hs with ⟨_, _, rfl⟩ | ⟨_, _, rfl⟩ | ⟨r, e', hread, _, rfl⟩ | ⟨_, rfl⟩
    · exact hI
    · exact ⟨by simpa using hI.1, by rw [storeOptions_lookup_of_ne hI.1, hI.2]⟩
    · have hkey := hne r hread
      refine ⟨fun range hrange => hkey ?_, by rw [withRow_result, Dict.lookup_set_of_ne hkey.symm, hI.2]⟩
      rw [withRow_current, Option.some.injEq, Prod.mk.injEq] at hrange
      exact hrange.1
    · exact hI
  exact hinv.2

/-! ## After the pass -/

/-- The post-pass changes an entry's values only. -/
theorem fixSpanTail_fields {e' : Entry} (h : fixSpanTail e = .ok e') : e' = { e with values := e'.values } := by
  unfold fixSpanTail at h
  split at h
  · cases h; rfl
  · split at h
    · cases h; rfl
    · split at h
      · cases h; rfl
      · split at h
        · dsimp only at h
          split at h <;> cases h <;> rfl
        · cases h

theorem fixSpanTails_eq_ok {result : List (String × Entry)} (h : fixSpanTails result = .ok res) :
    List.Forall₂ (fun x y => x.1 = y.1 ∧ fixSpanTail x.2 = .ok y.2) result res := by
  refine (Passes.mapM_eq_ok.1 h).imp fun x y hxy => ?_
  cases he : fixSpanTail x.2 with
  | error err => rw [he] at hxy; cases hxy
  | ok e =>
    rw [he, map_ok, Except.ok.injEq] at hxy
    exact hxy ▸ ⟨rfl, rfl⟩

/-- What the result holds at a key is what the loop left there, with its tail fixed. -/
theorem fixSpanTails_rel {result : List (String × Entry)} (h : fixSpanTails result = .ok res) (key : String) :
    Option.Rel (fun e e' => fixSpanTail e = .ok e') (result.lookup key) (res.lookup key) := by
  have hall := fixSpanTails_eq_ok h
  clear h
  induction hall with
  | nil => exact .none
  | @cons x y _ _ hxy _ ih =>
    obtain ⟨a, ex⟩ := x
    obtain ⟨b, ey⟩ := y
    obtain ⟨rfl, hfix⟩ := hxy
    by_cases hka : key = a
    · subst hka
      rw [List.lookup_cons_self, List.lookup_cons_self]
      exact .some hfix
    · rw [List.lookup_cons, List.lookup_cons, beq_eq_false_iff_ne.2 hka]
      exact ih

theorem fixSpanTails_lookup {result : List (String × Entry)} (h : fixSpanTails result = .ok res)
    (hl : result.lookup key = some e) : ∃ e', fixSpanTail e = .ok e' ∧ res.lookup key = some e' := by
  have hrel := fixSpanTails_rel h key
  rw [hl] at hrel
  cases hres : res.lookup key with
  | none => rw [hres] at hrel; cases hrel
  | some e' =>
    rw [hres] at hrel
    cases hrel with
    | some he => exact ⟨e', he, rfl⟩

theorem fixSpanTails_lookup_inv {result : List (String × Entry)} {e' : Entry}
    (h : fixSpanTails result = .ok res) (hl : res.lookup key = some e') :
    ∃ e, result.lookup key = some e ∧ fixSpanTail e = .ok e' := by
  have hrel := fixSpanTails_rel h key
  rw [hl] at hrel
  cases hresult : result.lookup key with
  | none => rw [hresult] at hrel; cases hrel
  | some e =>
    rw [hresult] at hrel
    cases hrel with
    | some he => exact ⟨e, rfl, he⟩

theorem processData_eq_ok (h : processData lines = .ok res) :
    ∃ t, lines.foldlM step fresh = .ok t ∧ fixSpanTails t.result = .ok res := bind_eq_ok h

/-- What the conversion does not refuse: addresses of bytes, and ranges of two numbers. -/
def Fits : Line → Prop
  | .marker start => ∀ b ∈ start, 0 ≤ b ∧ b < 256
  | .row r => (∀ b ∈ r.offset, 0 ≤ b ∧ b < 256) ∧ r.valueRange.length = 2
  | .options _ | .other => True

theorem newEntry_returns {pending : Option (List Int)}
    (hp : ∀ start, pending = some start → ∀ b ∈ start, 0 ≤ b ∧ b < 256)
    (hr : ∀ b ∈ r.offset, 0 ≤ b ∧ b < 256) : ∃ e, newEntry pending r = .ok e := by
  cases pending with
  | none => exact ⟨_, rfl⟩
  | some start =>
    simp only [newEntry, offsetToInt, if_pos hr, if_pos (hp start rfl), ok_bind]
    exact ⟨_, rfl⟩

theorem fixSpanTail_returns (h : e.valueRange.length = 2) : ∃ e', fixSpanTail e = .ok e' := by
  obtain ⟨lo, hi, hrange⟩ := List.length_eq_two.1 h
  unfold fixSpanTail
  split
  · exact ⟨_, rfl⟩
  · split
    · exact ⟨_, rfl⟩
    · split
      · exact ⟨_, rfl⟩
      · simp only [hrange]
        split <;> exact ⟨_, rfl⟩

/-- What keeps the conversion going. -/
structure Sound (s : State) : Prop where
  pending : ∀ start, s.pendingStart = some start → ∀ b ∈ start, 0 ≤ b ∧ b < 256
  ranges : ∀ x ∈ s.result, x.2.valueRange.length = 2

theorem Sound.step {read : Line} (h : Sound s) (hread : readLine s.opened line = .ok read)
    (hfits : Fits read) : ∃ t, step s line = .ok t ∧ Sound t := by
  cases read with
  | marker start =>
    refine ⟨{ s with pendingStart := some start }, by simp [OptionsToJson.step, hread], fun start' hs => ?_,
      h.ranges⟩
    obtain rfl : start = start' := by simpa using hs
    exact hfits
  | options items =>
    refine ⟨storeOptions s items, by simp [OptionsToJson.step, hread], by simpa using h.pending,
      fun x hx => ?_⟩
    unfold storeOptions at hx
    split at hx
    · exact h.ranges x hx
    · dsimp only at hx
      rcases Dict.mem_of_mem_modify hx with ⟨e, he, rfl⟩ | hx
      · exact h.ranges (_, e) he
      · exact h.ranges x hx
  | row r =>
    obtain ⟨e, he⟩ := newEntry_returns h.pending hfits.1
    refine ⟨s.withRow r e, step_row hread he, fun start hs => by simp at hs, fun x hx => ?_⟩
    rcases Dict.mem_of_mem_set hx with rfl | hx
    · rw [(newEntry_fields he).1]
      exact hfits.2
    · exact h.ranges x hx
  | other => exact ⟨s, by simp [OptionsToJson.step, hread], h⟩

/-- A text in which every line can be read and fits, wherever it stands. -/
def Readable (lines : List String) : Prop :=
  ∀ line ∈ lines, ∀ opened, ∃ read, readLine opened line = .ok read ∧ Fits read

theorem Readable.returns (h : Readable lines) : ∃ res, processData lines = .ok res := by
  have hfresh : Sound fresh := by constructor <;> simp [fresh]
  have hstep : ∀ s, ∀ line ∈ lines, Sound s → ∃ t, step s line = .ok t ∧ Sound t := by
    intro s line hline hs
    obtain ⟨read, hread, hfits⟩ := h line hline s.opened
    exact hs.step hread hfits
  obtain ⟨t, ht, hsound⟩ := Passes.returns hstep hfresh
  have hfix : ∀ x ∈ t.result, ∃ y, (fixSpanTail x.2).map (Prod.mk x.1) = .ok y := by
    intro x hx
    obtain ⟨e, he⟩ := fixSpanTail_returns (hsound.ranges x hx)
    exact ⟨(x.1, e), by rw [he]; rfl⟩
  obtain ⟨res, hres⟩ := Passes.mapM_returns hfix
  exact ⟨res, by rw [processData, ht, ok_bind]; exact hres⟩

/-- The equalizer's TYPE with its list (`specs/PatchEq.txt:3-4`). -/
example : Readable ["| 00 01 | 0000 000a | TYPE (0 - 1) |", "| | | PARAMETRIC, GRAPHIC |"] := by
  intro line hline opened
  simp only [List.mem_cons, List.not_mem_nil, or_false] at hline
  rcases hline with rfl | rfl
  · exact ⟨.row ⟨"TYPE", [0, 1], [0, 1]⟩, by cases opened <;> decide +kernel, by simp, rfl⟩
  · cases opened
    · exact ⟨.other, by decide +kernel, trivial⟩
    · exact ⟨.options ["PARAMETRIC", "GRAPHIC"], by decide +kernel, trivial⟩

/-! ## A row's own entry -/

/-- In the text that begins with `pre`, the next line is read as row `r`, in state `s`. -/
structure RowAt (pre : List String) (line : String) (s : State) (r : Row) : Prop where
  before : pre.foldlM step fresh = .ok s
  read : readLine s.opened line = .ok (.row r)

/-- No row of the lines after the row takes its entry's place. -/
def Stays (s : State) (line : String) (r : Row) (post : List String) : Prop :=
  ∀ t, step s line = .ok t → Kept (s.keyOf r) t post

/-- The entry the row made, as the result has it. -/
structure OwnEntry (s : State) (line : String) (r : Row) (post : List String)
    (res : List (String × Entry)) (e : Entry) : Prop where
  stays : Stays s line r post
  found : res.lookup (s.keyOf r) = some e

theorem RowAt.pass (hrow : RowAt pre line s r) (hres : processData (pre ++ line :: post) = .ok res) :
    ∃ e u, newEntry s.pendingStart r = .ok e ∧ step s line = .ok (s.withRow r e) ∧
      post.foldlM step (s.withRow r e) = .ok u ∧ fixSpanTails u.result = .ok res := by
  obtain ⟨u, hu, hfix⟩ := processData_eq_ok hres
  obtain ⟨s', hs', hu⟩ := Passes.append.1 hu
  obtain rfl : s = s' := by simpa [hrow.before] using hs'
  obtain ⟨t, ht, hu⟩ := Passes.cons.1 hu
  obtain ⟨e, he, rfl⟩ := step_row_inv hrow.read ht
  exact ⟨e, u, he, ht, hu, hfix⟩

/-- A row whose place no other takes has its entry in the result, with nothing but its values
changed. -/
theorem RowAt.ownEntry (hrow : RowAt pre line s r) (hres : processData (pre ++ line :: post) = .ok res)
    (hstays : Stays s line r post) :
    ∃ e₀ e, newEntry s.pendingStart r = .ok e₀ ∧ OwnEntry s line r post res e ∧
      e = { e₀ with values := e.values } := by
  obtain ⟨e₀, u, he₀, hstep, hu, hfix⟩ := hrow.pass hres
  have h0 : ∃ values, (s.withRow r e₀).result.lookup (s.keyOf r) = some { e₀ with values } :=
    ⟨e₀.values, by simp⟩
  obtain ⟨values, hl⟩ := (hstays _ hstep).fields hu h0
  obtain ⟨e, he, hfound⟩ := fixSpanTails_lookup hfix hl
  have hfields := fixSpanTail_fields he
  exact ⟨e₀, e, he₀, ⟨hstays, hfound⟩, hfields⟩

theorem OwnEntry.unique {e' : Entry} (h : OwnEntry s line r post res e) (h' : OwnEntry s line r post res e') :
    e = e' := Option.some.inj (h.found.symm.trans h'.found)

end Pygt1000.OptionsToJson
