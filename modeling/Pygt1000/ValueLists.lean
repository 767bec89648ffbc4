import Pygt1000.NamedRows

/-!
# Value lists over several lines

The options a row's lines list are numbered through, from the start of its range, however the
lines break (`lists_pass`), and a later row does not touch them (`RowAt.values`). `values_numbered`
is about texts whose names no two rows share.
-/

namespace Pygt1000.OptionsToJson

variable {s t u : State} {line key : String} {r : Row} {e : Entry} {items lines pre conts post names : List String}
  {res : List (String × Entry)} {start lo hi : Int}

/-! ## Numbering -/

@[simp] theorem keys_number : Dict.keys (number start items) = items := by
  induction items generalizing start with
  | nil => rfl
  | cons item items ih =>
    have ih := @ih (start + 1)
    simp only [Dict.keys] at ih
    simp [number, Dict.keys, ih]

theorem lookup_number (hd : items.Nodup) (k : Nat) (hk : k < items.length) :
    (number start items).lookup items[k] = some (start + k) := by
  induction items generalizing start k with
  | nil => simp at hk
  | cons item items ih =>
    rw [List.nodup_cons] at hd
    cases k with
    | zero => simp [number]
    | succ k =>
      simp only [List.length_cons, Nat.add_lt_add_iff_right] at hk
      have hne : items[k] ≠ item := fun h => hd.1 (h ▸ List.getElem_mem hk)
      rw [number, List.getElem_cons_succ, List.lookup_cons, beq_eq_false_iff_ne.2 hne]
      simp only [ih hd.2 k hk, Option.some.injEq]
      omega

theorem mem_number {x : String × Int} (h : x ∈ number start items) : start ≤ x.2 ∧ x.2 < start + items.length := by
  induction items generalizing start with
  | nil => simp [number] at h
  | cons item items ih =>
    rw [number, List.mem_cons] at h
    simp only [List.length_cons]
    rcases h with rfl | h
    · omega
    · have := ih h
      omega

theorem assign_append {values : List (String × Int)} (xs ys : List String) :
    assign start values (xs ++ ys) = assign (start + xs.length) (assign start values xs) ys := by
  induction xs generalizing start values with
  | nil => simp [assign]
  | cons x xs ih =>
    rw [List.cons_append, assign, ih, assign, List.length_cons]
    congr 1
    omega

/-- Options that are new and differ go to the end. -/
theorem assign_eq_append {values : List (String × Int)} (hd : items.Nodup)
    (hnew : ∀ x ∈ items, x ∉ Dict.keys values) : assign start values items = values ++ number start items := by
  induction items generalizing start values with
  | nil => simp [assign, number]
  | cons item items ih =>
    rw [List.nodup_cons] at hd
    have hitem := hnew item List.mem_cons_self
    rw [assign, ih hd.2, Dict.set_of_not_mem hitem, number, List.append_assoc, List.singleton_append]
    intro x hx hmem
    rcases Dict.mem_keys_set.1 hmem with rfl | hmem
    · exact hd.1 hx
    · exact hnew x (List.mem_cons_of_mem item hx) hmem

/-! ## The lines of a list -/

/-- Lines that follow a named row, none of them a row itself, and the options they list. -/
inductive Lists : List String → List String → Prop where
  | nil : Lists [] []
  | options {line : String} {items rest : List String} {lines : List String}
    (hread : readLine true line = .ok (.options items)) (h : Lists lines rest) :
    Lists (line :: lines) (items ++ rest)
  | marker {line : String} {start : List Int} {rest : List String} {lines : List String}
    (hread : readLine true line = .ok (.marker start)) (h : Lists lines rest) : Lists (line :: lines) rest
  | other {line : String} {rest : List String} {lines : List String}
    (hread : readLine true line = .ok .other) (h : Lists lines rest) : Lists (line :: lines) rest

/-- The list has ended: the next line, if there is one, is a row. -/
def EndsList (post : List String) : Prop :=
  ∀ line rest, post = line :: rest → ∃ r, readLine true line = .ok (.row r)

theorem opened_iff : s.opened = true ↔ ∃ key range, s.current = some (key, range) ∧ key ≠ "" := by
  cases hc : s.current with
  | none => simp [State.opened, hc]
  | some c => simp [State.opened, hc, Prod.ext_iff]

/-- The loop over a row's lines numbers the options through. -/
theorem lists_pass {range : List Int} (h : Lists conts items) (hc : s.current = some (key, range))
    (hkey : key ≠ "") (hl : s.result.lookup key = some e) (hu : conts.foldlM step s = .ok u) :
    u.current = some (key, range) ∧
      u.result.lookup key = some { e with values := assign (range.headD 0 + s.offset) e.values items } := by
  have hopen : ∀ {s : State}, s.current = some (key, range) → s.opened = true :=
    fun hc => opened_iff.2 ⟨key, range, hc, hkey⟩
  induction h generalizing s e with
  | nil =>
    obtain rfl := Passes.nil.1 hu
    exact ⟨hc, hl⟩
  | @options line items rest lines hread _ ih =>
    obtain ⟨t, ht, hu⟩ := Passes.cons.1 hu
    obtain rfl : t = storeOptions s items := by simpa [step, hopen hc, hread] using ht.symm
    have hc' : (storeOptions s items).current = some (key, range) := by simp [hc]
    have hl' : (storeOptions s items).result.lookup key =
        some { e with values := assign (range.headD 0 + s.offset) e.values items } := by
      simp [storeOptions, hc, Dict.lookup_modify, hl]
    have hoffset : (storeOptions s items).offset = s.offset + items.length := by simp [storeOptions, hc]
    obtain ⟨hcu, hlu⟩ := ih hc' hl' hu
    refine ⟨hcu, ?_⟩
    rw [hlu, hoffset, assign_append]
    simp [Int.add_assoc]
  | @marker line start rest lines hread _ ih =>
    obtain ⟨t, ht, hu⟩ := Passes.cons.1 hu
    obtain rfl : t = { s with pendingStart := some start } := by
      simpa [step, hopen hc, hread] using ht.symm
    exact ih (s := { s with pendingStart := some start }) hc hl hu
  | @other line rest lines hread _ ih =>
    obtain ⟨t, ht, hrest⟩ := Passes.cons.1 hu
    obtain rfl : s = t := by simpa [step, hopen hc, hread] using ht
    exact ih hc hl hrest

/-- The lines that write a list as a range (`:104-112`). -/
def shorthands : List String :=
  ["| | | -20 - 0 - +20 [dB] |", "| | | -50 - 50 |", "| | | -10 - 10 |", "| | | 0.1s, 0.2s - 10.0s |",
    "| | | -50 - -1, 0, +1 - +50 |"]

/-- A line that lists what it says. -/
structure Continuation (line : String) : Prop where
  start : "| | |".toList <+: stripLine line
  written : ∀ x ∈ shorthands, stripLine line ≠ x.toList
  unit : column 3 (stripLine line) ≠ "[ms]".toList

/-- The comma-separated items of a line. -/
def lineItems (line : String) : List String := optionsOf (stripLine line)

theorem readLine_continuation (h : Continuation line) : readLine true line = .ok (.options (lineItems line)) := by
  obtain ⟨rest, hrest⟩ := h.start
  have hmarker : ¬ "|# ".toList <+: stripLine line := by
    rw [← hrest]
    simp
  have hskip : ¬ "| : | | |".toList <+: stripLine line := by
    rw [← hrest]
    simp
  have hexpand : expandShorthand (stripLine line) = stripLine line := by
    have h := h.written
    simp only [shorthands, List.mem_cons, List.not_mem_nil, or_false, forall_eq_or_imp, forall_eq] at h
    simp only [expandShorthand, h, if_false]
  simp only [readLine, hmarker, hskip, h.start, hexpand, h.unit, if_false, and_self, if_true, lineItems]

theorem lists_continuation (h : ∀ line ∈ conts, Continuation line) : Lists conts (conts.flatMap lineItems) := by
  induction conts with
  | nil => exact .nil
  | cons line conts ih =>
    exact .options (readLine_continuation (h line List.mem_cons_self))
      (ih fun l hl => h l (List.mem_cons_of_mem line hl))

/-- None of the lines of a list takes an entry's place. -/
theorem Lists.kept (h : Lists conts items) (hopen : s.opened = true) : Kept key s conts := by
  induction h generalizing s with
  | nil => trivial
  | @options line items rest lines hread _ ih =>
    intro t ht
    obtain rfl : t = storeOptions s items := by simpa [step, hopen, hread] using ht.symm
    exact ⟨fun r hr => by simp [hopen, hread] at hr, ih (by simpa [State.opened] using hopen)⟩
  | @marker line start rest lines hread _ ih =>
    intro t ht
    obtain rfl : t = { s with pendingStart := some start } := by simpa [step, hopen, hread] using ht.symm
    exact ⟨fun r hr => by simp [hopen, hread] at hr, ih hopen⟩
  | @other line rest lines hread _ ih =>
    intro t ht
    obtain rfl : s = t := by simpa [step, hopen, hread] using ht
    exact ⟨fun r hr => by simp [hopen, hread] at hr, ih hopen⟩

/-- A row's own entry: its list numbered from the start of its range, then the post-pass. -/
theorem RowAt.values (hrow : RowAt pre line s r) (hkey : s.keyOf r ≠ "") (hlist : Lists conts items)
    (hd : items.Nodup) (hend : EndsList post)
    (hres : processData (pre ++ line :: (conts ++ post)) = .ok res)
    (hstays : Stays s line r (conts ++ post)) :
    ∃ e₀ e, newEntry s.pendingStart r = .ok e₀ ∧ OwnEntry s line r (conts ++ post) res e ∧
      fixSpanTail { e₀ with values := number (r.valueRange.headD 0) items } = .ok e := by
  obtain ⟨e₀, u, he₀, hstep, hu, hfix⟩ := hrow.pass hres
  obtain ⟨t, ht, hu⟩ := Passes.append.1 hu
  obtain ⟨hct, hlt⟩ := lists_pass hlist (withRow_current s r e₀) hkey Dict.lookup_set_self ht
  have hvalues : assign (r.valueRange.headD 0 + (s.withRow r e₀).offset) e₀.values items =
      number (r.valueRange.headD 0) items := by
    rw [(newEntry_fields he₀).2, assign_eq_append hd (fun x _ => by simp [Dict.keys])]
    simp
  rw [hvalues] at hlt
  have hkept : Kept (s.keyOf r) t post := Passes.guarded_append (hstays _ hstep) ht
  have hlu : u.result.lookup (s.keyOf r) =
      some { e₀ with values := number (r.valueRange.headD 0) items } := by
    cases post with
    | nil => exact Passes.nil.1 hu ▸ hlt
    | cons next rest =>
      -- the next row takes the place of the current one
      obtain ⟨r', hread⟩ := hend next rest rfl
      obtain ⟨t', ht', hu⟩ := Passes.cons.1 hu
      rw [← opened_iff.2 ⟨_, _, hct, hkey⟩] at hread
      obtain ⟨hne, hkept⟩ := hkept t' ht'
      obtain ⟨e', -, rfl⟩ := step_row_inv hread ht'
      refine Kept.entry hkept hu (fun range hrange => hne r' hread ?_) ?_
      · rw [withRow_current, Option.some.injEq, Prod.mk.injEq] at hrange
        exact hrange.1
      · rwa [withRow_result, Dict.lookup_set_of_ne (hne r' hread).symm]
  obtain ⟨e, he, hfound⟩ := fixSpanTails_lookup hfix hlu
  exact ⟨e₀, e, he₀, ⟨hstays, hfound⟩, he⟩

/-! ## Texts with names that no row shares -/

/-- The names of a text's rows: all there, all different, none another one with a number. -/
structure Distinct (names : List String) : Prop where
  named : ∀ n ∈ names, n ≠ ""
  nodup : names.Nodup
  apart : ∀ n ∈ names, ∀ m ∈ names, ∀ c : Nat, n ≠ m ++ toString c

theorem storedName_eq {n m : String} (h : storedName n = m) :
    n = m ∨ (n = "FX SW" ∧ m = "SW") ∨ (n = "FX1 TYPE" ∧ m = "TYPE") := by
  unfold storedName at h
  split at h
  · next hn => exact .inr (.inl ⟨hn, h.symm⟩)
  · split at h
    · next hn => exact .inr (.inr ⟨hn, h.symm⟩)
    · exact .inl h

/-- Only the two names the code changes can be stored twice, and then beside the row that has that
name. -/
theorem Distinct.of_twice (hd : Distinct names) {m : String} (h : 2 ≤ (names.map storedName).count m) :
    m ∈ names ∧ (m = "SW" ∨ m = "TYPE") := by
  have hcount : (names.map storedName).count m = (names.filter fun n => storedName n = m).length := by
    rw [List.count, List.countP_map, List.countP_eq_length_filter]
    simp only [Function.comp_def, beq_eq_decide]
  have hnodup : (names.filter fun n => storedName n = m).Nodup := hd.nodup.filter _
  have hall : ∀ n ∈ names.filter fun n => storedName n = m, n ∈ names ∧ storedName n = m := by simp
  rw [hcount] at h
  match hfilter : names.filter (fun n => storedName n = m), h with
  | a :: b :: rest, _ =>
    rw [hfilter] at hnodup hall
    have hab : a ≠ b := by simp at hnodup; tauto
    obtain ⟨ha, hma⟩ := hall a (by simp)
    obtain ⟨hb, hmb⟩ := hall b (by simp)
    rcases storedName_eq hma with rfl | ⟨rfl, rfl⟩ | ⟨rfl, rfl⟩ <;>
      rcases storedName_eq hmb with rfl | ⟨rfl, hm⟩ | ⟨rfl, hm⟩
    · exact absurd rfl hab
    · exact ⟨ha, .inl hm⟩
    · exact ⟨ha, .inr hm⟩
    · exact ⟨hb, .inl rfl⟩
    · exact absurd rfl hab
    · exact absurd hm (by decide)
    · exact ⟨hb, .inr rfl⟩
    · exact absurd hm (by decide)
    · exact absurd rfl hab

theorem Distinct.apart_stored (hd : Distinct names) : Apart (names.map storedName) := by
  intro n hn m _ htwice c heq
  obtain ⟨hmem, hm⟩ := hd.of_twice htwice
  obtain ⟨n', hn', hstored⟩ := List.mem_map.1 hn
  have hlist := congrArg String.toList heq
  rw [String.toList_append, Text.toList_toString] at hlist
  rcases storedName_eq hstored with rfl | ⟨-, rfl⟩ | ⟨-, rfl⟩
  · exact hd.apart n' hn' m hmem c heq
  · rcases hm with rfl | rfl <;> simp at hlist
  · rcases hm with rfl | rfl <;> simp at hlist

theorem keyOf_ne_empty (h : r.name ≠ "") : s.keyOf r ≠ "" := by
  have hstored : storedName r.name ≠ "" := by
    unfold storedName
    split
    · decide
    · split
      · decide
      · exact h
  unfold State.keyOf State.keyFor
  split
  · intro hempty
    exact hstored (String.append_eq_empty_iff.1 hempty).1
  · exact hstored

theorem RowAt.mem_namedRows (hrow : RowAt pre line s r) (hres : processData (pre ++ line :: post) = .ok res) :
    r ∈ namedRows (pre ++ line :: post) := by
  obtain ⟨e, u, -, hstep, -, -⟩ := hrow.pass hres
  rw [namedRows, Passes.outputs_append hrow.before, Passes.outputs_cons hstep]
  simp [rowOf, hrow.read]

/-- Where the names are distinct, every row keeps its entry. -/
theorem RowAt.stays (hrow : RowAt pre line s r)
    (hd : Distinct ((namedRows (pre ++ line :: post)).map Row.name)) : Stays s line r post := by
  have hstored := hd.apart_stored
  rw [List.map_map] at hstored
  have hfree := Passes.guarded_append (guarded_iff_numbersFree_fresh.2 (numbersFree_of_apart hstored)) hrow.before
  intro t ht
  obtain ⟨-, hfree⟩ := hfree t ht
  obtain ⟨e, -, rfl⟩ := step_row_inv hrow.read ht
  exact kept_of_numberFree hfree (Dict.mem_keys_set.2 (.inl rfl))

/-- **Value lists are numbered independently of their line breaks.** A text that is readable is
converted, and the row's own entry then has every item of its lines on the next value. -/
theorem values_numbered (hrow : RowAt pre line s r) (hrange : r.valueRange = [lo, hi])
    (hnames : Distinct ((namedRows (pre ++ line :: (conts ++ post))).map Row.name))
    (hconts : ∀ l ∈ conts, Continuation l) (hend : EndsList post) (hd : (conts.flatMap lineItems).Nodup)
    (hspan : ∀ x ∈ (conts.flatMap lineItems).head?, spanShaped x = false) :
    (Readable (pre ++ line :: (conts ++ post)) →
      ∃ res, processData (pre ++ line :: (conts ++ post)) = .ok res) ∧
    ∀ res, processData (pre ++ line :: (conts ++ post)) = .ok res →
      ∃ e, OwnEntry s line r (conts ++ post) res e ∧ ∀ k (h : k < (conts.flatMap lineItems).length),
        e.values.lookup (conts.flatMap lineItems)[k] = some (lo + k) := by
  refine ⟨Readable.returns, fun res hres => ?_⟩
  have hkey : s.keyOf r ≠ "" :=
    keyOf_ne_empty (hnames.named _ (List.mem_map_of_mem (hrow.mem_namedRows hres)))
  obtain ⟨e₀, e, -, hown, he⟩ :=
    hrow.values hkey (lists_continuation hconts) hd hend hres (hrow.stays hnames)
  refine ⟨e, hown, fun k hk => ?_⟩
  rw [hrange, List.headD_cons] at he
  have hvalues : e.values = number lo (conts.flatMap lineItems) := by
    cases hitems : conts.flatMap lineItems with
    | nil => simp [hitems] at hk
    | cons x items =>
      rw [hitems] at he hspan
      simp only [fixSpanTail, number, hspan x rfl, Bool.not_false, if_true, Except.ok.injEq] at he
      exact he ▸ rfl
  rw [hvalues]
  exact lookup_number hd k hk

/-- The equalizer's TYPE, its list on two lines, before its LEVEL (`specs/PatchEq.txt:3-4`, `:9`). -/
theorem values_numbered_type :
    ∃ e, OwnEntry fresh "| 00 01 | 0000 000a | TYPE (0 - 1) |" ⟨"TYPE", [0, 1], [0, 1]⟩
        ["| | | PARAMETRIC, |", "| | | GRAPHIC |", "| 00 04 | 00aa aaaa | LEVEL (12 - 52) |"]
        [("TYPE", ⟨[0, 1], [0, 1], none, [("PARAMETRIC", 0), ("GRAPHIC", 1)]⟩),
          ("LEVEL", ⟨[0, 4], [12, 52], none, []⟩)] e ∧
      ∀ k (h : k < ["PARAMETRIC", "GRAPHIC"].length),
        e.values.lookup ["PARAMETRIC", "GRAPHIC"][k] = some (0 + (k : Int)) := by
  have hrow : RowAt [] "| 00 01 | 0000 000a | TYPE (0 - 1) |" fresh ⟨"TYPE", [0, 1], [0, 1]⟩ :=
    ⟨rfl, by decide +kernel⟩
  have hconts : ∀ l ∈ ["| | | PARAMETRIC, |", "| | | GRAPHIC |"], Continuation l := by
    simp only [List.mem_cons, List.not_mem_nil, or_false, forall_eq_or_imp, forall_eq]
    exact ⟨⟨by decide +kernel, by decide +kernel, by decide +kernel⟩,
      ⟨by decide +kernel, by decide +kernel, by decide +kernel⟩⟩
  have hend : EndsList ["| 00 04 | 00aa aaaa | LEVEL (12 - 52) |"] := by
    intro line rest h
    cases h
    exact ⟨⟨"LEVEL", [0, 4], [12, 52]⟩, by decide +kernel⟩
  have hnames : (namedRows ["| 00 01 | 0000 000a | TYPE (0 - 1) |", "| | | PARAMETRIC, |",
      "| | | GRAPHIC |", "| 00 04 | 00aa aaaa | LEVEL (12 - 52) |"]).map Row.name = ["TYPE", "LEVEL"] := by
    decide +kernel
  have hdistinct : Distinct ["TYPE", "LEVEL"] := by
    refine ⟨by decide, by decide, fun n hn m hm c h => ?_⟩
    have hlist := congrArg String.toList h
    rw [String.toList_append, Text.toList_toString] at hlist
    simp only [List.mem_cons, List.not_mem_nil, or_false] at hn hm
    rcases hn with rfl | rfl <;> rcases hm with rfl | rfl <;> simp at hlist
  have hitems : ["| | | PARAMETRIC, |", "| | | GRAPHIC |"].flatMap lineItems = ["PARAMETRIC", "GRAPHIC"] := by
    decide +kernel
  have hres : processData ["| 00 01 | 0000 000a | TYPE (0 - 1) |", "| | | PARAMETRIC, |",
      "| | | GRAPHIC |", "| 00 04 | 00aa aaaa | LEVEL (12 - 52) |"] =
        .ok [("TYPE", ⟨[0, 1], [0, 1], none, [("PARAMETRIC", 0), ("GRAPHIC", 1)]⟩),
          ("LEVEL", ⟨[0, 4], [12, 52], none, []⟩)] := by
    decide +kernel
  have h := (values_numbered hrow rfl (hnames ▸ hdistinct) hconts hend (hitems ▸ by decide)
    (hitems ▸ by decide +kernel)).2 _ hres
  simp only [hitems] at h
  exact h

end Pygt1000.OptionsToJson
