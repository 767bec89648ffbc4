import Pygt1000.ValueLists

/-!
# Spans with named tails

A list such as "1ms - 2000ms, 32ndNote, .." is a span, which the loop gives one value, and names
that belong on the last values of the range. The post-pass moves them there if it recognises the
span (`span_tail_iff`), which it does if the second number has a unit (`spanShaped_iff`).
-/

namespace Pygt1000.OptionsToJson

variable {s t : State} {line : String} {r : Row} {e : Entry}
  {items lines pre conts post names : List String} {res : List (String × Entry)} {lo hi : Int}

/-! ## Which spans are recognised -/

section

variable {p : Char → Bool} {x y a u b v w : List Char} {c : Char}

theorem dropWhile_stop (hp : ∀ c ∈ x, p c = true)
    (hy : ∀ c ∈ y.head?, p c = false) : (x ++ y).dropWhile p = y := by
  rw [List.dropWhile_append_of_pos hp]
  cases y with
  | nil => rfl
  | cons c y => simp [hy c rfl]

theorem some1_append (hx : x ≠ []) (hp : ∀ c ∈ x, p c = true)
    (hy : ∀ c ∈ y.head?, p c = false) : some1 p (x ++ y) = some y := by
  cases x with
  | nil => exact absurd rfl hx
  | cons c x =>
    have hdrop := dropWhile_stop (fun c hc => hp c (List.mem_cons_of_mem _ hc)) hy
    simp [some1, hp c List.mem_cons_self, hdrop]

theorem isLetter_iff : isLetter c = true ↔
    (97 ≤ c.toNat ∧ c.toNat ≤ 122) ∨ (65 ≤ c.toNat ∧ c.toNat ≤ 90) := by
  simp [isLetter, Char.le_def, UInt32.le_iff_toNat_le]

theorem numeral_head (h : isNumeral c = true) :
    isLetter c = false ∧ Text.isSpace c = false := by
  rw [isNumeral, Bool.or_eq_true, decide_eq_true_eq] at h
  rcases h with rfl | h
  · decide
  · refine ⟨?_, Text.not_isSpace_of_digit h⟩
    obtain ⟨z, hz, hle, hlt⟩ := Text.digit?_isSome.1 h
    have hall : ∀ z ∈ Text.zeros, z + 10 ≤ 65 ∨ 123 ≤ z := by decide
    have hout := hall z hz
    rw [Bool.eq_false_iff, ne_eq, isLetter_iff]
    omega

theorem letter_head (h : isLetter c = true) :
    isNumeral c = false ∧ Text.isSpace c = false := by
  constructor
  · rw [Bool.eq_false_iff]
    intro hn
    simp [(numeral_head hn).1] at h
  · rw [isLetter_iff] at h
    have hall : ∀ n < 123, 65 ≤ n → Text.isSpaceCode n = false := by decide +kernel
    exact hall c.toNat (by omega) (by omega)

/-- Between the numbers: a unit, the dash and white space. -/
theorem dash_reached (hu : ∀ c ∈ u, isLetter c = true) :
    (((u ++ ' ' :: '-' :: w).dropWhile Text.isSpace).dropWhile isLetter).dropWhile Text.isSpace = '-' :: w := by
  have hspace : Text.isSpace ' ' = true ∧ Text.isSpace '-' = false := by decide
  have hletter : isLetter ' ' = false ∧ isLetter '-' = false := by decide
  cases u with
  | nil => simp [hspace, hletter]
  | cons d u =>
    have hd := (letter_head (hu d List.mem_cons_self)).2
    have hunit : (d :: u ++ ' ' :: '-' :: w).dropWhile isLetter = ' ' :: '-' :: w :=
      dropWhile_stop hu (fun c hc => by
        obtain rfl : ' ' = c := by simpa using hc
        exact hletter.1)
    rw [List.cons_append, List.dropWhile_cons_of_neg (by simp [hd]), ← List.cons_append, hunit]
    simp [hspace]

/-- **A span is recognised exactly if its second number has a unit**, for a span of two numbers with
or without units of letters. -/
theorem spanShaped_iff (ha : a ≠ []) (hna : ∀ c ∈ a, isNumeral c = true)
    (hu : ∀ c ∈ u, isLetter c = true) (hb : b ≠ []) (hnb : ∀ c ∈ b, isNumeral c = true)
    (hv : ∀ c ∈ v, isLetter c = true) :
    spanShaped (String.ofList (a ++ (u ++ ' ' :: '-' :: ' ' :: (b ++ v)))) = true ↔ v ≠ [] := by
  have hfirst : some1 isNumeral (a ++ (u ++ ' ' :: '-' :: ' ' :: (b ++ v))) =
      some (u ++ ' ' :: '-' :: ' ' :: (b ++ v)) := by
    refine some1_append ha hna fun c hc => ?_
    cases u with
    | nil =>
      obtain rfl : ' ' = c := by simpa using hc
      decide
    | cons d u =>
      obtain rfl : d = c := by simpa using hc
      exact (letter_head (hu d List.mem_cons_self)).1
  have hspaces : (' ' :: (b ++ v)).dropWhile Text.isSpace = b ++ v := by
    cases b with
    | nil => exact absurd rfl hb
    | cons d b => simp [show Text.isSpace ' ' = true by decide, (numeral_head (hnb d List.mem_cons_self)).2]
  have hsecond : some1 isNumeral (b ++ v) = some v := by
    refine some1_append hb hnb fun c hc => (letter_head (hv c (List.mem_of_mem_head? hc))).1
  simp only [spanShaped, String.toList_ofList, hfirst, dash_reached hu, hspaces, hsecond,
    Option.bind_eq_bind, Option.bind_some, decide_eq_true_eq]
  cases v with
  | nil => simp [some1]
  | cons d v =>
    have hd := hv d List.mem_cons_self
    have hunit : some1 isLetter (d :: v ++ []) = some [] := some1_append (List.cons_ne_nil d v) hv (by simp)
    rw [List.append_nil] at hunit
    simp [(letter_head hd).2, hunit]

end

/-! ## What becomes of the names -/

theorem readLine_options {opened : Bool} {text : String}
    (h : readLine opened text = .ok (.options items)) : opened = true := by
  rcases readLine_cases h with ⟨_, hr, _⟩ | ⟨hopen, _⟩ | ⟨_, _, _, _, hr, _⟩ | hr
  · cases hr
  · exact hopen
  · cases hr
  · cases hr

/-- A row without a name gets no values in the loop. -/
theorem unnamed_loop (h : lines.foldlM step fresh = .ok t) (hl : t.result.lookup "" = some e) :
    e.values = [] := by
  refine Passes.invariant (I := fun s => ∀ e, s.result.lookup "" = some e → e.values = [])
    (fun s line t hs _ hI => ?_) h (fun e he => by cases he) e hl
  rcases step_cases hs with ⟨_, _, rfl⟩ | ⟨items, hread, rfl⟩ | ⟨r, e', _, he', rfl⟩ | ⟨_, rfl⟩
  · exact hI
  · obtain ⟨key, range, hc, hkey⟩ := opened_iff.1 (readLine_options hread)
    intro e he
    rw [storeOptions_lookup_of_ne (fun range' hc' => hkey (by simp_all))] at he
    exact hI e he
  · intro e he
    rw [withRow_result, Dict.lookup_set] at he
    split at he
    · cases he
      exact (newEntry_fields he').2
    · exact hI e he
  · exact hI

theorem unnamed_values (hres : processData lines = .ok res) (hl : res.lookup "" = some e) : e.values = [] := by
  obtain ⟨t, ht, hfix⟩ := processData_eq_ok hres
  obtain ⟨e₀, hl₀, he⟩ := fixSpanTails_lookup_inv hfix hl
  have hempty := unnamed_loop ht hl₀
  simp only [fixSpanTail, hempty, Except.ok.injEq] at he
  exact he ▸ hempty

/-- What the post-pass does to a list of a first option and names that fit above it. -/
theorem fixSpanTail_number {span : String} (hrange : e.valueRange = [lo, hi])
    (hne : names ≠ []) (hfit : names.length < hi - lo + 1) :
    fixSpanTail { e with values := number lo (span :: names) } = .ok { e with
      values := if spanShaped span then number (hi - names.length + 1) names
        else number lo (span :: names) } := by
  have hkeys : (number (lo + 1) names).map Prod.fst = names := keys_number
  have htail : number (lo + 1) names ≠ [] := by
    intro h
    rw [h] at hkeys
    exact hne hkeys.symm
  have hlength : (number (lo + 1) names).length = names.length := by
    simpa using congrArg List.length hkeys
  have hstart : ¬ hi - (names.length : Int) + 1 ≤ lo := by omega
  cases hspan : spanShaped span <;>
    simp [fixSpanTail, number, hspan, htail, hrange, hkeys, hlength, hstart]

/-- The names are on the last values of the range, and there is nothing below them. -/
structure AtTop (e : Entry) (hi : Int) (names : List String) : Prop where
  top : ∀ j (h : j < names.length), e.values.lookup names[j] = some (hi - names.length + 1 + j)
  bare : ∀ x ∈ e.values, hi - names.length + 1 ≤ x.2

/-- **A tail of names is at the top of the range exactly if its span is recognised.** The row's list
is one span and then names that fit above the start of the range; it may take any number of lines.
A text that is readable is converted. Then the row's own entry has the names on the last values and
nothing below exactly if no later row takes the entry's place, the row has a name, and `span_re`
matches the span. -/
theorem span_tail_iff {span : String} (hrow : RowAt pre line s r)
    (hrange : r.valueRange = [lo, hi]) (hlist : Lists conts (span :: names)) (hend : EndsList post)
    (hd : (span :: names).Nodup) (hne : names ≠ []) (hfit : names.length < hi - lo + 1) :
    (Readable (pre ++ line :: (conts ++ post)) →
      ∃ res, processData (pre ++ line :: (conts ++ post)) = .ok res) ∧
    ∀ res, processData (pre ++ line :: (conts ++ post)) = .ok res →
      ((∃ e, OwnEntry s line r (conts ++ post) res e ∧ AtTop e hi names) ↔
        Stays s line r (conts ++ post) ∧ s.keyOf r ≠ "" ∧ spanShaped span = true) := by
  refine ⟨Readable.returns, fun res hres => ?_⟩
  constructor
  · rintro ⟨e, hown, htop⟩
    have hpos : 0 < names.length := List.length_pos_iff.2 hne
    have hkey : s.keyOf r ≠ "" := by
      intro hkey
      have hempty := unnamed_values hres (hkey ▸ hown.found)
      have htop := htop.top 0 hpos
      simp [hempty] at htop
    obtain ⟨e₀, e', he₀, hown', he'⟩ := hrow.values hkey hlist hd hend hres hown.stays
    obtain rfl := hown.unique hown'
    refine ⟨hown.stays, hkey, ?_⟩
    by_contra hspan
    have hrange₀ : e₀.valueRange = [lo, hi] := (newEntry_fields he₀).1.trans hrange
    rw [hrange, List.headD_cons, fixSpanTail_number hrange₀ hne hfit, if_neg hspan, Except.ok.injEq] at he'
    have hlow := htop.bare (span, lo) (by rw [← he']; exact List.mem_cons_self)
    simp only at hlow
    omega
  · rintro ⟨hstays, hkey, hspan⟩
    obtain ⟨e₀, e, he₀, hown, he⟩ := hrow.values hkey hlist hd hend hres hstays
    have hrange₀ : e₀.valueRange = [lo, hi] := (newEntry_fields he₀).1.trans hrange
    rw [hrange, List.headD_cons, fixSpanTail_number hrange₀ hne hfit, if_pos hspan, Except.ok.injEq] at he
    subst he
    exact ⟨_, hown, fun j hj => lookup_number (List.nodup_cons.1 hd).2 j hj, fun x hx => (mem_number hx).1⟩

/-- The first names of the delay's TIME (`specs/PatchDelay.txt:6-7`), with the range cut short. -/
theorem span_tail_time :
    ∃ e, OwnEntry fresh "| 00 04 | 0000 dddd | TIME (1 - 2002) |" ⟨"TIME", [0, 4], [1, 2002]⟩
        ["| | | 1ms - 2000ms, 32ndNote, |", "| | | Triplet16thNote |"]
        [("TIME", ⟨[0, 4], [1, 2002], none, [("32ndNote", 2001), ("Triplet16thNote", 2002)]⟩)] e ∧
      AtTop e 2002 ["32ndNote", "Triplet16thNote"] := by
  have hrow : RowAt [] "| 00 04 | 0000 dddd | TIME (1 - 2002) |" fresh ⟨"TIME", [0, 4], [1, 2002]⟩ :=
    ⟨rfl, by decide +kernel⟩
  have hlist : Lists ["| | | 1ms - 2000ms, 32ndNote, |", "| | | Triplet16thNote |"]
      (["1ms - 2000ms", "32ndNote"] ++ (["Triplet16thNote"] ++ [])) :=
    .options (by decide +kernel) (.options (by decide +kernel) .nil)
  have hstays : Stays fresh "| 00 04 | 0000 dddd | TIME (1 - 2002) |" ⟨"TIME", [0, 4], [1, 2002]⟩
      ["| | | 1ms - 2000ms, 32ndNote, |", "| | | Triplet16thNote |"] := by
    intro t ht
    obtain ⟨e, -, rfl⟩ := step_row_inv hrow.read ht
    exact hlist.kept (opened_iff.2 ⟨"TIME", [1, 2002], rfl, by decide⟩)
  have hend : EndsList [] := fun _ _ h => by cases h
  exact ((span_tail_iff hrow rfl hlist hend (by decide) (by decide) (by decide)).2 _ (by decide +kernel)).2
    ⟨hstays, by decide, by decide +kernel⟩

/-- The RATE of the chorus vibe (`specs/PatchFxCVibe.txt:3-9`), whose span has no unit: its eighteen
names are on 1 to 18 and not on 101 to 118, and the span itself is a name of 0. -/
theorem span_tail_rate :
    ∃ e, processData ["| 00 01 | 0aaa aaaa | RATE (0 - 118) |",
        "| | | 0 - 100, DoubleWholeNote, DottedWholeNote, |",
        "| | | WholeNote, DottedHalfNote, TripletWholeNote, |",
        "| | | HalfNote, DottedQuarterNote, TripletHalfNote, |",
        "| | | QuarterNote, Dotted8thNote, TripletQuarterNote, |",
        "| | |8thNote, Dotted16thNote, Triplet8thNote, 16thNote, |",
        "| | | Dotted32ndNote, Triplet16thNote, 32ndNote |"] = .ok [("RATE", e)] ∧
      e.valueRange = [0, 118] ∧ e.values.length = 19 ∧
      e.values.lookup "0 - 100" = some 0 ∧ e.values.lookup "DoubleWholeNote" = some 1 ∧
      e.values.lookup "32ndNote" = some 18 := by
  refine ⟨⟨[0, 1], [0, 118], none, number 0 ["0 - 100", "DoubleWholeNote", "DottedWholeNote", "WholeNote",
    "DottedHalfNote", "TripletWholeNote", "HalfNote", "DottedQuarterNote", "TripletHalfNote", "QuarterNote",
    "Dotted8thNote", "TripletQuarterNote", "8thNote", "Dotted16thNote", "Triplet8thNote", "16thNote",
    "Dotted32ndNote", "Triplet16thNote", "32ndNote"]⟩, ?_, rfl, rfl, ?_, ?_, ?_⟩
  all_goals decide +kernel

end Pygt1000.OptionsToJson
