import Pygt1000.Lib.Text

/-!
# Texts that differ in their spacing

`re.sub(r"\s+", " ", s)` (`collapse`), with `strip()` after it, leaves of a text its words with one
space between (`strip_collapse`). A text in that form (`Tidy`) comes back from any text with the
same words, as from itself between spaces.
-/

namespace Text

/-- `re.sub(r"\s+", " ", s)`: the last character of a run of white space writes the space. -/
def collapse : List Char → List Char
  | [] => []
  | c :: s =>
    if isSpace c then
      if s.head?.any isSpace then collapse s else ' ' :: collapse s
    else c :: collapse s

/-- `" ".join(ws)`. -/
def unwords : List (List Char) → List Char
  | [] => []
  | [w] => w
  | w :: ws => w ++ ' ' :: unwords ws

/-- What `split()` can return. -/
def IsWord (w : List Char) : Prop := w ≠ [] ∧ ∀ c ∈ w, isSpace c = false

instance (w : List Char) : Decidable (IsWord w) :=
  decidable_of_iff (w ≠ [] ∧ w.all (fun c => !isSpace c) = true) (by simp [IsWord])

/-- Stripped, with no white space but single spaces. -/
def Tidy (s : List Char) : Prop := unwords (words s) = s

instance (s : List Char) : Decidable (Tidy s) := inferInstanceAs (Decidable (_ = _))

variable {c : Char} {s t w : List Char} {ws : List (List Char)}

/-! ## The words of a text -/

@[simp] theorem words_nil : words [] = [] := rfl

theorem words_append_space (hc : isSpace c = true) (s t : List Char) :
    words (s ++ c :: t) = words s ++ words t := by
  rw [words, List.splitOnP_append_cons s t hc, List.filter_append]
  rfl

theorem words_space (hc : isSpace c = true) (s : List Char) : words (c :: s) = words s :=
  words_append_space hc [] s

theorem words_word (hw : IsWord w) : words w = [w] := by
  simp [words, List.splitOnP_eq_singleton hw.2, hw.1]

theorem words_word_space (hw : IsWord w) (hc : isSpace c = true) (s : List Char) :
    words (w ++ c :: s) = w :: words s := by
  rw [words_append_space hc, words_word hw]
  rfl

/-- A character before a word belongs to it. -/
theorem words_cons_word (hc : isSpace c = false) (hs : s.head?.any (fun d => !isSpace d) = true) :
    ∃ w ws, words s = w :: ws ∧ words (c :: s) = (c :: w) :: ws := by
  cases s with
  | nil => simp at hs
  | cons d s =>
    have hd : isSpace d = false := by simpa using hs
    obtain ⟨first, rest, hsplit⟩ := List.exists_cons_of_ne_nil (List.splitOnP_ne_nil isSpace s)
    refine ⟨d :: first, rest.filter (· ≠ []), ?_, ?_⟩
    · simp [words, List.splitOnP_cons_eq_if_modifyHead, hd, hsplit]
    · simp [words, List.splitOnP_cons_eq_if_modifyHead, hc, hd, hsplit]

/-- Before white space, or at the end, it is one of its own. -/
theorem words_cons_break (hc : isSpace c = false) (hs : s.head?.all isSpace = true) :
    words (c :: s) = [c] :: words s := by
  have hw : IsWord [c] := ⟨List.cons_ne_nil _ _, by simpa using hc⟩
  cases s with
  | nil => exact words_word hw
  | cons d s =>
    have hd : isSpace d = true := by simpa using hs
    rw [words_space hd]
    exact words_word_space hw hd s

theorem isWord_of_mem_words (h : w ∈ words s) : IsWord w := by
  induction s generalizing w with
  | nil => cases h
  | cons c s ih =>
    by_cases hc : isSpace c = true
    · rw [words_space hc] at h
      exact ih h
    have hc : isSpace c = false := by simpa using hc
    by_cases hs : s.head?.any (fun d => !isSpace d) = true
    · obtain ⟨first, rest, hwords, hcons⟩ := words_cons_word hc hs
      rw [hcons] at h
      rw [hwords] at ih
      rcases List.mem_cons.1 h with rfl | h
      · exact ⟨List.cons_ne_nil _ _, List.forall_mem_cons.2 ⟨hc, (ih List.mem_cons_self).2⟩⟩
      · exact ih (List.mem_cons_of_mem _ h)
    · have hbreak : s.head?.all isSpace = true := by cases s <;> simp_all
      rw [words_cons_break hc hbreak] at h
      rcases List.mem_cons.1 h with rfl | h
      · exact ⟨List.cons_ne_nil _ _, by simpa using hc⟩
      · exact ih h

theorem words_dropWhile (s : List Char) : words (s.dropWhile isSpace) = words s := by
  induction s with
  | nil => rfl
  | cons c s ih =>
    by_cases hc : isSpace c = true
    · rw [List.dropWhile_cons_of_pos hc, words_space hc, ih]
    · rw [List.dropWhile_cons_of_neg hc]

/-! ## The text of some words -/

theorem unwords_cons (hws : ws ≠ []) (w : List Char) : unwords (w :: ws) = w ++ ' ' :: unwords ws := by
  cases ws with
  | nil => exact absurd rfl hws
  | cons => rfl

theorem unwords_cons_cons (c : Char) (w : List Char) (ws : List (List Char)) :
    unwords ((c :: w) :: ws) = c :: unwords (w :: ws) := by
  cases ws <;> rfl

theorem unwords_eq_nil_iff (h : ∀ w ∈ ws, IsWord w) : unwords ws = [] ↔ ws = [] := by
  cases ws with
  | nil => simp [unwords]
  | cons w ws =>
    have hw := (h w List.mem_cons_self).1
    cases ws <;> simp [unwords, hw]

theorem words_unwords (h : ∀ w ∈ ws, IsWord w) : words (unwords ws) = ws := by
  induction ws with
  | nil => rfl
  | cons w ws ih =>
    have hw := h w List.mem_cons_self
    have hws := fun w' hw' => h w' (List.mem_cons_of_mem w hw')
    cases ws with
    | nil => exact words_word hw
    | cons w' ws => rw [unwords_cons (List.cons_ne_nil _ _), words_word_space hw rfl, ih hws]

theorem unwords_append {ws' : List (List Char)} (hws : ws ≠ []) (hws' : ws' ≠ []) :
    unwords (ws ++ ws') = unwords ws ++ ' ' :: unwords ws' := by
  induction ws with
  | nil => exact absurd rfl hws
  | cons w ws ih =>
    by_cases h : ws = []
    · subst h
      exact unwords_cons hws' w
    · rw [List.cons_append, unwords_cons (by simp [h]), ih h, unwords_cons h, List.append_assoc]
      rfl

/-! ## Collapsing -/

theorem dropWhile_collapse (s : List Char) :
    (collapse s).dropWhile isSpace = collapse (s.dropWhile isSpace) := by
  induction s with
  | nil => rfl
  | cons c s ih =>
    by_cases hc : isSpace c = true
    · rw [List.dropWhile_cons_of_pos hc, ← ih, collapse, if_pos hc]
      split
      · rfl
      · exact List.dropWhile_cons_of_pos rfl
    · rw [List.dropWhile_cons_of_neg hc, collapse, if_neg hc, List.dropWhile_cons_of_neg hc]

theorem rdropWhile_cons (p : Char → Bool) (c : Char) (s : List Char) : (c :: s).rdropWhile p =
    if p c = true ∧ s.rdropWhile p = [] then [] else c :: s.rdropWhile p := by
  rw [List.rdropWhile, List.rdropWhile, List.reverse_cons, List.dropWhile_append]
  cases hs : s.reverse.dropWhile p <;> cases hc : p c <;> simp [hc]

/-- What is left of a text without the white space at its end. -/
theorem rdropWhile_collapse (s : List Char) : (collapse s).rdropWhile isSpace =
    if s.head?.any isSpace = true ∧ words s ≠ [] then ' ' :: unwords (words s)
    else unwords (words s) := by
  induction s with
  | nil => rfl
  | cons c s ih =>
    have hnil : unwords (words s) = [] ↔ words s = [] := unwords_eq_nil_iff fun w hw => isWord_of_mem_words hw
    by_cases hc : isSpace c = true
    · rw [collapse, if_pos hc, words_space hc]
      by_cases hs : s.head?.any isSpace = true
      · simp [hs, hc, ih]
      · have hrest : (collapse s).rdropWhile isSpace = unwords (words s) := by
          rw [ih, if_neg fun h => hs h.1]
        have hspace : isSpace ' ' = true := rfl
        rw [if_neg hs, rdropWhile_cons, hrest]
        by_cases hw : words s = []
        · simp [hw, unwords, hspace]
        · simp [hw, hnil, hc]
    · have hc : isSpace c = false := by simpa using hc
      rw [collapse, if_neg (by simp [hc]), rdropWhile_cons, if_neg (by simp [hc]), ih]
      simp only [List.head?_cons, Option.any_some, hc, Bool.false_eq_true, false_and, if_false]
      by_cases hs : s.head?.any (fun d => !isSpace d) = true
      · obtain ⟨first, rest, hwords, hcons⟩ := words_cons_word hc hs
        have hhead : ¬ s.head?.any isSpace = true := by cases s <;> simp_all
        rw [if_neg (fun h => hhead h.1), hwords, hcons, unwords_cons_cons]
      · have hbreak : s.head?.all isSpace = true := by cases s <;> simp_all
        rw [words_cons_break hc hbreak]
        by_cases hw : words s = []
        · simp [hw, unwords]
        · have hhead : s.head?.any isSpace = true := by cases s <;> simp_all
          rw [if_pos ⟨hhead, hw⟩, unwords_cons hw]
          rfl

/-- **Collapsed and stripped, a text is its words with one space between.** -/
theorem strip_collapse (s : List Char) : strip isSpace (collapse s) = unwords (words s) := by
  have hhead : ¬ (s.dropWhile isSpace).head?.any isSpace = true := by
    have := List.head?_dropWhile_not isSpace s
    cases hd : (s.dropWhile isSpace).head? <;> simp_all
  rw [strip, dropWhile_collapse, rdropWhile_collapse, if_neg (fun h => hhead h.1), words_dropWhile]

theorem tidy_unwords (h : ∀ w ∈ ws, IsWord w) : Tidy (unwords ws) := by
  rw [Tidy, words_unwords h]

theorem tidy_strip_collapse (s : List Char) : Tidy (strip isSpace (collapse s)) := by
  rw [strip_collapse]
  exact tidy_unwords fun w hw => isWord_of_mem_words hw

/-- A tidy text comes back from every text with its words. -/
theorem Tidy.strip_collapse_eq (ht : Tidy t) (h : words s = words t) :
    strip isSpace (collapse s) = t := by
  rw [strip_collapse, h, ht]

theorem words_pad (hc : isSpace c = true) (s : List Char) : words (c :: (s ++ [c])) = words s := by
  rw [words_space hc, words_append_space hc, words_nil, List.append_nil]

/-! ## Tidy texts from tidy texts -/

theorem Tidy.words_ne_nil (h : Tidy s) (hne : s ≠ []) : words s ≠ [] := by
  intro hws
  rw [Tidy, hws] at h
  exact hne h.symm

theorem Tidy.cons (h : Tidy s) (hne : s ≠ []) (hc : isSpace c = false) : Tidy (c :: s) := by
  obtain ⟨w, ws, hws⟩ := List.exists_cons_of_ne_nil (h.words_ne_nil hne)
  have hall : ∀ w' ∈ w :: ws, IsWord w' := fun w' hw' => isWord_of_mem_words (hws ▸ hw')
  rw [← h, hws, ← unwords_cons_cons]
  refine tidy_unwords fun w' hw' => ?_
  rcases List.mem_cons.1 hw' with rfl | hw'
  · exact ⟨List.cons_ne_nil _ _, List.forall_mem_cons.2 ⟨hc, (hall w List.mem_cons_self).2⟩⟩
  · exact hall w' (List.mem_cons_of_mem _ hw')

theorem Tidy.concat (h : Tidy s) (hne : s ≠ []) (hc : isSpace c = false) : Tidy (s ++ [c]) := by
  obtain ⟨ws, w, hws⟩ := (List.eq_nil_or_concat' _).resolve_left (h.words_ne_nil hne)
  have hall : ∀ w' ∈ ws ++ [w], IsWord w' := fun w' hw' => isWord_of_mem_words (hws ▸ hw')
  have heq : unwords (ws ++ [w]) ++ [c] = unwords (ws ++ [w ++ [c]]) := by
    by_cases hnil : ws = []
    · subst hnil
      rfl
    · rw [unwords_append hnil (by simp), unwords_append hnil (by simp), List.append_assoc]
      rfl
  rw [← h, hws, heq]
  refine tidy_unwords fun w' hw' => ?_
  rcases List.mem_append.1 hw' with hw' | hw'
  · exact hall w' (List.mem_append_left _ hw')
  · obtain rfl := List.mem_singleton.1 hw'
    have hw := hall w (by simp)
    refine ⟨by simp, fun x hx => ?_⟩
    rcases List.mem_append.1 hx with hx | hx
    · exact hw.2 x hx
    · rwa [List.mem_singleton.1 hx]

theorem Tidy.append (h : Tidy s) (hne : s ≠ []) (ht : Tidy t) (hnet : t ≠ []) :
    Tidy (s ++ ' ' :: t) := by
  rw [← h, ← ht, ← unwords_append (h.words_ne_nil hne) (ht.words_ne_nil hnet)]
  refine tidy_unwords fun w hw => ?_
  rcases List.mem_append.1 hw with hw | hw <;> exact isWord_of_mem_words hw

/-! ## Splits and ends -/

/-- A part of a split has no characters of its own. -/
theorem mem_of_mem_splitOn {d : Char} {part : List Char} (h : part ∈ s.splitOn d) (hc : c ∈ part) :
    c ∈ s := by
  induction s generalizing part with
  | nil =>
    obtain rfl : part = [] := by simpa using h
    exact hc
  | cons x s ih =>
    rw [List.splitOn_cons_eq_if_modifyHead] at h
    obtain ⟨first, rest, hsplit⟩ := List.exists_cons_of_ne_nil (List.splitOn_ne_nil d s)
    rw [hsplit] at ih h
    split at h
    · rcases List.mem_cons.1 h with rfl | h
      · cases hc
      · exact List.mem_cons_of_mem x (ih h hc)
    · rcases List.mem_cons.1 h with rfl | h
      · rcases List.mem_cons.1 hc with rfl | hc
        · exact List.mem_cons_self
        · exact List.mem_cons_of_mem x (ih List.mem_cons_self hc)
      · exact List.mem_cons_of_mem x (ih (List.mem_cons_of_mem _ h) hc)

theorem strip_idem (p : Char → Bool) (s : List Char) : strip p (strip p s) = strip p s := by
  have hfront : (strip p s).dropWhile p = strip p s := by
    cases hs : strip p s with
    | nil => rfl
    | cons c t =>
      have hpre : strip p s <+: s.dropWhile p := List.rdropWhile_prefix p _
      rw [hs] at hpre
      obtain ⟨r, hr⟩ := hpre
      have hc := List.head?_dropWhile_not p s
      rw [← hr] at hc
      exact List.dropWhile_cons_of_neg (by simpa using hc)
  rw [strip, hfront, strip, List.rdropWhile_idempotent]

theorem strip_cons {p : Char → Bool} {a : Char} (ha : p a = true) (s : List Char) :
    strip p (a :: s) = strip p s := by
  rw [strip, List.dropWhile_cons_of_pos ha, strip]

theorem strip_concat {p : Char → Bool} {a : Char} (ha : p a = true) (s : List Char) :
    strip p (s ++ [a]) = strip p s := by
  rw [strip, strip, List.dropWhile_append]
  split
  · next h =>
    have hnil : s.dropWhile p = [] := List.isEmpty_iff.1 h
    simp [ha, hnil]
  · exact List.rdropWhile_concat_pos p _ a ha

theorem Tidy.strip_eq (h : Tidy s) : strip isSpace s = s := by
  have hs : strip isSpace (collapse s) = s := (strip_collapse s).trans h
  rw [← hs, strip_idem]

/-- What keeps its ends keeps them when fewer characters are stripped. -/
theorem strip_eq_of_imp {p q : Char → Bool} (himp : ∀ c ∈ s, p c = true → q c = true)
    (h : strip q s = s) : strip p s = s := by
  have hfront : s.dropWhile q = s := by
    refine (List.dropWhile_suffix q).eq_of_length_le ?_
    have hle := (List.rdropWhile_prefix q (s.dropWhile q)).length_le
    rwa [← strip, h] at hle
  have hback : s.rdropWhile q = s := by rwa [strip, hfront] at h
  have hfront' : s.dropWhile p = s := by
    cases s with
    | nil => rfl
    | cons c s =>
      refine List.dropWhile_cons_of_neg fun hc => ?_
      rw [List.dropWhile_cons_of_pos (himp c List.mem_cons_self hc)] at hfront
      have hle := (List.dropWhile_suffix q (l := s)).length_le
      rw [hfront, List.length_cons] at hle
      omega
  rw [strip, hfront', List.rdropWhile_eq_self_iff]
  exact fun hne hc => List.rdropWhile_eq_self_iff.1 hback hne (himp _ (List.getLast_mem hne) hc)

/-- Between two characters that stay, all stays. -/
theorem strip_eq_self {p : Char → Bool} (h : ∀ c ∈ s, p c = false) : strip p s = s := by
  refine strip_eq_of_imp (q := fun _ => false) (fun c hc hp => ?_) ?_
  · rw [h c hc] at hp
    exact hp
  · have hdrop : s.dropWhile (fun _ => false) = s := by simp
    rw [strip, hdrop, List.rdropWhile_eq_self_iff]
    simp

theorem strip_between {p : Char → Bool} {a b : Char} (ha : p a = false) (hb : p b = false)
    (s : List Char) : strip p (a :: (s ++ [b])) = a :: (s ++ [b]) := by
  rw [strip, List.dropWhile_cons_of_neg (by simp [ha]), ← List.cons_append,
    List.rdropWhile_concat_neg p _ b (by simp [hb])]

/-! ## The parts of a text, stripped -/

/-- The last cut. -/
theorem splitLast_append {d : Char} (h : d ∉ t) : splitLast d (s ++ d :: t) = some (s, t) := by
  have hnone : splitLast d t = none := by
    induction t with
    | nil => rfl
    | cons x t ih =>
      rw [List.mem_cons, not_or] at h
      rw [splitLast, ih h.2]
      dsimp only
      rw [if_neg (Ne.symm h.1)]
  induction s with
  | nil =>
    rw [List.nil_append, splitLast, hnone]
    dsimp only
    rw [if_pos rfl]
  | cons x s ih => rw [List.cons_append, splitLast, ih]

theorem strip_splitOn_cons {p : Char → Bool} {d : Char} (hp : p c = true) (hd : c ≠ d) (s : List Char) :
    ((c :: s).splitOn d).map (strip p) = (s.splitOn d).map (strip p) := by
  rw [List.splitOn_cons_eq_if_modifyHead, if_neg (by simpa using hd)]
  cases s.splitOn d with
  | nil => rfl
  | cons part parts =>
    rw [List.modifyHead_cons, List.map_cons, strip_cons hp]
    rfl

theorem strip_splitOn_concat {p : Char → Bool} {d : Char} (hp : p c = true) (hd : c ≠ d) (s : List Char) :
    ((s ++ [c]).splitOn d).map (strip p) = (s.splitOn d).map (strip p) := by
  induction hn : s.length using Nat.strongRecOn generalizing s with
  | ind n ih =>
    by_cases hmem : d ∈ s
    · obtain ⟨part, rest, rfl⟩ := List.append_of_mem hmem
      have hlen : rest.length < n := by
        rw [← hn]
        simp
        omega
      rw [List.append_assoc, List.cons_append, List.splitOn_append_cons_self,
        List.splitOn_append_cons_self, List.map_append, List.map_append, ih _ hlen rest rfl]
    · rw [List.splitOn_eq_singleton hmem, List.splitOn_eq_singleton (by simp [hmem, Ne.symm hd]),
        List.map_singleton, List.map_singleton, strip_concat hp]

end Text
