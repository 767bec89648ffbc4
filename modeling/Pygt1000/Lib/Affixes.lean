import Mathlib.Data.List.Infix

/-!
# Common beginnings and ends, by trimming

`keepSuffix n s` drops from the front of `s` until what is left ends `n`; `keepPrefix` is the same
at the other end. Both are said by what ends (begins) the result: `suffix_keepSuffix_iff`. Over a
list of names the loop leaves the longest common end, and where the names are
`pre ++ x ++ post` for middles `x` that agree neither at their first nor at their last element,
that is `post` (`foldl_keepSuffix_eq`), and the common beginning is `pre`.
-/

namespace Affixes

variable {α : Type*} [DecidableEq α]

/-- `while not n.endswith(s): s = s[1:]`. -/
def keepSuffix (n : List α) : List α → List α
  | [] => []
  | c :: s => if c :: s <:+ n then c :: s else keepSuffix n s

/-- `while not n.startswith(p): p = p[:-1]`. -/
def keepPrefix (n p : List α) : List α := (keepSuffix n.reverse p.reverse).reverse

variable {n s p x : List α} {c : α}

theorem suffix_keepSuffix_iff : x <:+ keepSuffix n s ↔ x <:+ n ∧ x <:+ s := by
  induction s with
  | nil =>
    rw [keepSuffix, List.suffix_nil]
    exact ⟨fun h => ⟨h ▸ List.nil_suffix, h⟩, fun h => h.2⟩
  | cons c s ih =>
    rw [keepSuffix]
    split
    · next hn => exact ⟨fun h => ⟨h.trans hn, h⟩, fun h => h.2⟩
    · next hn =>
      rw [ih, List.suffix_cons_iff]
      refine ⟨fun h => ⟨h.1, .inr h.2⟩, fun h => ⟨h.1, h.2.resolve_left ?_⟩⟩
      rintro rfl
      exact hn h.1

theorem prefix_keepPrefix_iff : x <+: keepPrefix n p ↔ x <+: n ∧ x <+: p := by
  rw [keepPrefix, ← List.reverse_suffix, List.reverse_reverse, suffix_keepSuffix_iff,
    List.reverse_suffix, List.reverse_suffix]

variable {names : List (List α)}

/-- What ends the result of the loop ends every name, and the other way round. -/
theorem suffix_foldl_iff : x <:+ names.foldl (fun s n => keepSuffix n s) s ↔
    x <:+ s ∧ ∀ n ∈ names, x <:+ n := by
  induction names generalizing s with
  | nil => simp
  | cons n names ih =>
    rw [List.foldl_cons, ih, suffix_keepSuffix_iff, List.forall_mem_cons]
    tauto

theorem prefix_foldl_iff : x <+: names.foldl (fun p n => keepPrefix n p) p ↔
    x <+: p ∧ ∀ n ∈ names, x <+: n := by
  induction names generalizing p with
  | nil => simp
  | cons n names ih =>
    rw [List.foldl_cons, ih, prefix_keepPrefix_iff, List.forall_mem_cons]
    tauto

/-! ## Names that differ in the middle -/

variable {pre post m : List α} {middles : List (List α)}

/-- No element begins every middle. -/
def ApartAtFront (middles : List (List α)) : Prop := ∀ c, ∃ m ∈ middles, m ≠ [] ∧ m.head? ≠ some c

/-- No element ends every middle. -/
def ApartAtEnd (middles : List (List α)) : Prop := ∀ c, ∃ m ∈ middles, m ≠ [] ∧ m.getLast? ≠ some c

omit [DecidableEq α] in
theorem ApartAtEnd.reverse (h : ApartAtEnd middles) : ApartAtFront (middles.map List.reverse) := by
  intro c
  obtain ⟨m, hm, hne, hc⟩ := h c
  exact ⟨m.reverse, List.mem_map_of_mem hm, by simpa using hne, by simpa using hc⟩

omit [DecidableEq α] in
/-- What begins all of the names goes no further than `pre`. -/
theorem prefix_of_apart (h : ApartAtFront middles) (hm : m ∈ middles)
    (hx : ∀ m ∈ middles, x <+: pre ++ m ++ post) : x <+: pre := by
  have hpre : pre <+: pre ++ m ++ post := List.append_assoc pre m post ▸ List.prefix_append _ _
  rcases List.prefix_or_prefix_of_prefix (hx m hm) hpre with hle | ⟨r, rfl⟩
  · exact hle
  cases r with
  | nil => simp
  | cons c r =>
    -- The element after `pre` would begin every middle.
    obtain ⟨m', hm', hne, hc⟩ := h c
    obtain ⟨d, t, rfl⟩ := List.exists_cons_of_ne_nil hne
    have hr := hx _ hm'
    rw [List.append_assoc, List.prefix_append_right_inj, List.cons_append, List.cons_prefix_cons] at hr
    exact absurd (congrArg some hr.1.symm) hc

omit [DecidableEq α] in
theorem suffix_of_apart (h : ApartAtEnd middles) (hm : m ∈ middles)
    (hx : ∀ m ∈ middles, x <:+ pre ++ m ++ post) : x <:+ post := by
  have hall : ∀ m' ∈ middles.map List.reverse, x.reverse <+: post.reverse ++ m' ++ pre.reverse := by
    intro m' hm'
    obtain ⟨m, hm, rfl⟩ := List.mem_map.1 hm'
    simpa using List.reverse_prefix.2 (hx m hm)
  exact List.reverse_prefix.1 (prefix_of_apart h.reverse (List.mem_map_of_mem hm) hall)

/-- The loop leaves the common end. -/
theorem foldl_keepSuffix_eq (h : ApartAtEnd (m :: middles)) :
    (middles.map (pre ++ · ++ post)).foldl (fun s n => keepSuffix n s) (pre ++ m ++ post) = post := by
  have hends : ∀ x, x <:+ (middles.map (pre ++ · ++ post)).foldl (fun s n => keepSuffix n s)
      (pre ++ m ++ post) ↔ ∀ m' ∈ m :: middles, x <:+ pre ++ m' ++ post := by
    intro x
    rw [suffix_foldl_iff, List.forall_mem_map, List.forall_mem_cons]
  have hle := suffix_of_apart h List.mem_cons_self ((hends _).1 List.suffix_rfl)
  have hge := (hends post).2 fun m' _ => List.suffix_append _ _
  exact hle.eq_of_length (hle.length_le.antisymm hge.length_le)

theorem foldl_keepPrefix_eq (h : ApartAtFront (m :: middles)) :
    (middles.map (pre ++ · ++ post)).foldl (fun p n => keepPrefix n p) (pre ++ m ++ post) = pre := by
  have hbegins : ∀ x, x <+: (middles.map (pre ++ · ++ post)).foldl (fun p n => keepPrefix n p)
      (pre ++ m ++ post) ↔ ∀ m' ∈ m :: middles, x <+: pre ++ m' ++ post := by
    intro x
    rw [prefix_foldl_iff, List.forall_mem_map, List.forall_mem_cons]
  have hle := prefix_of_apart h List.mem_cons_self ((hbegins _).1 List.prefix_rfl)
  have hge := (hbegins pre).2 fun m' _ => List.append_assoc pre m' post ▸ List.prefix_append _ _
  exact hle.eq_of_length (hle.length_le.antisymm hge.length_le)

end Affixes
