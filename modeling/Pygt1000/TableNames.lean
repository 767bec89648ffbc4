import Pygt1000.PdfTables

/-!
# One name for the instances of a table

A section of the PDF declares the tables of all instances of a block, and `canonical_name` cuts the
mark of the instance out of their names. An address map names the table of one instance, and
`convert_to_json` takes the mark out by replacing the names it knows. The two were written apart;
on the kinds of blocks that have instances they agree (`reference_resolves`), whatever follows the
mark, as the effect does in `PatchFx1Comp`.
-/

namespace Pygt1000.SpecToJson

open PdfTables (canonicalName)

/-- The stems of the tables that come in instances, and the marks of these. -/
def families : List (List Char × List Char) :=
  [("PatchDist".toList, "1234".toList), ("PatchNs".toList, "1234".toList),
    ("PatchEq".toList, "1234".toList), ("PatchFx".toList, "1234".toList),
    ("PatchDelay".toList, "1234".toList), ("PatchPreamp".toList, "AB".toList)]

def patch : List Char := "Patch".toList

/-! ## Where a name can be found -/

/-- No `Patch` begins in `u`, whatever follows. -/
def quiet : List Char → Bool
  | [] => true
  | [c] => c ≠ 'P'
  | c :: d :: u => (c ≠ 'P' || d ≠ 'a') && quiet (d :: u)

variable {u k rest : List Char}

theorem infix_of_quiet (hu : quiet u = true) (h : patch <:+: u ++ rest) : patch <:+: rest := by
  induction u with
  | nil => exact h
  | cons c u ih =>
    rw [List.cons_append, List.infix_cons_iff] at h
    cases u with
    | nil =>
      have hc : c ≠ 'P' := by simpa [quiet] using hu
      exact h.resolve_left fun hp => hc (List.cons_prefix_cons.1 hp).1.symm
    | cons d u =>
      simp only [quiet, Bool.and_eq_true, Bool.or_eq_true, decide_eq_true_eq] at hu
      refine ih hu.2 (h.resolve_left fun hp => ?_)
      obtain ⟨hc, hp⟩ := List.cons_prefix_cons.1 hp
      exact hu.1.elim (fun hne => hne hc.symm) fun hne => hne (List.cons_prefix_cons.1 hp).1.symm

/-- A name that begins like all of them is found at the beginning only. -/
theorem prefix_of_infix (hatch : quiet ("atch".toList ++ u) = true)
    (hrest : ¬ patch <:+: rest) (h : patch ++ k <:+: patch ++ u ++ rest) : k <+: u ++ rest := by
  have hname : patch ++ u ++ rest = 'P' :: ("atch".toList ++ u ++ rest) := rfl
  rw [hname, List.infix_cons_iff, ← hname] at h
  rcases h with h | h
  · rwa [List.append_assoc, List.prefix_append_right_inj] at h
  · have hpatch : patch <:+: "atch".toList ++ u ++ rest := (List.infix_append_left ..).trans h
    exact absurd (infix_of_quiet hatch hpatch) hrest

/-! ## The replacements -/

theorem instances_patch : ∀ x ∈ instances, x.1 = patch ++ x.1.drop 5 ∧ x.2 = patch ++ x.2.drop 5 ∧
    quiet ("atch".toList ++ x.1.drop 5) = true ∧ quiet ("atch".toList ++ x.2.drop 5) = true := by decide

/-- No name of an instance begins another. -/
theorem instances_apart : ∀ x ∈ instances, ∀ y ∈ instances,
    y.1.drop 5 <+: x.1.drop 5 ∨ x.1.drop 5 <+: y.1.drop 5 → y = x := by decide

/-- What the instances share begins their names and no others, and is none. -/
theorem instances_stem : ∀ x ∈ instances, ∀ y ∈ instances,
    ¬ y.1.drop 5 <+: x.2.drop 5 ∧ (x.2.drop 5 <+: y.1.drop 5 → y.2 = x.2) := by decide

theorem instances_nodup : instances.Nodup := by decide

theorem instances_families : (∀ f ∈ families, ∀ i ∈ f.2, (f.1 ++ [i], f.1) ∈ instances) ∧
    ∀ f ∈ families, ∀ y ∈ instances, y.2 = f.1 → ∃ i ∈ f.2, y.1 = f.1 ++ [i] := by
  have hlisted : families.all (fun f => f.2.all fun i => instances.contains (f.1 ++ [i], f.1)) = true := by
    decide +kernel
  have hmark : families.all (fun f =>
      instances.all fun y => y.2 ≠ f.1 || f.2.any fun i => y.1 = f.1 ++ [i]) = true := by
    decide +kernel
  refine ⟨by simpa using hlisted, fun f hf y hy hstem => ?_⟩
  have hany := List.all_eq_true.1 (List.all_eq_true.1 hmark f hf) y hy
  simpa [hstem] using hany

/-- Where no name of an instance is found nothing is replaced. -/
theorem foldl_replace {pairs : List (List Char × List Char)} {t : List Char}
    (h : ∀ x ∈ pairs, ¬ x.1 <:+: t) : pairs.foldl (fun t x => Text.replace x.1 x.2 t) t = t := by
  induction pairs with
  | nil => rfl
  | cons x pairs ih =>
    rw [List.foldl_cons, Text.replace_of_not_infix (h x List.mem_cons_self),
      ih fun y hy => h y (List.mem_cons_of_mem x hy)]

/-- Of the names of instances a name that begins with one has no other. -/
theorem not_infix_other {x y : List Char × List Char} (hx : x ∈ instances) (hy : y ∈ instances)
    (hne : y ≠ x) (hrest : ¬ patch <:+: rest) : ¬ y.1 <:+: x.1 ++ rest := by
  intro hinfix
  rw [(instances_patch x hx).1, (instances_patch y hy).1] at hinfix
  have hpre := prefix_of_infix (instances_patch x hx).2.2.1 hrest hinfix
  exact hne (instances_apart x hx y hy
    (List.prefix_or_prefix_of_prefix hpre (List.prefix_append _ rest)))

/-- Without its mark it has none. -/
theorem not_infix_stem {stem marks : List Char} {x y : List Char × List Char} (hx : x ∈ instances)
    (hy : y ∈ instances) (hfamily : (stem, marks) ∈ families) (hstem : x.2 = stem)
    (hrest : ¬ patch <:+: rest) (hhead : ∀ j ∈ marks, rest.head? ≠ some j) :
    ¬ y.1 <:+: stem ++ rest := by
  subst hstem
  intro hinfix
  rw [(instances_patch x hx).2.1, (instances_patch y hy).1] at hinfix
  have hpre := prefix_of_infix (instances_patch x hx).2.2.2 hrest hinfix
  rcases List.prefix_or_prefix_of_prefix hpre (List.prefix_append _ rest) with h | h
  · exact (instances_stem x hx y hy).1 h
  · obtain ⟨j, hj, hmark⟩ := instances_families.2 _ hfamily y hy ((instances_stem x hx y hy).2 h)
    -- What follows would begin with a mark.
    have hlen : 5 ≤ x.2.length := by
      rw [(instances_patch x hx).2.1]
      simp [patch]
    rw [hmark, List.drop_append_of_le_length hlen, List.prefix_append_right_inj] at hpre
    obtain ⟨t, rfl⟩ := hpre
    exact hhead j hj rfl

/-- The mark of the instance goes, and nothing else. -/
theorem canonicalTable_instance {stem marks : List Char} {i : Char} (hfamily : (stem, marks) ∈ families)
    (hi : i ∈ marks) (hrest : ¬ patch <:+: rest) (hhead : ∀ j ∈ marks, rest.head? ≠ some j) :
    canonicalTable (stem ++ [i] ++ rest) = stem ++ rest := by
  have hx := instances_families.1 _ hfamily i hi
  obtain ⟨pre, post, hsplit⟩ := List.append_of_mem hx
  have hnodup := instances_nodup
  rw [hsplit, List.nodup_append, List.nodup_cons] at hnodup
  have hmem : ∀ y ∈ pre ++ post, y ∈ instances := by
    intro y hy
    rw [hsplit]
    rcases List.mem_append.1 hy with hy | hy
    · exact List.mem_append_left _ hy
    · exact List.mem_append_right _ (List.mem_cons_of_mem _ hy)
  have hbefore : ∀ y ∈ pre, ¬ y.1 <:+: stem ++ [i] ++ rest := fun y hy =>
    not_infix_other hx (hmem y (List.mem_append_left _ hy))
      (hnodup.2.2 y hy _ List.mem_cons_self) hrest
  have hafter : ∀ y ∈ post, ¬ y.1 <:+: stem ++ rest := fun y hy =>
    not_infix_stem hx (hmem y (List.mem_append_right _ hy)) hfamily rfl hrest hhead
  have hnone : ¬ stem ++ [i] <:+: rest := by
    intro h
    have hkey : stem ++ [i] = patch ++ (stem ++ [i]).drop 5 := (instances_patch _ hx).1
    rw [hkey] at h
    exact hrest (List.infix_append_left.trans h)
  rw [canonicalTable, hsplit, List.foldl_append, List.foldl_cons, foldl_replace hbefore,
    Text.replace_append (by simp), Text.replace_of_not_infix hnone, foldl_replace hafter]

/-! ## The sections -/

/-- `canonical_name` drops what the names do not share. -/
theorem canonicalName_middles {middles : List (List Char)} (hfront : Affixes.ApartAtFront middles)
    (hback : Affixes.ApartAtEnd middles) (htwo : 2 ≤ middles.length) (pre post : List Char) :
    canonicalName (middles.map (pre ++ · ++ post)) = pre ++ post := by
  match middles, htwo with
  | m :: m' :: middles, _ =>
    have hpre : ((m' :: middles).map (pre ++ · ++ post)).foldl (fun p n => Affixes.keepPrefix n p)
        (pre ++ m ++ post) = pre := Affixes.foldl_keepPrefix_eq hfront
    have hpost : ((m' :: middles).map (pre ++ · ++ post)).foldl (fun s n => Affixes.keepSuffix n s)
        (pre ++ m ++ post) = post := Affixes.foldl_keepSuffix_eq hback
    have hlong : ((m :: m' :: middles).map (pre ++ · ++ post)).any
        (fun n => decide (n.length < pre.length + post.length)) = false := by
      rw [List.any_eq_false]
      intro n hn
      obtain ⟨x, -, rfl⟩ := List.mem_map.1 hn
      simp only [List.length_append, decide_eq_true_eq]
      omega
    simp only [List.map_cons] at hlong hpre hpost ⊢
    rw [canonicalName]
    · rw [hpre, hpost, hlong, if_neg Bool.false_ne_true]
    · simp

/-- `canonical_name` leaves what stands before and after the marks. -/
theorem canonicalName_instances {stem marks : List Char} {i j : Char} (hi : i ∈ marks) (hj : j ∈ marks)
    (hij : i ≠ j) (rest : List Char) :
    canonicalName (marks.map fun i => stem ++ [i] ++ rest) = stem ++ rest := by
  have hapart : ∀ c : Char, ∃ k ∈ marks, k ≠ c := by
    intro c
    by_cases hc : i = c
    · exact ⟨j, hj, fun hjc => hij (hc.trans hjc.symm)⟩
    · exact ⟨i, hi, hc⟩
  have hfront : Affixes.ApartAtFront (marks.map fun i => [i]) := by
    intro c
    obtain ⟨k, hk, hkc⟩ := hapart c
    exact ⟨[k], List.mem_map_of_mem hk, by simp, by simpa using hkc⟩
  have hback : Affixes.ApartAtEnd (marks.map fun i => [i]) := by
    intro c
    obtain ⟨k, hk, hkc⟩ := hapart c
    exact ⟨[k], List.mem_map_of_mem hk, by simp, by simpa using hkc⟩
  have htwo : 2 ≤ marks.length := by
    match marks, hi, hj with
    | [k], hi, hj => exact absurd ((List.mem_singleton.1 hi).trans (List.mem_singleton.1 hj).symm) hij
    | _ :: _ :: marks, _, _ => simp
  have h := canonicalName_middles hfront hback (by simpa using htwo) stem rest
  rwa [List.map_map] at h

/-- **A reference to one instance is resolved to the table that is extracted**: a section that
declares the tables of two or more instances, whatever follows their marks, is put out under the
name that `convert_to_json` makes of each of the declared ones. -/
theorem reference_resolves {stem marks declared : List Char} (hfamily : (stem, marks) ∈ families)
    (hdeclared : ∀ i ∈ declared, i ∈ marks) {i j : Char} (hi : i ∈ declared) (hj : j ∈ declared)
    (hij : i ≠ j) (hrest : ¬ patch <:+: rest) (hhead : ∀ j ∈ marks, rest.head? ≠ some j) {line : String}
    (hline : PdfTables.sectionNames? (Text.strip Text.isSpace line.toList) =
      some (declared.map fun i => stem ++ [i] ++ rest)) (s : PdfTables.State) :
    ∀ k ∈ declared, (PdfTables.step s line).current =
      some (String.ofList (canonicalTable (stem ++ [k] ++ rest))) := by
  intro k hk
  simp only [PdfTables.step, hline]
  rw [canonicalName_instances hi hj hij, canonicalTable_instance hfamily (hdeclared k hk) hrest hhead]

/-- The compressor of the third fx block. -/
theorem reference_resolves_comp :
    (PdfTables.step PdfTables.fresh "* [PatchFx1Comp, PatchFx2Comp, PatchFx3Comp, PatchFx4Comp]").current =
      some (String.ofList (canonicalTable "PatchFx3Comp".toList)) := by
  have hhead : ∀ j ∈ "1234".toList, "Comp".toList.head? ≠ some j := by
    intro j hj heq
    have hfirst : "Comp".toList.head? = some 'C' := rfl
    obtain rfl : 'C' = j := Option.some.inj (hfirst.symm.trans heq)
    exact absurd hj (by decide)
  have hfamily : ("PatchFx".toList, "1234".toList) ∈ families := by decide
  exact reference_resolves hfamily (fun i hi => hi) (i := '1') (j := '2') (by decide) (by decide)
    (by decide) (by decide) hhead (by decide +kernel) PdfTables.fresh '3' (by decide)

end Pygt1000.SpecToJson
