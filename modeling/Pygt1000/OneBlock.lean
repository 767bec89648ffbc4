import Pygt1000.Scan

/-!
# One block against all of them (`block_snapshot.py:137-154`, `gt1000.py:188-197`)

`get_one_fx_state` looks for its id among those `normalize_block` makes of the block numbers: the
empty string of a single-instance block, `"A"` and `"B"` of the preamps, and the number itself of
everything else. The README gives ids as strings, and a string is never equal to a number, so of its
ids only those of the preamps find their block (`one_block_iff`).
-/

namespace Pygt1000

/-- The id the README gives for block `n` of a type with `count` blocks (`README.md:90-91`). -/
inductive ReadmeId (fxType : String) (count : Nat) : Nat → String → Prop
  | single (h : count = 1) : ReadmeId fxType count 1 "1"
  | preampA (h : fxType = "preamp") : ReadmeId fxType count 1 "A"
  | preampB (h : fxType = "preamp") : ReadmeId fxType count 2 "B"
  | multi (h : count ≠ 1) (hne : fxType ≠ "preamp") {n : Nat} (hn : 1 ≤ n ∧ n ≤ 4) :
    ReadmeId fxType count n (toString n)

namespace BlockSnapshot

section

variable {m : AddressMap} {fetch : Fetch} {s : PatchState} {fxType id : String} {count : Nat}
  (hc : m.fxBlockCount fxType = .ok count)
include hc

/-- A block with another id is passed over. -/
theorem snapshotOneFrom_skip (hid : id ≠ "") {i : Nat} (is : List Nat)
    (hi : .str id ≠ AddressMap.normalId count fxType (.int (i + 1))) :
    snapshotOneFrom m fetch fxType (.str id) true s (i :: is) =
      snapshotOneFrom m fetch fxType (.str id) true s is := by
  have hfalse : ¬ (StrOrInt.str id = .str "" ∨ StrOrInt.str id = .int 0 ∨
      .str id = AddressMap.normalId count fxType (.int (i + 1))) := by
    simp [hid, hi]
  simp only [snapshotOneFrom, normalizeBlock_eq hc, ok_bind, if_neg hfalse]

/-- An id that none of the blocks has. -/
theorem snapshotOneFrom_none (hid : id ≠ "") (is : List Nat)
    (hne : ∀ i ∈ is, .str id ≠ AddressMap.normalId count fxType (.int (i + 1))) :
    snapshotOneFrom m fetch fxType (.str id) true s is = .ok (s, none) := by
  induction is with
  | nil => rfl
  | cons i is ih =>
    obtain ⟨hi, his⟩ := List.forall_mem_cons.1 hne
    rw [snapshotOneFrom_skip hc hid is hi]
    exact ih his

theorem snapshotOne_none (hid : id ≠ "")
    (hne : ∀ i, .str id ≠ AddressMap.normalId count fxType (.int ((i : Nat) + 1))) :
    snapshotOne m fetch s fxType (.str id) true = .ok (s, none) := by
  simp only [snapshotOne, hc, ok_bind]
  exact snapshotOneFrom_none hc hid _ fun i _ => hne i

theorem snapshotAll_ids {s' : PatchState} {all : List FxBlock}
    (hall : snapshotAll m fetch s fxType = .ok (s', all)) :
    all.map (·.fxId) =
      (List.range count).map (fun i : Nat => AddressMap.normalId count fxType (.int (i + 1))) := by
  simp only [snapshotAll, hc, ok_bind] at hall
  exact (snapshotFrom_spec hc hall).2.1

/-- A block of another type than `fx` is the same whether those before it were read or not. -/
theorem snapshotOneFrom_found (hne : fxType ≠ "fx") {is : List Nat} {s' : PatchState}
    {all : List FxBlock} (hall : snapshotFrom m fetch fxType s is = .ok (s', all)) {k i : Nat}
    (hi : is[k]? = some i) (hid : AddressMap.normalId count fxType (.int (i + 1)) = .str id)
    (hbefore : ∀ j ∈ is.take k, .str id ≠ AddressMap.normalId count fxType (.int (j + 1)))
    (hempty : id ≠ "") :
    ∃ fx, snapshotOneFrom m fetch fxType (.str id) true s is = .ok (s, some fx) ∧ all[k]? = some fx := by
  induction is generalizing k all with
  | nil => cases hi
  | cons j is ih =>
    obtain ⟨s1, fx, rest, hfx, hrest, rfl⟩ := snapshotFrom_cons hc hall
    -- Only an fx block leaves a trace in the state.
    obtain ⟨state, name, slider1, slider2, -, -, hs1, -, -⟩ := snapshot_eq_ok hfx
    rw [named, if_neg hne] at hs1
    rw [hs1] at hfx hrest
    cases k with
    | zero =>
      cases hi
      refine ⟨fx, ?_, rfl⟩
      rw [hid] at hfx
      simp only [snapshotOneFrom, normalizeBlock_eq hc, ok_bind, hid, or_true, if_true, hfx, pure_eq_ok]
    | succ k =>
      obtain ⟨hj, hbefore⟩ := List.forall_mem_cons.1 hbefore
      rw [snapshotOneFrom_skip hc hempty is hj]
      exact ih hrest hi hbefore

/-- The second preamp is the second number whose id is compared. -/
theorem snapshotOne_preamp (hcount : count ≠ 1) {s' : PatchState} {all : List FxBlock}
    (htype : fxType = "preamp") (hall : snapshotAll m fetch s fxType = .ok (s', all)) {n : Nat}
    (hid : n = 1 ∧ id = "A" ∨ n = 2 ∧ id = "B") (hn : n ≤ count) :
    ∃ fx, snapshotOne m fetch s fxType (.str id) true = .ok (s, some fx) ∧ all[n - 1]? = some fx := by
  simp only [snapshotAll, hc, ok_bind] at hall
  simp only [snapshotOne, hc, ok_bind]
  have hne : fxType ≠ "fx" := by rw [htype]; decide
  have hi : (List.range count)[n - 1]? = some (n - 1) := List.getElem?_range (by omega)
  rcases hid with ⟨rfl, rfl⟩ | ⟨rfl, rfl⟩
  · refine snapshotOneFrom_found hc hne hall hi ?_ (by simp) (by decide)
    simp [AddressMap.normalId, hcount, htype]
  · refine snapshotOneFrom_found hc hne hall hi ?_ ?_ (by decide)
    · simp [AddressMap.normalId, hcount, htype]
    · intro j hj
      have hj : j = 0 := by
        rw [List.take_range, List.mem_range] at hj
        omega
      simp [hj, AddressMap.normalId, hcount, htype]

end

end BlockSnapshot

/-- The ids of the README are no empty strings, and only those of the preamps are compared equal. -/
theorem ReadmeId.ne_normalId {fxType id : String} {count n : Nat} (h : ReadmeId fxType count n id)
    (hother : ¬ (fxType = "preamp" ∧ count ≠ 1)) (i : Nat) :
    .str id ≠ AddressMap.normalId count fxType (.int (i + 1)) := by
  by_cases hcount : count = 1
  · rw [AddressMap.normalId, if_pos hcount]
    cases h <;> simp_all
  · have htype : fxType ≠ "preamp" := fun htype => hother ⟨htype, hcount⟩
    simp [AddressMap.normalId, hcount, htype]

theorem ReadmeId.ne_empty {fxType id : String} {count n : Nat} (h : ReadmeId fxType count n id) :
    id ≠ "" := by
  cases h with
  | single h => decide
  | preampA h => decide
  | preampB h => decide
  | @multi h hne n hn =>
    obtain ⟨h1, h4⟩ := hn
    interval_cases n <;> decide

theorem fxBlockCount_shipped :
    addressMap.fxBlockCount "comp" = .ok 1 ∧ addressMap.fxBlockCount "preamp" = .ok 2 := by
  have hc := fxTypesCount_shipped
  simp only [fxTypes, List.map_cons, List.map_nil, List.cons.injEq, and_true] at hc
  simp [AddressMap.fxBlockCount, hc]

/-- **Reading one block agrees with reading all of them, exactly** for the preamps: for every map,
memory and state, where all the blocks of the type can be read, the id the README gives for block
`n` finds the `n`-th of them if it is a preamp's, and finds nothing otherwise. -/
theorem one_block_iff {m : AddressMap} {fetch : Fetch} {s s' : PatchState} {fxType : String}
    {count : Nat} (hc : m.fxBlockCount fxType = .ok count) {all : List FxBlock}
    (hall : BlockSnapshot.snapshotAll m fetch s fxType = .ok (s', all)) {n : Nat} (hn : n ≤ count)
    {id : String} (hid : ReadmeId fxType count n id) :
    (∃ s'' fx, BlockSnapshot.snapshotOne m fetch s fxType (.str id) true = .ok (s'', some fx) ∧
        all[n - 1]? = some fx) ↔ fxType = "preamp" ∧ count ≠ 1 := by
  by_cases hpreamp : fxType = "preamp" ∧ count ≠ 1
  · obtain ⟨htype, hcount⟩ := hpreamp
    have hnid : n = 1 ∧ id = "A" ∨ n = 2 ∧ id = "B" := by
      cases hid with
      | single h => exact absurd h hcount
      | preampA h => exact Or.inl ⟨rfl, rfl⟩
      | preampB h => exact Or.inr ⟨rfl, rfl⟩
      | multi h hne hn => exact absurd htype hne
    obtain ⟨fx, hone, hall⟩ := BlockSnapshot.snapshotOne_preamp hc hcount htype hall hnid hn
    exact iff_of_true ⟨s, fx, hone, hall⟩ ⟨htype, hcount⟩
  · have hnone : BlockSnapshot.snapshotOne m fetch s fxType (.str id) true = .ok (s, none) := by
      simp only [BlockSnapshot.snapshotOne, hc, ok_bind]
      exact BlockSnapshot.snapshotOneFrom_none hc hid.ne_empty _ fun i _ => hid.ne_normalId hpreamp i
    refine iff_of_false ?_ hpreamp
    rintro ⟨s'', fx, hone, -⟩
    rw [hnone] at hone
    cases hone

/-- Preamp B, with every setting at zero. -/
theorem one_block_preampB : ∃ s' all,
    BlockSnapshot.snapshotAll addressMap zeros (.fresh fxTypes) "preamp" = .ok (s', all) ∧
    ((∃ s'' fx, BlockSnapshot.snapshotOne addressMap zeros (.fresh fxTypes) "preamp" (.str "B") true =
        .ok (s'', some fx) ∧ all[2 - 1]? = some fx) ↔ "preamp" = "preamp" ∧ 2 ≠ 1) := by
  obtain ⟨⟨s', all⟩, hall⟩ := (snapshotAll_iff (t := "preamp") (Or.inl rfl)
    exact_zeros (by decide)).2 (fun h => absurd h (by decide))
  have hc := fxBlockCount_shipped.2
  exact ⟨s', all, hall, one_block_iff hc hall (by decide) (.preampB rfl)⟩

/-- The compressor can be read with all of its type, and is not found as `"1"`. -/
theorem one_block_comp :
    (∃ s' all, BlockSnapshot.snapshotAll addressMap zeros (.fresh fxTypes) "comp" = .ok (s', all) ∧
      (all.map (·.fxId)) = [.str ""]) ∧
    BlockSnapshot.snapshotOne addressMap zeros (.fresh fxTypes) "comp" (.str "1") true =
      .ok (.fresh fxTypes, none) := by
  have hc := fxBlockCount_shipped.1
  obtain ⟨⟨s', all⟩, hall⟩ := (snapshotAll_iff (t := "comp") (Or.inl rfl)
    exact_zeros (by decide)).2 (fun h => absurd h (by decide))
  have hid : ReadmeId "comp" 1 1 "1" := .single rfl
  exact ⟨⟨s', all, hall, BlockSnapshot.snapshotAll_ids hc hall⟩,
    BlockSnapshot.snapshotOne_none hc hid.ne_empty (hid.ne_normalId (by decide))⟩

end Pygt1000
