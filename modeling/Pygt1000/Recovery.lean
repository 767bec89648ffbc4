import Pygt1000.EffectNames
import Pygt1000.SliderRefresh

/-!
# A refresh forgets what was known

Whatever was recorded before, and whatever names the effects had, a refresh of every type
(`refresh_state`, `gt1000.py:157-164`) leaves the blocks the unit's answers make, or raises what they
make it raise (`refresh_forgets`): a read of an fx block takes the name of its effect from the state,
but the name it takes is the one the same pass has just put there (`block_snapshot.py:119-133`). The
names it leaves are those of the blocks.
-/

namespace Pygt1000

open Specs

/-- Parts that agree on what is passed on make up computations that agree. -/
theorem map_bind_congr {ε σ α β γ : Type} {x x' : Except ε (σ × α)} {f f' : σ × α → Except ε β} {g : β → γ}
    (hx : x.map (·.2) = x'.map (·.2))
    (hf : ∀ s s' a, x = .ok (s, a) → x' = .ok (s', a) → (f (s, a)).map g = (f' (s', a)).map g) :
    (x >>= f).map g = (x' >>= f').map g := by
  cases x with
  | error e =>
    cases x' with
    | error e' =>
      obtain rfl : e = e' := Except.error.inj hx
      rfl
    | ok r' => cases hx
  | ok r =>
    cases x' with
    | error e' => cases hx
    | ok r' =>
      obtain ⟨s, a⟩ := r
      obtain ⟨s', a'⟩ := r'
      obtain rfl : a = a' := Except.ok.inj hx
      exact hf s s' a rfl rfl

/-! ## The blocks -/

section

variable {m : AddressMap} {fetch : Fetch} {fxType : String} {fxId : StrOrInt} {s s' : PatchState}

theorem snapshot_congr (s s' : PatchState) :
    (BlockSnapshot.snapshot m fetch s fxType fxId true).map (·.2) =
      (BlockSnapshot.snapshot m fetch s' fxType fxId true).map (·.2) := by
  cases hstate : BlockReader.read m fetch fxType fxId "SW" false with
  | error e => simp [BlockSnapshot.snapshot, hstate]
  | ok state =>
    cases hname : BlockSnapshot.blockName m fetch fxType fxId with
    | error e => simp [BlockSnapshot.snapshot, hstate, hname]
    | ok name =>
      -- the name the sliders go by is the one that was read, in both
      have hsliders : BlockSnapshot.slidersFor m fetch (BlockSnapshot.named s fxType fxId name) fxType fxId name =
          BlockSnapshot.slidersFor m fetch (BlockSnapshot.named s' fxType fxId name) fxType fxId name := by
        refine BlockSnapshot.slidersFor_congr (fun hfx => ?_) fun _ => Iff.rfl
        rw [BlockSnapshot.named, BlockSnapshot.named, if_pos hfx, if_pos hfx, PatchState.fxName_setFxName,
          PatchState.fxName_setFxName]
      simp only [BlockSnapshot.named] at hsliders
      simp only [BlockSnapshot.snapshot, hstate, hname, ok_bind, if_true, hsliders]
      generalize BlockSnapshot.slidersFor m fetch _ fxType fxId name = sliders
      cases sliders <;> rfl

theorem snapshotFrom_congr (is : List Nat) (s s' : PatchState) :
    (BlockSnapshot.snapshotFrom m fetch fxType s is).map (·.2) =
      (BlockSnapshot.snapshotFrom m fetch fxType s' is).map (·.2) := by
  induction is generalizing s s' with
  | nil => rfl
  | cons i is ih =>
    simp only [BlockSnapshot.snapshotFrom]
    cases m.normalizeBlock fxType (.int (i + 1)) with
    | error e => rfl
    | ok r =>
      simp only [ok_bind]
      refine map_bind_congr (snapshot_congr s s') fun s1 s1' fx _ _ => ?_
      exact map_bind_congr (ih s1 s1') fun _ _ _ _ _ => rfl

theorem snapshotAll_congr (s s' : PatchState) :
    (BlockSnapshot.snapshotAll m fetch s fxType).map (·.2) =
      (BlockSnapshot.snapshotAll m fetch s' fxType).map (·.2) := by
  simp only [BlockSnapshot.snapshotAll]
  cases m.fxBlockCount fxType with
  | error e => rfl
  | ok n => exact snapshotFrom_congr (List.range n) s s'

theorem snapshotAll_blocks {out : List FxBlock} (h : BlockSnapshot.snapshotAll m fetch s fxType = .ok (s', out)) :
    s'.blocks = s.blocks := by
  obtain ⟨n, hc, h⟩ := bind_eq_ok h
  exact (snapshotFrom_spec hc h).1.1

/-- Two states that agree but for the types that are left are the same after these. -/
theorem refreshFrom_congr {clock clock' : String → Nat} {ts : List String}
    (h : ∀ t, t ∉ ts → s.blocks.lookup t = s'.blocks.lookup t) :
    (Gt1000.refreshFrom m fetch false clock s ts).map (fun r t => r.blocks.lookup t) =
      (Gt1000.refreshFrom m fetch false clock' s' ts).map (fun r t => r.blocks.lookup t) := by
  induction ts generalizing s s' with
  | nil => exact congrArg Except.ok (funext fun t => h t List.not_mem_nil)
  | cons fxType ts ih =>
    simp only [Gt1000.refreshFrom, Bool.false_eq_true, if_false]
    refine map_bind_congr (snapshotAll_congr s s') fun s1 s1' out hs1 hs1' => ih fun t ht => ?_
    by_cases heq : t = fxType
    · subst heq
      simp [PatchState.recordScan]
    · have hrest := h t fun hmem => (List.mem_cons.1 hmem).elim heq ht
      simp [PatchState.recordScan, AList.lookup_insert_ne heq, snapshotAll_blocks hs1, snapshotAll_blocks hs1',
        hrest]

end

/-! ## The names of the effects -/

/-- The names are those of the recorded fx blocks. -/
def OwnNames (s : PatchState) : Prop :=
  ∀ blocks, s.blocks.lookup "fx" = some blocks → ∀ fx ∈ blocks, s.fxName fx.fxId = .ok fx.name

section

variable {m : AddressMap} {fetch : Fetch} {s s' : PatchState} {t : String} {n : Nat} {is : List Nat}
  {out : List FxBlock}

theorem names_snapshotFrom (hc : m.fxBlockCount "fx" = .ok n) (hnodup : (out.map fun fx => fx.fxId.toStr).Nodup)
    (h : BlockSnapshot.snapshotFrom m fetch "fx" s is = .ok (s', out)) :
    (∀ fx ∈ out, s'.fxNames.lookup fx.fxId.toStr = some fx.name) ∧
      ∀ id, id ∉ out.map (fun fx => fx.fxId.toStr) → s'.fxNames.lookup id = s.fxNames.lookup id := by
  induction is generalizing s out with
  | nil =>
    cases h
    exact ⟨fun fx hfx => absurd hfx List.not_mem_nil, fun _ _ => rfl⟩
  | cons i is ih =>
    obtain ⟨s1, fx, rest, hfx, hrest, rfl⟩ := BlockSnapshot.snapshotFrom_cons hc h
    obtain ⟨state, name, slider1, slider2, -, -, rfl, -, rfl⟩ := BlockSnapshot.snapshot_eq_ok hfx
    obtain ⟨hfresh, hnodup⟩ := List.nodup_cons.1 hnodup
    obtain ⟨hnames, hothers⟩ := ih hnodup hrest
    refine ⟨List.forall_mem_cons.2 ⟨?_, hnames⟩, fun id hid => ?_⟩
    · rw [hothers _ hfresh]
      simp [BlockSnapshot.named, PatchState.setFxName]
    · obtain ⟨hne, hid⟩ := not_or.1 fun hmem => hid (List.mem_cons.2 hmem)
      rw [hothers id hid]
      simp [BlockSnapshot.named, PatchState.setFxName, AList.lookup_insert_ne hne]

theorem fxNames_snapshotFrom (hne : t ≠ "fx") (hc : m.fxBlockCount t = .ok n)
    (h : BlockSnapshot.snapshotFrom m fetch t s is = .ok (s', out)) : s'.fxNames = s.fxNames := by
  induction is generalizing s out with
  | nil =>
    cases h
    rfl
  | cons i is ih =>
    obtain ⟨s1, fx, rest, hfx, hrest, rfl⟩ := BlockSnapshot.snapshotFrom_cons hc h
    obtain ⟨-, name, -, -, -, -, rfl, -, -⟩ := BlockSnapshot.snapshot_eq_ok hfx
    rw [ih hrest, BlockSnapshot.named, if_neg hne]

/-- The scan of a type, recorded, leaves the names with their blocks. -/
theorem ownNames_scan (hm : Loaded m) (ht : t ∈ fxTypes) (hs : t ≠ "fx" → OwnNames s)
    (h : BlockSnapshot.snapshotAll m fetch s t = .ok (s', out)) (now : Nat) : OwnNames (s'.recordScan t out now) := by
  obtain ⟨⟨hblocks, -⟩, hcomplete, -⟩ := snapshotAll_spec hm ht h
  obtain ⟨n, hc, hfrom⟩ := bind_eq_ok h
  intro blocks hl fx hfx
  by_cases heq : t = "fx"
  · subst heq
    obtain rfl : out = blocks := by simpa [PatchState.recordScan] using hl
    exact subscript_eq_ok.2 ((names_snapshotFrom hc hcomplete.nodup hfrom).1 fx hfx)
  · have hbefore : s.blocks.lookup "fx" = some blocks := by
      simpa [PatchState.recordScan, AList.lookup_insert_ne (Ne.symm heq), hblocks] using hl
    have hname := hs heq blocks hbefore fx hfx
    rwa [PatchState.fxName, ← fxNames_snapshotFrom heq hc hfrom] at hname

theorem ownNames_refreshFrom {clock : String → Nat} {ts : List String} (hm : Loaded m)
    (hts : ∀ t ∈ ts, t ∈ fxTypes) (hs : "fx" ∉ ts → OwnNames s)
    (h : Gt1000.refreshFrom m fetch false clock s ts = .ok s') : OwnNames s' := by
  induction ts generalizing s with
  | nil =>
    cases h
    exact hs List.not_mem_nil
  | cons t ts ih =>
    simp only [Gt1000.refreshFrom, Bool.false_eq_true, if_false] at h
    obtain ⟨⟨s1, out⟩, hsnap, h⟩ := bind_eq_ok h
    refine ih (fun t ht => hts t (List.mem_cons_of_mem _ ht)) (fun hmem => ?_) h
    refine ownNames_scan hm (hts t List.mem_cons_self) (fun hne => hs fun hfx => ?_) hsnap (clock t)
    exact (List.mem_cons.1 hfx).elim (fun heq => hne heq.symm) hmem

end

/-- **A refresh forgets what was known.** From any two states the same blocks are recorded, or the same
error is raised, and the names recorded for the effects are those of the fx blocks. -/
theorem refresh_forgets {m : AddressMap} (hm : Loaded m) (fetch : Fetch) (clock clock' : String → Nat)
    {s s' : PatchState} (hs : s.Known) (hs' : s'.Known) :
    (Gt1000.refreshState m fetch false clock s).map (fun r t => r.blocks.lookup t) =
        (Gt1000.refreshState m fetch false clock' s').map (fun r t => r.blocks.lookup t) ∧
      ∀ r, Gt1000.refreshState m fetch false clock s = .ok r →
        ∀ blocks, r.blocks.lookup "fx" = some blocks → ∀ fx ∈ blocks, r.fxName fx.fxId = .ok fx.name := by
  have hunknown {s : PatchState} (hs : s.Known) (t : String) (ht : t ∉ fxTypes) : s.blocks.lookup t = none :=
    AList.lookup_eq_none.2 fun hkey => ht (hs.keys t hkey)
  rw [Gt1000.refreshState, Gt1000.refreshState, hs.types, hs'.types]
  refine ⟨refreshFrom_congr fun t ht => (hunknown hs t ht).trans (hunknown hs' t ht).symm, fun r hr => ?_⟩
  exact ownNames_refreshFrom hm (fun t ht => ht) (fun hnot => absurd (by decide) hnot) hr

/-- A state that knows of the compressor only. -/
def compKnown : PatchState :=
  (PatchState.fresh fxTypes).recordScan "comp" [⟨.str "", none, none, none, none⟩] 7

theorem refresh_forgets_comp :
    (Gt1000.refreshState addressMap zeros false (fun _ => 0) compKnown).map (fun r t => r.blocks.lookup t) =
        (Gt1000.refreshState addressMap zeros false (fun _ => 1) (.fresh fxTypes)).map
          (fun r t => r.blocks.lookup t) ∧
      ∀ r, Gt1000.refreshState addressMap zeros false (fun _ => 0) compKnown = .ok r →
        ∀ blocks, r.blocks.lookup "fx" = some blocks → ∀ fx ∈ blocks, r.fxName fx.fxId = .ok fx.name :=
  have hknown : compKnown.Known := ⟨rfl, by decide⟩
  refresh_forgets (Or.inl rfl) zeros (fun _ => 0) (fun _ => 1) hknown PatchState.known_fresh

end Pygt1000
