import Pygt1000.Lib.Runs
import Pygt1000.PatchState

/-!
# The state dictionary as it is kept (`patch_state.py`)

| here | there |
| --- | --- |
| `PatchDict.state`    | `self._state`: the blocks by fx type, and `"last_sync_ts"` (`patch_state.py:22-28`, `:92`) |
| `isReady`            | `_is_ready_locked` (`:105-108`) |
| `recordScan`, `setFx`, `setFxName`, `setSliders`, `apply` | the same (`:115-221`) |
| `Op`, `step`         | one call of one of them |

The time stamps live in the dictionary of the blocks, under a key of their own, and `is_ready`
counts the keys. `PatchState` keeps the two apart. `refines_step`: they stay in step through
every call but a scan recorded for a type of the name `"last_sync_ts"`, which overwrites the
stamps. `ready_iff_scanned`: without a type of that name, the count is the question whether
every fx type was scanned.

A method that raises has done what it did before; `PatchDict` methods return the state and the
exception.
-/

namespace Pygt1000

/-- A value of `self._state`. -/
inductive StateEntry where
  | stamps (byType : AList fun _ : String => Nat)
  | blocks (entries : List FxBlock)

structure PatchDict where
  fxTypes : List String
  state : AList fun _ : String => StateEntry
  fxNames : AList fun _ : String => Option StrOrInt

/-- The key of the time stamps. -/
def lastSyncKey : String := "last_sync_ts"

namespace PatchDict

/-- `__init__` (`:88-98`). -/
def fresh (fxTypes : List String) : PatchDict :=
  ⟨fxTypes, (∅ : AList fun _ : String => StateEntry).insert lastSyncKey (.stamps ∅), ∅⟩

/-- `(len(self._state) - 1) == len(self._fx_types)`. -/
def isReady (s : PatchDict) : Bool := (s.state.keys.length : Int) - 1 == s.fxTypes.length

/-- `self._state["last_sync_ts"][fx_type] = ts`. -/
def stamp (s : PatchDict) (fxType : String) (ts : Nat) : PatchDict × Option PyErr :=
  match s.state.lookup lastSyncKey with
  | some (.stamps byType) =>
    ({ s with state := s.state.insert lastSyncKey (.stamps (byType.insert fxType ts)) }, none)
  | some (.blocks _) => (s, some .typeError)
  | none => (s, some .keyError)

/-- `record_scan` (`:115-119`). -/
def recordScan (s : PatchDict) (fxType : String) (states : List FxBlock) (ts : Nat) :
    PatchDict × Option PyErr :=
  { s with state := s.state.insert fxType (.blocks states) }.stamp fxType ts

/-- `set_fx` (`:121-134`). Of the stamps, one has no key `0`, and of several the keys, which are
strings, have no id. -/
def setFx (s : PatchDict) (fxType : String) (fxId : StrOrInt) (assign : FxBlock → FxBlock) :
    PatchDict × Option PyErr :=
  match s.state.lookup fxType with
  | none => (s, some .keyError)
  | some (.stamps byType) =>
    match byType.keys with
    | [] => (s, none)
    | [_] => (s, some .keyError)
    | _ => (s, some .attributeError)
  | some (.blocks entries) =>
    let entries := match entries with
      | [entry] => [assign entry]
      | _ => entries.map fun entry => if entry.fxId.toStr = fxId.toStr then assign entry else entry
    ({ s with state := s.state.insert fxType (.blocks entries) }, none)

/-- `set_fx_name` (`:136-151`). -/
def setFxName (s : PatchDict) (fxId : StrOrInt) (name : Option StrOrInt) : PatchDict :=
  { s with fxNames := s.fxNames.insert fxId.toStr name }

/-- `set_sliders` (`:159-166`). -/
def setSliders (s : PatchDict) (fxType : String) (fxId : StrOrInt)
    (slider1 slider2 : Option SliderValue) : PatchDict × Option PyErr :=
  match s.state.lookup fxType with
  | none => (s, some .keyError)
  | some (.stamps byType) =>
    match byType.keys with
    | [] => (s, none)
    | _ => (s, some .attributeError)
  | some (.blocks entries) =>
    match PatchState.modifyBlock fxId.toStr (fun fx => { fx with slider1, slider2 }) entries with
    | some entries => ({ s with state := s.state.insert fxType (.blocks entries) }, none)
    | none => (s, none)

/-- The part of `apply` that follows finding block `fx` (`:185-220`). -/
def fold (s : PatchDict) (now : Nat) (d : DecodedValue) (fxType : String) (fx : FxBlock)
    (entries : List FxBlock) : PatchDict × Except PyErr ApplyResult :=
  let folded : PatchDict :=
    { s with
      state := s.state.insert fxType (.blocks entries)
      fxNames :=
        if fxType = "fx" ∧ d.valueName = "TYPE" then
          s.fxNames.insert (PatchState.idStr d.fxId) (d.strValue.map .str)
        else s.fxNames }
  let result := PatchState.blockResult d fx
  if result.matched then
    match folded.stamp fxType now with
    | (stamped, none) => (stamped, .ok result)
    | (stamped, some e) => (stamped, .error e)
  else (folded, .ok result)

/-- `apply` (`:168-221`). -/
def apply (s : PatchDict) (now : Nat) (d : DecodedValue) : PatchDict × Except PyErr ApplyResult :=
  if s.isReady then
    match d.fxType with
    | none => (s, .error .keyError)
    | some fxType =>
      match s.state.lookup fxType with
      | none => (s, .error .keyError)
      | some (.stamps byType) =>
        match byType.keys with
        | [] => (s, .ok ⟨false, false⟩)
        | _ => (s, .error .attributeError)
      | some (.blocks entries) =>
        match PatchState.findBlock d entries,
          PatchState.modifyBlock (PatchState.idStr d.fxId) (PatchState.applyBlock d) entries with
        | some fx, some entries => s.fold now d fxType fx entries
        | _, _ => (s, .ok ⟨false, false⟩)
  else (s, .ok ⟨false, false⟩)

end PatchDict

/-! ## Calls -/

/-- A call of a method that may change the state. -/
inductive Op where
  | recordScan (fxType : String) (states : List FxBlock) (ts : Nat)
  | setFx (fxType : String) (fxId : StrOrInt) (assign : FxBlock → FxBlock)
  | setFxName (fxId : StrOrInt) (name : Option StrOrInt)
  | setSliders (fxType : String) (fxId : StrOrInt) (slider1 slider2 : Option SliderValue)
  | apply (now : Nat) (d : DecodedValue)

/-- The fx type a call records a scan of. -/
def Op.scans : Op → Option String
  | .recordScan fxType _ _ => some fxType
  | _ => none

/-- The fx types a run records scans of. -/
def scanned (ops : List Op) : List String := ops.filterMap Op.scans

/-- The state after the call, whether it returned or raised. -/
def PatchDict.step (s : PatchDict) : Op → PatchDict
  | .recordScan fxType states ts => (s.recordScan fxType states ts).1
  | .setFx fxType fxId assign => (s.setFx fxType fxId assign).1
  | .setFxName fxId name => s.setFxName fxId name
  | .setSliders fxType fxId slider1 slider2 => (s.setSliders fxType fxId slider1 slider2).1
  | .apply now d => (s.apply now d).1

abbrev PatchDict.run (s : PatchDict) (ops : List Op) : PatchDict := Runs.run PatchDict.step s ops

/-- A method that raises leaves a `PatchState` as it was. -/
def PatchState.kept (s : PatchState) (r : Except PyErr PatchState) : PatchState :=
  match r with
  | .ok s' => s'
  | .error _ => s

def PatchState.step (s : PatchState) : Op → PatchState
  | .recordScan fxType states ts => s.recordScan fxType states ts
  | .setFx fxType fxId assign => s.kept (s.setFx fxType fxId assign)
  | .setFxName fxId name => s.setFxName fxId name
  | .setSliders fxType fxId slider1 slider2 => s.kept (s.setSliders fxType fxId slider1 slider2)
  | .apply now d => s.kept ((s.apply now d).map Prod.fst)

abbrev PatchState.run (s : PatchState) (ops : List Op) : PatchState := Runs.run PatchState.step s ops

/-! ## The dictionary against the two maps -/

namespace PatchDict

/-- The dictionary holds the stamps under their key and the blocks under the others. -/
structure Refines (d : PatchDict) (s : PatchState) : Prop where
  fxTypes : d.fxTypes = s.fxTypes
  fxNames : d.fxNames = s.fxNames
  stamps : d.state.lookup lastSyncKey = some (.stamps s.lastSyncTs)
  blocks : ∀ t, t ≠ lastSyncKey → d.state.lookup t = (s.blocks.lookup t).map .blocks
  reserved : s.blocks.lookup lastSyncKey = none

theorem refines_fresh (fxTypes : List String) : Refines (fresh fxTypes) (.fresh fxTypes) where
  fxTypes := rfl
  fxNames := rfl
  stamps := AList.lookup_insert _
  blocks t ht := by
    rw [fresh, AList.lookup_insert_ne ht]
    rfl
  reserved := rfl

variable {d : PatchDict} {s : PatchState} {t : String}

/-- One key for every type that has blocks, and the one of the stamps. -/
theorem Refines.keys_perm (h : Refines d s) : d.state.keys.Perm (lastSyncKey :: s.blocks.keys) := by
  have hreserved : lastSyncKey ∉ s.blocks.keys := by
    rw [← AList.mem_keys, ← AList.lookup_isSome, h.reserved]
    exact Bool.false_ne_true
  refine (List.perm_ext_iff_of_nodup d.state.keys_nodup
    (List.nodup_cons.2 ⟨hreserved, s.blocks.keys_nodup⟩)).2 fun t => ?_
  rw [List.mem_cons, ← AList.mem_keys, ← AList.mem_keys, ← AList.lookup_isSome, ← AList.lookup_isSome]
  by_cases ht : t = lastSyncKey
  · subst ht
    simp [h.stamps]
  · simp [ht, h.blocks t ht]

/-- The count of the keys is the count of the types. -/
theorem Refines.isReady_eq (h : Refines d s) : d.isReady = s.isReady := by
  rw [isReady, PatchState.isReady, h.keys_perm.length_eq, h.fxTypes, List.length_cons, Nat.cast_add,
    Nat.cast_one, Int.add_sub_cancel, Bool.eq_iff_iff, beq_iff_eq, beq_iff_eq, Nat.cast_inj]

theorem Refines.insert (h : Refines d s) (ht : t ≠ lastSyncKey) (entries : List FxBlock) :
    Refines { d with state := d.state.insert t (.blocks entries) }
      { s with blocks := s.blocks.insert t entries } where
  fxTypes := h.fxTypes
  fxNames := h.fxNames
  stamps := by rw [AList.lookup_insert_ne ht.symm, h.stamps]
  blocks u hu := by
    by_cases hut : u = t
    · subst hut
      simp
    · rw [AList.lookup_insert_ne hut, AList.lookup_insert_ne hut, h.blocks u hu]
  reserved := by rw [AList.lookup_insert_ne ht.symm, h.reserved]

theorem Refines.setFxNames (h : Refines d s) (fxNames : AList fun _ : String => Option StrOrInt) :
    Refines { d with fxNames } { s with fxNames } :=
  ⟨h.fxTypes, rfl, h.stamps, h.blocks, h.reserved⟩

/-- The stamp is set under its type. -/
theorem Refines.stamp (h : Refines d s) (t : String) (ts : Nat) : ∃ d', d.stamp t ts = (d', none) ∧
    Refines d' { s with lastSyncTs := s.lastSyncTs.insert t ts } := by
  let byType := s.lastSyncTs.insert t ts
  refine ⟨{ d with state := d.state.insert lastSyncKey (.stamps byType) },
    by simp only [PatchDict.stamp, h.stamps, byType], h.fxTypes, h.fxNames, AList.lookup_insert _,
    fun u hu => ?_, h.reserved⟩
  rw [AList.lookup_insert_ne hu, h.blocks u hu]

theorem Refines.recordScan (h : Refines d s) (ht : t ≠ lastSyncKey) (states : List FxBlock) (ts : Nat) :
    Refines (d.recordScan t states ts).1 (s.recordScan t states ts) := by
  obtain ⟨d', hd', h'⟩ := (h.insert ht states).stamp t ts
  rw [PatchDict.recordScan, hd']
  exact h'

theorem Refines.setFx (h : Refines d s) (t : String) (fxId : StrOrInt) (assign : FxBlock → FxBlock) :
    Refines (d.setFx t fxId assign).1 (s.kept (s.setFx t fxId assign)) := by
  by_cases ht : t = lastSyncKey
  · subst ht
    simp only [PatchDict.setFx, h.stamps, PatchState.setFx, h.reserved, subscript_none, error_bind,
      PatchState.kept]
    split <;> exact h
  · cases hl : s.blocks.lookup t with
    | none => simpa [PatchDict.setFx, h.blocks t ht, hl, PatchState.setFx, PatchState.kept] using h
    | some entries =>
      simp only [PatchDict.setFx, h.blocks t ht, hl, PatchState.setFx, PatchState.kept, Option.map_some,
        subscript_some, ok_bind, pure_eq_ok]
      exact h.insert ht _

theorem Refines.setSliders (h : Refines d s) (t : String) (fxId : StrOrInt)
    (slider1 slider2 : Option SliderValue) :
    Refines (d.setSliders t fxId slider1 slider2).1 (s.kept (s.setSliders t fxId slider1 slider2)) := by
  by_cases ht : t = lastSyncKey
  · subst ht
    simp only [PatchDict.setSliders, h.stamps, PatchState.setSliders, h.reserved, subscript_none,
      error_bind, PatchState.kept]
    split <;> exact h
  · cases hl : s.blocks.lookup t with
    | none => simpa [PatchDict.setSliders, h.blocks t ht, hl, PatchState.setSliders, PatchState.kept] using h
    | some entries =>
      simp only [PatchDict.setSliders, h.blocks t ht, hl, PatchState.setSliders, PatchState.kept,
        Option.map_some, subscript_some, ok_bind]
      cases PatchState.modifyBlock fxId.toStr _ entries with
      | none => exact h
      | some entries' => exact h.insert ht entries'

theorem Refines.fold (h : Refines d s) (ht : t ≠ lastSyncKey) (now : Nat) (v : DecodedValue)
    (fx : FxBlock) (entries : List FxBlock) :
    Refines (d.fold now v t fx entries).1 (s.fold now v t fx entries) ∧
      (d.fold now v t fx entries).2 = .ok (PatchState.blockResult v fx) := by
  have hfolded (fxNames : AList fun _ : String => Option StrOrInt) :
      Refines ⟨d.fxTypes, d.state.insert t (.blocks entries), fxNames⟩
        ⟨s.fxTypes, s.blocks.insert t entries, s.lastSyncTs, fxNames⟩ :=
    (h.insert ht entries).setFxNames fxNames
  simp only [PatchDict.fold, PatchState.fold, h.fxNames]
  generalize (if t = "fx" ∧ v.valueName = "TYPE" then
    s.fxNames.insert (PatchState.idStr v.fxId) (v.strValue.map .str) else s.fxNames) = fxNames
  by_cases hr : (PatchState.blockResult v fx).matched = true
  · obtain ⟨d', hd', h'⟩ := (hfolded fxNames).stamp t now
    simp only [hr, if_true, hd']
    exact ⟨h', trivial⟩
  · rw [if_neg hr, if_neg hr]
    exact ⟨hfolded fxNames, rfl⟩

/-- A call of `apply` does the same to both; on a type of its own it also ends the same. -/
theorem Refines.apply (h : Refines d s) (now : Nat) (v : DecodedValue) :
    Refines (d.apply now v).1 (s.kept ((s.apply now v).map Prod.fst)) ∧
      (v.fxType ≠ some lastSyncKey → (d.apply now v).2 = (s.apply now v).map Prod.snd) := by
  unfold PatchDict.apply PatchState.apply
  rw [h.isReady_eq]
  cases s.isReady with
  | false => exact ⟨h, fun _ => rfl⟩
  | true =>
    cases hv : v.fxType with
    | none => exact ⟨h, fun _ => rfl⟩
    | some t =>
      by_cases ht : t = lastSyncKey
      · subst ht
        simp only [if_true, h.stamps, h.reserved, subscript_none, error_bind]
        refine ⟨?_, fun hne => absurd rfl hne⟩
        split <;> exact h
      · cases hl : s.blocks.lookup t with
        | none =>
          simp only [if_true, h.blocks t ht, hl, Option.map_none]
          exact ⟨h, fun _ => rfl⟩
        | some entries =>
          simp only [if_true, h.blocks t ht, hl, Option.map_some, subscript_some, ok_bind]
          cases PatchState.findBlock v entries with
          | none => exact ⟨h, fun _ => rfl⟩
          | some fx =>
            cases PatchState.modifyBlock _ _ entries with
            | none => exact ⟨h, fun _ => rfl⟩
            | some entries' =>
              obtain ⟨hstate, hresult⟩ := h.fold ht now v fx entries'
              exact ⟨hstate, fun _ => hresult⟩

/-! ## Runs -/

theorem refines_step (h : Refines d s) {op : Op} (hop : op.scans ≠ some lastSyncKey) :
    Refines (d.step op) (s.step op) := by
  cases op with
  | recordScan t states ts => exact h.recordScan (fun ht => hop (congrArg some ht)) states ts
  | setFx t fxId assign => exact h.setFx t fxId assign
  | setFxName fxId name =>
    rw [PatchDict.step, PatchDict.setFxName, h.fxNames]
    exact h.setFxNames _
  | setSliders t fxId slider1 slider2 => exact h.setSliders t fxId slider1 slider2
  | apply now v => exact (h.apply now v).1

theorem refines_run {ops : List Op} (h : Refines d s) (hops : ∀ op ∈ ops, op.scans ≠ some lastSyncKey) :
    Refines (d.run ops) (s.run ops) := by
  induction ops generalizing d s with
  | nil => exact h
  | cons op ops ih =>
    obtain ⟨hop, hops⟩ := List.forall_mem_cons.1 hops
    exact ih (refines_step h hop) hops

end PatchDict

/-! ## Ready is scanned -/

namespace PatchState

variable {s : PatchState} {t : String}

theorem mem_keys_insert {t u : String} {entries : List FxBlock} :
    u ∈ (s.blocks.insert t entries).keys ↔ u = t ∨ u ∈ s.blocks.keys := by
  rw [← AList.mem_keys, ← AList.mem_keys, AList.mem_insert]

theorem mem_keys_of_lookup {entries : List FxBlock} (h : s.blocks.lookup t = some entries) :
    t ∈ s.blocks.keys := by
  rw [← AList.mem_keys, ← AList.lookup_isSome, h, Option.isSome_some]

/-- Writing to a type that has blocks adds no type. -/
theorem mem_keys_insert_of_lookup {entries entries' : List FxBlock} (h : s.blocks.lookup t = some entries)
    {u : String} : u ∈ (s.blocks.insert t entries').keys ↔ u ∈ s.blocks.keys := by
  rw [mem_keys_insert, or_iff_right_of_imp]
  rintro rfl
  exact mem_keys_of_lookup h

/-- A call adds the type it scans, if it scans one, and no other. -/
theorem mem_keys_step (s : PatchState) (op : Op) {u : String} :
    u ∈ (s.step op).blocks.keys ↔ op.scans = some u ∨ u ∈ s.blocks.keys := by
  cases op with
  | recordScan t states ts =>
    rw [step, recordScan_blocks, mem_keys_insert]
    simp [Op.scans, eq_comm]
  | setFx t fxId assign =>
    simp only [Op.scans, reduceCtorEq, false_or, step, setFx]
    cases hl : s.blocks.lookup t with
    | none => rfl
    | some entries => exact mem_keys_insert_of_lookup hl
  | setFxName fxId name => simp [Op.scans, step]
  | setSliders t fxId slider1 slider2 =>
    simp only [Op.scans, reduceCtorEq, false_or, step, setSliders]
    cases hl : s.blocks.lookup t with
    | none => rfl
    | some entries =>
      simp only [subscript_some, ok_bind]
      split
      · exact mem_keys_insert_of_lookup hl
      · rfl
  | apply now v =>
    simp only [Op.scans, reduceCtorEq, false_or, step]
    cases ha : s.apply now v with
    | error e => rfl
    | ok r =>
      obtain ⟨s', r⟩ := r
      rcases apply_cases ha with ⟨rfl, -, -⟩ | ⟨t, pre, fx, post, -, -, hl, -, -, rfl, -⟩
      · rfl
      · exact mem_keys_insert_of_lookup hl

theorem fxTypes_step (s : PatchState) (op : Op) : (s.step op).fxTypes = s.fxTypes := by
  cases op with
  | recordScan t states ts => rfl
  | setFx t fxId assign =>
    simp only [step, setFx]
    cases s.blocks.lookup t <;> rfl
  | setFxName fxId name => rfl
  | setSliders t fxId slider1 slider2 =>
    simp only [step, setSliders]
    cases s.blocks.lookup t with
    | none => rfl
    | some entries =>
      simp only [subscript_some, ok_bind]
      split <;> rfl
  | apply now v =>
    simp only [step]
    cases ha : s.apply now v with
    | error e => rfl
    | ok r =>
      obtain ⟨s', r⟩ := r
      rcases apply_cases ha with ⟨rfl, -, -⟩ | ⟨t, pre, fx, post, -, -, -, -, -, rfl, -⟩ <;> rfl

/-- After a run, the types with blocks are the scanned ones, and those from before. -/
theorem mem_keys_run (s : PatchState) (ops : List Op) {u : String} :
    u ∈ (s.run ops).blocks.keys ↔ u ∈ scanned ops ∨ u ∈ s.blocks.keys := by
  induction ops generalizing s with
  | nil => simp [scanned]
  | cons op ops ih =>
    have hcons : u ∈ scanned (op :: ops) ↔ op.scans = some u ∨ u ∈ scanned ops := by
      simp [scanned]
    rw [run, Runs.run_cons, ← run, ih, mem_keys_step, hcons]
    tauto

theorem fxTypes_run (s : PatchState) (ops : List Op) : (s.run ops).fxTypes = s.fxTypes := by
  induction ops generalizing s with
  | nil => rfl
  | cons op ops ih => exact (ih (s.step op)).trans (fxTypes_step s op)

/-- Where blocks are of known types only, counting the types is asking for each of them. -/
theorem isReady_iff (hd : s.fxTypes.Nodup) (hk : ∀ t ∈ s.blocks.keys, t ∈ s.fxTypes) :
    s.isReady = true ↔ ∀ t ∈ s.fxTypes, t ∈ s.blocks.keys := by
  rw [isReady, beq_iff_eq]
  have hsub : s.blocks.keys.Subperm s.fxTypes := List.subperm_of_subset s.blocks.keys_nodup hk
  constructor
  · intro hlen t ht
    exact (hsub.perm_of_length_le hlen.ge).symm.subset ht
  · intro h
    exact hsub.length_le.antisymm (List.subperm_of_subset hd h).length_le

end PatchState

namespace PatchDict

/-- Scans are recorded for the fx types only. -/
def ScansKnown (fxTypes : List String) (ops : List Op) : Prop := ∀ t ∈ scanned ops, t ∈ fxTypes

variable {fxTypes : List String} {ops : List Op}

theorem refines_fresh_run (hreserved : lastSyncKey ∉ fxTypes) (hops : ScansKnown fxTypes ops) :
    Refines ((fresh fxTypes).run ops) ((PatchState.fresh fxTypes).run ops) := by
  refine refines_run (refines_fresh fxTypes) fun op hop hscans => hreserved (hops _ ?_)
  exact List.mem_filterMap.2 ⟨op, hop, hscans⟩

theorem isReady_run_iff (hd : fxTypes.Nodup) (hreserved : lastSyncKey ∉ fxTypes)
    (hops : ScansKnown fxTypes ops) :
    ((fresh fxTypes).run ops).isReady = true ↔ ∀ t ∈ fxTypes, t ∈ scanned ops := by
  have htypes : ((PatchState.fresh fxTypes).run ops).fxTypes = fxTypes := PatchState.fxTypes_run _ ops
  have hkeys : ∀ t, t ∈ ((PatchState.fresh fxTypes).run ops).blocks.keys ↔ t ∈ scanned ops := by
    intro t
    rw [PatchState.mem_keys_run, or_iff_left]
    exact List.not_mem_nil
  rw [(refines_fresh_run hreserved hops).isReady_eq, PatchState.isReady_iff, htypes]
  · simp only [hkeys]
  · rwa [htypes]
  · rw [htypes]
    exact fun t ht => hops t ((hkeys t).1 ht)

/-- **Ready means scanned**: over distinct fx types, none of them named like the stamps, a state
is ready exactly when a scan was recorded for every type, however many other calls returned or
raised in between; it stays ready; and until then `apply` reports no match and changes nothing. -/
theorem ready_iff_scanned (hd : fxTypes.Nodup) (hreserved : lastSyncKey ∉ fxTypes)
    (hops : ScansKnown fxTypes ops) :
    let s := (fresh fxTypes).run ops
    (s.isReady = true ↔ ∀ t ∈ fxTypes, t ∈ scanned ops) ∧
    (s.isReady = true → ∀ more, ScansKnown fxTypes more → (s.run more).isReady = true) ∧
    (s.isReady = false → ∀ now d, s.apply now d = (s, .ok ⟨false, false⟩)) := by
  intro s
  refine ⟨isReady_run_iff hd hreserved hops, fun hready more hmore => ?_, fun hready now d => ?_⟩
  · have hall : ScansKnown fxTypes (ops ++ more) := by
      intro t ht
      rw [scanned, List.filterMap_append, List.mem_append] at ht
      exact ht.elim (hops t) (hmore t)
    have hscanned := (isReady_run_iff hd hreserved hops).1 hready
    have hrun : s.run more = (fresh fxTypes).run (ops ++ more) := (Runs.run_append _ _ _).symm
    rw [hrun, isReady_run_iff hd hreserved hall]
    intro t ht
    rw [scanned, List.filterMap_append, List.mem_append]
    exact Or.inl (hscanned t ht)
  · rw [PatchDict.apply, if_neg (by rw [hready]; exact Bool.false_ne_true)]

/-- Two types, scanned around a call that raises. -/
theorem ready_iff_scanned_two :
    let s := (fresh ["comp", "fx"]).run
      [.recordScan "fx" [] 1, .setFx "comp" (.str "") id, .recordScan "comp" [⟨.str "", none, none, none, none⟩] 2]
    (s.isReady = true ↔ ∀ t ∈ ["comp", "fx"], t ∈ scanned
      [.recordScan "fx" [] 1, .setFx "comp" (.str "") id, .recordScan "comp" [⟨.str "", none, none, none, none⟩] 2]) ∧
    (s.isReady = true → ∀ more, ScansKnown ["comp", "fx"] more → (s.run more).isReady = true) ∧
    (s.isReady = false → ∀ now d, s.apply now d = (s, .ok ⟨false, false⟩)) :=
  ready_iff_scanned (by decide) (by decide) (by simp [ScansKnown, scanned, Op.scans])

/-- With a type named like the stamps, recording its scan leaves the state unready for good. -/
theorem reserved_type_never_ready :
    ¬ (((fresh [lastSyncKey]).run [.recordScan lastSyncKey [] 1]).isReady = true ↔
      ∀ t ∈ [lastSyncKey], t ∈ scanned [.recordScan lastSyncKey [] 1]) := by
  decide

end PatchDict

end Pygt1000
