import Pygt1000.BlockSnapshot
import Pygt1000.DeviceLink

/-!
# The facade (`gt1000.py`)

| here | there |
| --- | --- |
| `refreshState`          | `refresh_state` (`gt1000.py:157-164`) |
| `refreshSliders`        | `_refresh_sliders` (`:174-178`) |
| `processDataFromUnit`   | `_process_data_from_unit` (`:276-298`) |
| `receive`               | `DeviceLink._on_receive` with that callback (`device_link.py:120-142`) |

`Gt1000` is what these functions read and write of the facade: the known state and the queue of
the refresh worker. A callback that raises has its exception logged by `_on_receive`; what it
had done before stays done.
-/

namespace Pygt1000

/-- A refresh task. -/
inductive Task where
  | full
  | sliders (fxType : String) (fxId : StrOrInt)
deriving DecidableEq, Repr

structure Gt1000 where
  state : PatchState
  queue : List Task

namespace Gt1000

def fresh : Gt1000 := ⟨.fresh fxTypes, []⟩

/-- `self._refresh.submit(task)`. -/
def submit (g : Gt1000) (task : Task) : Gt1000 := { g with queue := g.queue ++ [task] }

/-! ## The refresh handlers -/

/-- The loop of `refresh_state` over the fx types that are left. -/
def refreshFrom (m : AddressMap) (fetch : Fetch) (stopped : Bool) (clock : String → Nat) :
    PatchState → List String → Except PyErr PatchState
  | s, [] => .ok s
  | s, fxType :: rest =>
    if stopped then .ok s
    else do
      let (s, states) ← BlockSnapshot.snapshotAll m fetch s fxType
      refreshFrom m fetch stopped clock (s.recordScan fxType states (clock fxType)) rest

/-- `refresh_state` (`:157-164`); `clock` gives the time each fx type's scan starts. -/
def refreshState (m : AddressMap) (fetch : Fetch) (stopped : Bool) (clock : String → Nat)
    (s : PatchState) : Except PyErr PatchState :=
  refreshFrom m fetch stopped clock s s.fxTypes

/-- `_refresh_sliders` (`:174-178`). -/
def refreshSliders (m : AddressMap) (fetch : Fetch) (g : Gt1000) (fxType : String)
    (fxId : StrOrInt) : Except PyErr Gt1000 := do
  let (slider1, slider2) ← BlockSnapshot.slidersFor m fetch g.state fxType fxId none
  let state ← g.state.setSliders fxType fxId slider1 slider2
  return { g with state }

/-! ## Data from the unit -/

/-- `int(fx_id)`, of the decimal digits an id consists of. -/
def intOfId (fxId : String) : Except PyErr Int :=
  if fxId ≠ "" ∧ fxId.toList.all Char.isDigit then
    .ok (fxId.toList.foldl (fun n c => 10 * n + (c.toNat - '0'.toNat)) 0 : Nat)
  else .error .valueError

/-- The id of the queued slider re-read (`:295`). -/
def taskId : Option String → Except PyErr StrOrInt
  | none => .error .typeError
  | some fxId => if fxId = "" then .ok (.str "") else (intOfId fxId).map .int

/-- `_process_data_from_unit` (`:276-298`), and the exception it ends with, if any. -/
def processDataFromUnit (m : AddressMap) (g : Gt1000) (now : Nat) (offset data : List Nat) :
    Gt1000 × Option PyErr :=
  if offset = programChangeOffset then (g.submit .full, none)
  else match m.decode offset (.list data) with
    | .error e => (g, some e)
    | .ok none => (g, none)
    | .ok (some d) =>
      match g.state.apply now d with
      | .error e => (g, some e)
      | .ok (state, result) =>
        let g := { g with state }
        if result.typeChanged then
          match d.fxType, taskId d.fxId with
          | some fxType, .ok fxId => (g.submit (.sliders fxType fxId), none)
          | _, .error e => (g, some e)
          | none, _ => (g, none)
        else (g, none)

/-- An inbound message, and the callback on the frames it hands over. -/
def receive (m : AddressMap) (now : Nat) (link : DeviceLink.Link) (g : Gt1000) (message : List Nat) :
    DeviceLink.Link × Gt1000 :=
  let link' := DeviceLink.onReceive link message
  let frames := link'.unsolicited.drop link.unsolicited.length
  (link', frames.foldl (fun g frame => (g.processDataFromUnit m now frame.1 frame.2).1) g)

/-! ## What an inbound frame does -/

section

variable {m : AddressMap} {now : Nat} {link : DeviceLink.Link} {g : Gt1000}
  {message offset data : List Nat}

/-- A data frame nobody waits for goes to `processDataFromUnit`. -/
theorem receive_unsolicited (h : parseDataReply link.deviceId message = some (offset, data))
    (hp : link.pending offset = none) :
    (receive m now link g message).2 = (g.processDataFromUnit m now offset data).1 := by
  simp [receive, DeviceLink.onReceive_data h, DeviceLink.deliver, hp]

/-- The state after a frame that decodes is what `apply` makes of it. -/
theorem processDataFromUnit_state {d : DecodedValue} {s' : PatchState} {r : ApplyResult}
    (hne : offset ≠ programChangeOffset) (hd : m.decode offset (.list data) = .ok (some d))
    (ha : g.state.apply now d = .ok (s', r)) :
    (g.processDataFromUnit m now offset data).1.state = s' := by
  simp only [processDataFromUnit, if_neg hne, hd, ha]
  split
  · split <;> rfl
  · rfl

/-- The block a frame is about takes its value, once the state is ready. -/
theorem block_processDataFromUnit {d : DecodedValue} (hready : g.state.isReady = true)
    (hne : offset ≠ programChangeOffset) (hd : m.decode offset (.list data) = .ok (some d))
    {t : String} (ht : d.fxType = some t) (now : Nat) :
    (g.processDataFromUnit m now offset data).1.state.block t (PatchState.idStr d.fxId) =
      (g.state.block t (PatchState.idStr d.fxId)).map (PatchState.applyBlock d) := by
  cases ha : g.state.apply now d with
  | error e =>
    have hsame : (g.processDataFromUnit m now offset data).1.state = g.state := by
      simp only [processDataFromUnit, if_neg hne, hd, ha]
    rw [hsame, PatchState.block, PatchState.apply_error ha ht]
    rfl
  | ok r =>
    obtain ⟨s', r⟩ := r
    rw [processDataFromUnit_state hne hd ha, PatchState.block_apply ha,
      if_pos ⟨hready, ht, rfl⟩]

/-- Everything a frame can do to the state. -/
theorem processDataFromUnit_cases (m : AddressMap) (g : Gt1000) (now : Nat) (offset data : List Nat) :
    (g.processDataFromUnit m now offset data).1.state = g.state ∨
      ∃ d s' r, offset ≠ programChangeOffset ∧ m.decode offset (.list data) = .ok (some d) ∧
        g.state.apply now d = .ok (s', r) ∧ (g.processDataFromUnit m now offset data).1.state = s' := by
  by_cases hne : offset = programChangeOffset
  · exact Or.inl (by rw [processDataFromUnit, if_pos hne]; rfl)
  cases hd : m.decode offset (.list data) with
  | error e => exact Or.inl (by simp only [processDataFromUnit, if_neg hne, hd])
  | ok found =>
    cases found with
    | none => exact Or.inl (by simp only [processDataFromUnit, if_neg hne, hd])
    | some d =>
      cases ha : g.state.apply now d with
      | error e => exact Or.inl (by simp only [processDataFromUnit, if_neg hne, hd, ha])
      | ok r =>
        obtain ⟨s', r⟩ := r
        exact Or.inr ⟨d, s', r, hne, rfl, ha, processDataFromUnit_state hne hd ha⟩

/-- A frame leaves the types and the ids of the recorded blocks as they are. -/
theorem processDataFromUnit_ids (m : AddressMap) (g : Gt1000) (now : Nat) (offset data : List Nat) :
    (g.processDataFromUnit m now offset data).1.state.fxTypes = g.state.fxTypes ∧
      ∀ t, ((g.processDataFromUnit m now offset data).1.state.blocks.lookup t).map
          (List.map FxBlock.fxId) = (g.state.blocks.lookup t).map (List.map FxBlock.fxId) := by
  rcases processDataFromUnit_cases m g now offset data with hsame | ⟨d, s', r, -, -, ha, rfl⟩
  · rw [hsame]
    exact ⟨rfl, fun _ => rfl⟩
  rcases PatchState.apply_cases ha with ⟨hs, -, -⟩ | ⟨fxType, pre, fx, post, -, -, hl, -, -, hs, -⟩
  · rw [hs]
    exact ⟨rfl, fun _ => rfl⟩
  · rw [hs]
    refine ⟨rfl, fun t => ?_⟩
    by_cases ht : t = fxType
    · subst ht
      simp [hl, PatchState.applyBlock_fxId]
    · rw [PatchState.fold_blocks, AList.lookup_insert_ne ht]

theorem mem_keys_processDataFromUnit {m : AddressMap} {g : Gt1000} {now : Nat} {offset data : List Nat}
    {t : String} : t ∈ (g.processDataFromUnit m now offset data).1.state.blocks.keys ↔
      t ∈ g.state.blocks.keys := by
  have hids := (g.processDataFromUnit_ids m now offset data).2 t
  rw [← AList.mem_keys, ← AList.mem_keys, ← AList.lookup_isSome, ← AList.lookup_isSome,
    ← Option.isSome_map (f := List.map FxBlock.fxId), hids, Option.isSome_map]

/-- A message is handed over as one frame, or not at all. -/
theorem receive_cases (m : AddressMap) (now : Nat) (link : DeviceLink.Link) (g : Gt1000)
    (message : List Nat) : (receive m now link g message).2 = g ∨
      ∃ offset data, parseDataReply link.deviceId message = some (offset, data) ∧
        (receive m now link g message).2 = (g.processDataFromUnit m now offset data).1 := by
  rcases DeviceLink.onReceive_cases link message with ⟨offset, data, hparse, -⟩ | ⟨-, -, -, hsame, -⟩
  · cases hp : link.pending offset with
    | none => exact Or.inr ⟨offset, data, hparse, receive_unsolicited hparse hp⟩
    | some slot =>
      left
      simp [receive, DeviceLink.onReceive_data hparse, DeviceLink.deliver, hp]
  · exact Or.inl (by simp [receive, hsame])

end

/-! ## Switches -/

/-- The block whose switch a frame is about, and the label it announces. -/
def announces (m : AddressMap) (offset data : List Nat) : Option (String × String × Option StrOrInt) :=
  if offset = programChangeOffset then none
  else match m.decode offset (.list data) with
    | .ok (some d) =>
      if d.valueName = "SW" then
        d.fxType.map fun fxType => (fxType, PatchState.idStr d.fxId, d.strValue.map .str)
      else none
    | _ => none

/-- Once the state is ready, a frame sets the switch it is about to the label it announces; it
changes no other switch, and none before that. -/
theorem switch_processDataFromUnit (m : AddressMap) (g : Gt1000) (now : Nat) (offset data : List Nat)
    (t id : String) : (g.processDataFromUnit m now offset data).1.state.switch t id =
      match announces m offset data with
      | some (t', id', label) =>
        if g.state.isReady = true ∧ t' = t ∧ id' = id then (g.state.switch t id).map fun _ => label
        else g.state.switch t id
      | none => g.state.switch t id := by
  by_cases hne : offset = programChangeOffset
  · simp [processDataFromUnit, announces, hne, submit]
  cases hd : m.decode offset (.list data) with
  | error e => simp [processDataFromUnit, announces, hne, hd]
  | ok found =>
    cases found with
    | none => simp [processDataFromUnit, announces, hne, hd]
    | some d =>
      have hann : announces m offset data = if d.valueName = "SW" then
          d.fxType.map fun fxType => (fxType, PatchState.idStr d.fxId, d.strValue.map .str)
        else none := by simp [announces, hne, hd]
      have hstate : (g.processDataFromUnit m now offset data).1.state.switch t id =
          if g.state.isReady = true ∧ d.fxType = some t ∧ PatchState.idStr d.fxId = id ∧
              d.valueName = "SW" then (g.state.switch t id).map fun _ => d.strValue.map .str
          else g.state.switch t id := by
        cases ha : g.state.apply now d with
        | ok r => rw [processDataFromUnit_state hne hd ha, PatchState.switch_apply ha t id]
        | error e =>
          have hsame : (g.processDataFromUnit m now offset data).1.state = g.state := by
            simp [processDataFromUnit, hne, hd, ha]
          rw [hsame]
          split
          · next hc => simp [PatchState.switch, PatchState.block, PatchState.apply_error ha hc.2.1]
          · rfl
      rw [hstate, hann]
      cases d.fxType <;> by_cases hsw : d.valueName = "SW" <;> simp [hsw]

end Gt1000

end Pygt1000
