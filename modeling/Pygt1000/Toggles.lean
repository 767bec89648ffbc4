import Pygt1000.ScanRace

/-!
# Switching a block from the host (`gt1000.py:218-223`)

`toggle_fx_state` sends the new switch and records it without waiting for the unit. The message is
under way while the unit changes the switch itself and announces it, while scans read the old one,
and while other toggles follow; what is recorded is then wrong for a time. A unit that takes a
message announces the value as it does any change of its own, and with its echo every copy comes
right again: with nothing under way in either direction, what is recorded is what the unit holds
(`toggled_switches_run`), in every interleaving whose steps leave no older copy behind.

| here | there |
| --- | --- |
| `toggleSend`, `toggleRecord` | `toggle_fx_state` (`gt1000.py:219-220`, `:222-223`) |
| `Toggled.calls`  | the calls between the two: any number of threads may be there |
| `Act.take`       | the unit takes the oldest message sent, and announces what it keeps |

The lock of the state is taken in `set_fx` and not around the message, so the unit may take it and
more may happen before the call records; that is the one step which can put an older label in the
place of a newer one (`NotOlder`).
-/

namespace Pygt1000

open Specs

/-- The message of a call (`:219-220`). -/
def toggleSend (m : AddressMap) (link : DeviceLink.Link) (fxType : String) (fxId state : StrOrInt) :
    Except PyErr DeviceLink.Link := do
  DeviceLink.set link (← m.addressForBlock fxType fxId "SW" (some state) none)

/-- What it records (`:222-223`). -/
def toggleRecord (m : AddressMap) (s : PatchState) (fxType : String) (fxId state : StrOrInt) :
    Except PyErr PatchState := do
  let (fxType, fxId) ← m.normalizeBlock fxType fxId
  s.setFx fxType fxId fun fx => { fx with state := some state }

/-! ## What is sent and what is recorded -/

/-- The caller's id stands for the block: it is normalized to one written the same. -/
def Names (m : AddressMap) (b : TopBlock) (fxId : StrOrInt) : Prop :=
  ∃ y, m.normalizeBlock b.fxType fxId = .ok (b.fxType, y) ∧ y.toStr = b.fxId.toStr

theorem switch_labelled : ∀ x ∈ switchParam.values, x.2 ≤ 255 ∧
    labelForRaw switchParam.values x.2 = some x.1 := by decide

theorem topBlocks_addresses : (topBlocks.map fun b => (b.second, b.third)).Nodup := by decide

section

variable {m : AddressMap} {b b' : TopBlock} {fxId : StrOrInt} {label : String} {v : Nat}

theorem switchAddress_inj (hb : b ∈ topBlocks) (hb' : b' ∈ topBlocks)
    (h : b'.switchAddress = b.switchAddress) : b' = b := by
  simp only [TopBlock.switchAddress, List.cons.injEq, and_true, true_and] at h
  exact List.inj_on_of_nodup_map topBlocks_addresses hb' hb (Prod.ext h.1 h.2)

theorem blockSectionOption_names (hid : Names m b fxId) :
    m.blockSectionOption b.fxType fxId none = .ok (b.sectionName, b.option) := by
  obtain ⟨y, hy, hstr⟩ := hid
  simp only [AddressMap.blockSectionOption, hy, ok_bind, TopBlock.sectionName, TopBlock.option,
    AddressMap.startSection, hstr, pure_eq_ok]

/-- The bytes that switch a block. -/
theorem HasBlock.toggle_bytes (h : HasBlock m b) (hid : Names m b fxId)
    (hv : switchParam.values.lookup label = some v) :
    m.addressForBlock b.fxType fxId "SW" (some (.str label)) none = .ok (some (b.switchAddress ++ [v])) := by
  have he := switch_labels _ (TopBlock.mem_valueTables h.mem)
  obtain ⟨s, hbase, hblock, -, hparam⟩ := TopBlock.exists_slot h.mem he
  have haddress : s.address = b.switchAddress := by
    rw [(TopBlock.locate_slot h.mem s hbase hblock).1, hparam]
    rfl
  obtain ⟨hbyte, -⟩ := switch_labelled _ (mem_of_lookup hv)
  have hencode : AddressMap.encodeValue switchParam (.str label) = .ok [v] := by
    have hrange : 0 ≤ (v : Int) ∧ (v : Int) ≤ 255 := ⟨by omega, by exact_mod_cast hbyte⟩
    simp only [AddressMap.encodeValue, hv, if_pos hrange]
    rfl
  rw [AddressMap.addressForBlock_routed (blockSectionOption_names hid), h.1.addressFor_eq,
    s.addressFor_value, hparam, hencode, map_ok, haddress]

theorem HasBlock.announces_fxType (h : HasBlock m b) {data : List Nat} (hdata : Labelled data)
    {x : String × String × Option StrOrInt} (hx : Gt1000.announces m b.switchAddress data = some x) :
    x.1 = b.fxType := by
  obtain ⟨v, label, rfl, -⟩ := hdata
  have he := switch_labels _ (TopBlock.mem_valueTables h.mem)
  have hraw : rawInt switchParam (.list [v]) = .ok v := rfl
  obtain ⟨d, hd, hfx, -, hname, -⟩ := h.decode_eq he hraw
  have hne : b.switchAddress ≠ programChangeOffset := by
    simp [TopBlock.switchAddress, programChangeOffset]
  have hd : m.decode b.switchAddress (.list [v]) = .ok (some d) := hd
  simp only [Gt1000.announces, if_neg hne, hd, if_pos hname, hfx, Option.map_some, Option.some.injEq] at hx
  rw [← hx]

/-- The value of a label is announced as that label. -/
theorem labelled_of_lookup (hv : switchParam.values.lookup label = some v) :
    Labelled [v] ∧ switchLabel [v] = some (.str label) := by
  obtain ⟨-, hlabel⟩ := switch_labelled _ (mem_of_lookup hv)
  exact ⟨⟨v, label, rfl, hlabel⟩, by simp [switchLabel, hlabel]⟩

/-- A message at the switch of a block is about no other. -/
theorem HasBlock.ownSwitch (h : HasBlock m b) {data : List Nat} (hdata : Labelled data) :
    World.OwnSwitch m b.switchAddress data := by
  rintro b' hb' (habout | heq)
  · have hb : b' = b := by
      obtain ⟨label, hlabel⟩ := Option.isSome_iff_exists.1 habout
      obtain ⟨⟨t, id, label'⟩, hann, hsame⟩ := Option.bind_eq_some_iff.1 hlabel
      split at hsame
      · next hid =>
        obtain rfl : t = b.fxType := h.announces_fxType hdata hann
        have hsw : Switched m b := ⟨h, fun hp => hb'.ne_preamp (hid.1.symm.trans hp)⟩
        rw [hsw.announces_eq hdata, Option.some.injEq, Prod.mk.injEq, Prod.mk.injEq] at hann
        exact World.block_eq_of_id h.mem hb'.block.mem hid.1.symm (hid.2.symm.trans hann.2.1.symm)
      · cases hsame
    exact ⟨by rw [hb], hdata⟩
  · exact ⟨heq, hdata⟩

/-- A recorded list after the change of one block. -/
def switched (fxId state : StrOrInt) (entries : List FxBlock) : List FxBlock :=
  match entries with
  | [entry] => [{ entry with state := some state }]
  | _ => entries.map fun entry => if entry.fxId.toStr = fxId.toStr then { entry with state := some state } else entry

theorem toggleRecord_eq (hid : Names m b fxId) (s : PatchState) (state : StrOrInt) :
    toggleRecord m s b.fxType fxId state =
      (subscript (s.blocks.lookup b.fxType)).map fun entries =>
        { s with blocks := s.blocks.insert b.fxType (switched b.fxId state entries) } := by
  obtain ⟨y, hy, hstr⟩ := hid
  simp only [toggleRecord, hy, ok_bind, PatchState.setFx]
  cases s.blocks.lookup b.fxType with
  | none => rfl
  | some entries =>
    simp only [subscript_some, ok_bind, map_ok, pure_eq_ok, hstr]
    rfl

theorem switched_ids (fxId state : StrOrInt) (entries : List FxBlock) :
    (switched fxId state entries).map FxBlock.fxId = entries.map FxBlock.fxId := by
  unfold switched
  split
  · rfl
  · rw [List.map_map]
    refine List.map_congr_left fun entry _ => ?_
    simp only [Function.comp]
    split <;> rfl

/-- The block itself has the new switch. -/
theorem switched_self (state : StrOrInt) {entries : List FxBlock} {fx : FxBlock}
    (hfx : fx ∈ switched fxId state entries) (hid : fx.fxId.toStr = fxId.toStr) : fx.state = some state := by
  unfold switched at hfx
  split at hfx
  · rw [List.mem_singleton.1 hfx]
  · obtain ⟨entry, -, rfl⟩ := List.mem_map.1 hfx
    split at hid
    · next hentry => rw [if_pos hentry]
    · next hentry => exact absurd hid hentry

/-- Another block of the list keeps its switch. -/
theorem switched_other {entries : List FxBlock} (hc : Complete m b.fxType entries) (h : HasBlock m b)
    (h' : HasBlock m b') (ht : b'.fxType = b.fxType) (hne : b' ≠ b) (state : StrOrInt) :
    ((switched b.fxId state entries).find? fun fx => fx.fxId.toStr == b'.fxId.toStr).map (·.state) =
      (entries.find? fun fx => fx.fxId.toStr == b'.fxId.toStr).map (·.state) := by
  have hother : b'.fxId.toStr ≠ b.fxId.toStr := fun heq => hne (World.block_eq_of_id h.mem h'.mem ht heq)
  unfold switched
  split
  · next entry =>
    -- A list of one is that of a type with one block.
    obtain ⟨n, hn, -, hids⟩ := hc
    obtain ⟨-, n₁, hn₁, -, hb⟩ := h
    obtain ⟨-, n₂, hn₂, -, hb'⟩ := h'
    rw [ht] at hn₂ hb'
    obtain rfl : n₁ = n := Except.ok.inj (hn₁.symm.trans hn)
    obtain rfl : n₂ = n₁ := Except.ok.inj (hn₂.symm.trans hn₁)
    obtain ⟨c, hone⟩ : ∃ c, blocksOf b.fxType n₂ = [c] := by
      rw [← List.length_eq_one_iff]
      simpa using (congrArg List.length hids).symm
    rw [hone, List.mem_singleton] at hb hb'
    exact absurd (hb'.trans hb.symm) hne
  · rw [List.find?_map, Option.map_map]
    have hsame : ((fun fx : FxBlock => fx.fxId.toStr == b'.fxId.toStr) ∘ fun entry : FxBlock =>
        if entry.fxId.toStr = b.fxId.toStr then { entry with state := some state } else entry) =
          fun fx => fx.fxId.toStr == b'.fxId.toStr := by
      funext entry
      simp only [Function.comp]
      split <;> rfl
    rw [hsame]
    cases hfind : entries.find? fun fx => fx.fxId.toStr == b'.fxId.toStr with
    | none => rfl
    | some entry =>
      have hentry : entry.fxId.toStr = b'.fxId.toStr := by simpa using List.find?_some hfind
      simp [hentry, hother]

end

/-! ## The system -/

structure Toggled where
  world : World
  link : DeviceLink.Link
  /-- How many of the messages sent the unit has taken. -/
  taken : Nat
  /-- The calls that have sent their message and not recorded the switch. -/
  calls : List (String × StrOrInt × StrOrInt)

namespace Toggled

inductive Act where
  | world (act : World.Act)
  | send (fxType : String) (fxId state : StrOrInt)
  | record (i : Nat)
  | take

variable (m : AddressMap) (unit : Nat)

def send (t : Toggled) (fxType : String) (fxId state : StrOrInt) : Toggled :=
  match toggleSend m t.link fxType fxId state with
  | .ok link => { t with link, calls := t.calls ++ [(fxType, fxId, state)] }
  | .error _ => t

def record (t : Toggled) (i : Nat) : Toggled :=
  match t.calls[i]? with
  | some (fxType, fxId, state) =>
    match toggleRecord m t.world.g.state fxType fxId state with
    | .ok s => { t with world := t.world.setState s t.world.scan, calls := t.calls.eraseIdx i }
    | .error _ => { t with calls := t.calls.eraseIdx i }
  | none => t

def take (t : Toggled) : Toggled :=
  match t.link.sent[t.taken]? with
  | some message =>
    match parseDataReply unit message with
    | some (address, data) =>
      { t with world := World.step m t.world (.change address data), taken := t.taken + 1 }
    | none => { t with taken := t.taken + 1 }
  | none => t

def step (t : Toggled) : Act → Toggled
  | .world act => { t with world := World.step m t.world act }
  | .send fxType fxId state => t.send m fxType fxId state
  | .record i => t.record m i
  | .take => t.take m unit

/-- The link has the unit's id; nothing is sent. -/
def start (memory : List Nat → List Nat) : Toggled := ⟨.start memory, DeviceLink.fresh unit, 0, []⟩

/-! ## The steps that lose nothing -/

/-- The call switches that block to that label. -/
structure Switches (b : TopBlock) (label : String) (call : String × StrOrInt × StrOrInt) : Prop where
  block : HasBlock m b
  fxType : call.1 = b.fxType
  names : Names m b call.2.1
  state : call.2.2 = .str label
  known : ∃ v, switchParam.values.lookup label = some v

/-- A message for the switch is on its way to the unit. -/
def UnderWay (b : TopBlock) (t : Toggled) : Prop :=
  ∃ message ∈ t.link.sent.drop t.taken, ∃ data, parseDataReply unit message = some (b.switchAddress, data)

/-- The label is no older than what is recorded: the unit has still to announce something of the
switch, or holds that label. -/
def NotOlder (b : TopBlock) (label : String) (t : Toggled) : Prop :=
  UnderWay unit b t ∨ World.queue m b t.world.inFlight ≠ [] ∨ World.heldSwitch t.world b = some (.str label)

def Undisturbed (t : Toggled) : Act → Prop
  | .world act => World.Undisturbed m t.world act
  | .send fxType fxId state => ∃ b label, Switches m b label (fxType, fxId, state)
  | .record i => ∀ call b label, t.calls[i]? = some call → Switches m b label call → b.fxType ≠ "preamp" →
    NotOlder m unit b label t
  | .take => True

/-! ## The invariant -/

structure Inv (t : Toggled) : Prop where
  device : t.link.deviceId = unit
  taken : t.taken ≤ t.link.sent.length
  sent : ∀ message ∈ t.link.sent.drop t.taken, ∃ b data, HasBlock m b ∧ Labelled data ∧
    message = encodeDt1 unit (b.switchAddress ++ data) none
  calls : ∀ call ∈ t.calls, ∃ b label, Switches m b label call
  shaped : World.Shaped m t.world
  tracks : ∀ b, Switched m b → ¬ UnderWay unit b t → World.Tracks m t.world b

variable {m : AddressMap} {unit : Nat} {t : Toggled} {b b' : TopBlock}

/-- A step of the unit, the receiver or the worker keeps what a copy follows. -/
theorem tracks_step (hm : Loaded m) (hb : Switched m b) (hw : World.Shaped m t.world)
    (h : World.Tracks m t.world b) {act : World.Act} (hok : World.Undisturbed m t.world act) :
    World.Tracks m (World.step m t.world act) b := by
  cases act with
  | change address data => exact World.tracks_change hb h hok
  | deliver now => exact World.tracks_deliver hb h now hok
  | beginScan fxType => exact World.tracks_beginScan h fxType
  | readBlock => exact World.tracks_readBlock hm hb hw h
  | record now => exact World.tracks_record h now

/-- A change of the switch itself: whatever was known before, every copy follows it. -/
theorem tracks_changed {w : World} {data : List Nat} (hb : Switched m b) (hdata : Labelled data) :
    World.Tracks m (World.step m w (.change b.switchAddress data)) b := by
  have hmemory : Function.update w.memory b.switchAddress data b.switchAddress = data :=
    Function.update_self ..
  have hfollows (copy : Option StrOrInt) :
      Feed.Follows (World.queue m b (w.inFlight ++ [(b.switchAddress, data)])) (switchLabel data) copy := by
    have hqueue : World.queue m b (w.inFlight ++ [(b.switchAddress, data)]) =
        World.queue m b w.inFlight ++ [switchLabel data] := by
      simp [World.queue, World.about_switch hb hdata]
    exact hqueue ▸ Feed.follows_change _ _ _
  constructor <;> simp only [World.step, World.heldSwitch, hmemory]
  · exact hdata
  · exact hfollows _
  · exact fun copy _ => hfollows copy
  · exact fun copy _ => hfollows copy

theorem Inv.world (hm : Loaded m) (h : Inv m unit t) {act : World.Act}
    (hok : World.Undisturbed m t.world act) : Inv m unit { t with world := World.step m t.world act } :=
  ⟨h.device, h.taken, h.sent, h.calls, World.shaped_step hm h.shaped act,
    fun b hb hnone => tracks_step hm hb h.shaped (h.tracks b hb hnone) hok⟩

theorem send_eq {label : String} {v : Nat} {call : String × StrOrInt × StrOrInt}
    (hcall : Switches m b label call) (hv : switchParam.values.lookup label = some v) :
    t.send m call.1 call.2.1 call.2.2 =
      { t with
        link := DeviceLink.send t.link (encodeDt1 t.link.deviceId (b.switchAddress ++ [v]) none)
        calls := t.calls ++ [call] } := by
  obtain ⟨hb, hfx, hnames, hstate, -⟩ := hcall
  have hsent : toggleSend m t.link call.1 call.2.1 call.2.2 =
      .ok (DeviceLink.send t.link (encodeDt1 t.link.deviceId (b.switchAddress ++ [v]) none)) := by
    simp only [toggleSend, hfx, hstate, hb.toggle_bytes hnames hv, ok_bind, DeviceLink.set]
  simp only [Toggled.send, hsent]

theorem Inv.send (h : Inv m unit t) {label : String} {call : String × StrOrInt × StrOrInt}
    (hcall : Switches m b label call) : Inv m unit (t.send m call.1 call.2.1 call.2.2) := by
  obtain ⟨v, hv⟩ := hcall.known
  rw [send_eq hcall hv, h.device]
  have hdrop : (t.link.sent ++ [encodeDt1 unit (b.switchAddress ++ [v]) none]).drop t.taken =
      t.link.sent.drop t.taken ++ [encodeDt1 unit (b.switchAddress ++ [v]) none] :=
    List.drop_append_of_le_length h.taken
  refine ⟨h.device, ?_, fun message hmem => ?_, fun c hmem => ?_, h.shaped, fun b' hb' hnone => ?_⟩
  · simpa [DeviceLink.send] using h.taken.trans (Nat.le_succ _)
  · simp only [DeviceLink.send, hdrop, List.mem_append, List.mem_singleton] at hmem
    rcases hmem with hmem | rfl
    · exact h.sent message hmem
    · exact ⟨b, [v], hcall.block, (labelled_of_lookup hv).1, rfl⟩
  · rcases List.mem_append.1 hmem with hmem | hmem
    · exact h.calls c hmem
    · rw [List.mem_singleton.1 hmem]
      exact ⟨b, label, hcall⟩
  · refine h.tracks b' hb' ?_
    rintro ⟨message, hmem, hparse⟩
    refine hnone ⟨message, ?_, hparse⟩
    simp only [DeviceLink.send, hdrop]
    exact List.mem_append_left _ hmem

theorem Inv.take (hm : Loaded m) (h : Inv m unit t) : Inv m unit (t.take m unit) := by
  unfold Toggled.take
  split
  · next message hmessage =>
    obtain ⟨hlt, hget⟩ := List.getElem?_eq_some_iff.1 hmessage
    have hdrop : t.link.sent.drop t.taken = message :: t.link.sent.drop (t.taken + 1) := by
      rw [List.drop_eq_getElem_cons hlt, hget]
    obtain ⟨b, data, hb, hdata, hmsg⟩ := h.sent message (hdrop ▸ List.mem_cons_self)
    have hparse : parseDataReply unit message = some (b.switchAddress, data) := by
      rw [hmsg]
      exact parseDataReply_encodeDt1 unit data rfl
    simp only [hparse]
    refine ⟨h.device, hlt, fun message' hmem => h.sent message' (hdrop ▸ List.mem_cons_of_mem _ hmem),
      h.calls, World.shaped_step hm h.shaped (.change b.switchAddress data), fun b' hb' hnone => ?_⟩
    by_cases heq : b' = b
    · subst heq
      exact tracks_changed hb' hdata
    · have hbefore : ¬ UnderWay unit b' t := by
        rintro ⟨message', hmem, data', hparse'⟩
        rcases List.mem_cons.1 (hdrop ▸ hmem) with rfl | hmem
        · rw [hparse, Option.some.injEq, Prod.mk.injEq] at hparse'
          exact heq (switchAddress_inj hb.mem hb'.block.mem hparse'.1.symm)
        · exact hnone ⟨message', hmem, data', hparse'⟩
      exact World.tracks_change hb' (h.tracks b' hb' hbefore) (hb.ownSwitch hdata)
  · exact h

/-- The world with another list for a type. -/
def relisted (w : World) (fxType : String) (entries : List FxBlock) : World :=
  w.setState { w.g.state with blocks := w.g.state.blocks.insert fxType entries } w.scan

theorem recordedSwitch_relisted (w : World) (b : TopBlock) (fxType : String) (entries : List FxBlock) :
    World.recordedSwitch (relisted w fxType entries) b =
      if b.fxType = fxType then (entries.find? fun fx => fx.fxId.toStr == b.fxId.toStr).map (·.state)
      else World.recordedSwitch w b := by
  simp only [World.recordedSwitch, relisted, World.setState, PatchState.switch, PatchState.block]
  split
  · next ht =>
    subst ht
    simp
  · next ht => rw [AList.lookup_insert_ne ht]

/-- Another list of the same ids. -/
theorem shaped_relisted {w : World} (h : World.Shaped m w) {fxType : String} {entries entries' : List FxBlock}
    (hl : w.g.state.blocks.lookup fxType = some entries)
    (hids : entries'.map FxBlock.fxId = entries.map FxBlock.fxId) :
    World.Shaped m (relisted w fxType entries') := by
  refine ⟨⟨h.known.types, fun t ht => ?_⟩, fun t blocks ht => ?_, h.scanning⟩
  · rcases (AList.mem_insert _).1 (AList.mem_keys.2 ht) with rfl | hmem
    · exact h.known.keys t (AList.mem_keys.1 (AList.lookup_isSome.1 (by simp [hl])))
    · exact h.known.keys t (AList.mem_keys.1 hmem)
  · by_cases heq : t = fxType
    · subst heq
      obtain rfl : entries' = blocks := by simpa [relisted, World.setState] using ht
      exact World.complete_of_ids (h.complete t entries hl) hids
    · refine h.complete t blocks ?_
      simpa [relisted, World.setState, AList.lookup_insert_ne heq] using ht

theorem record_eq {i : Nat} {fxId state : StrOrInt} (hcall : t.calls[i]? = some (b.fxType, fxId, state))
    (hid : Names m b fxId) : t.record m i =
      { t with
        world := match t.world.g.state.blocks.lookup b.fxType with
          | some entries => relisted t.world b.fxType (switched b.fxId state entries)
          | none => t.world
        calls := t.calls.eraseIdx i } := by
  simp only [Toggled.record, hcall, toggleRecord_eq hid]
  cases t.world.g.state.blocks.lookup b.fxType with
  | none => rfl
  | some entries => rfl

theorem Inv.record (h : Inv m unit t) {i : Nat} (hok : Undisturbed m unit t (.record i)) :
    Inv m unit (t.record m i) := by
  cases hcall : t.calls[i]? with
  | none => simpa only [Toggled.record, hcall] using h
  | some call =>
    obtain ⟨b, label, hswitches⟩ := h.calls call (List.mem_of_getElem? hcall)
    have hcalls : ∀ call ∈ t.calls.eraseIdx i, ∃ b label, Switches m b label call :=
      fun call hmem => h.calls call (List.mem_of_mem_eraseIdx hmem)
    obtain ⟨fxType, fxId, state⟩ := call
    obtain ⟨hb, rfl, hnames, rfl, -⟩ := id hswitches
    rw [record_eq hcall hnames]
    cases hl : t.world.g.state.blocks.lookup b.fxType with
    | none => exact ⟨h.device, h.taken, h.sent, hcalls, h.shaped, h.tracks⟩
    | some entries =>
      refine ⟨h.device, h.taken, h.sent, hcalls, shaped_relisted h.shaped hl (switched_ids _ _ _),
        fun b' hb' hnone => ?_⟩
      obtain ⟨hlabelled, hheld, hrecorded, hscanned⟩ := h.tracks b' hb' hnone
      refine ⟨hlabelled, hheld, fun copy hcopy => ?_, hscanned⟩
      rw [recordedSwitch_relisted] at hcopy
      split at hcopy
      · next ht =>
        by_cases heq : b' = b
        · subst heq
          obtain ⟨fx, hfx, rfl⟩ := Option.map_eq_some_iff.1 hcopy
          rw [switched_self (.str label) (List.mem_of_find?_eq_some hfx) (by simpa using List.find?_some hfx)]
          rcases hok _ b' label hcall hswitches hb'.ne_preamp with hunder | hqueue | hlabel
          · exact absurd hunder hnone
          · exact Feed.follows_ahead hqueue hheld
          · exact hlabel ▸ hheld
        · rw [switched_other (h.shaped.complete _ _ hl) hb hb'.block ht heq] at hcopy
          refine hrecorded copy ?_
          rw [World.recordedSwitch, PatchState.switch, PatchState.block, ht, hl]
          exact hcopy
      · exact hrecorded copy hcopy

theorem inv_step (hm : Loaded m) (h : Inv m unit t) (act : Act) (hok : Undisturbed m unit t act) :
    Inv m unit (step m unit t act) := by
  cases act with
  | world act => exact h.world hm hok
  | send fxType fxId state =>
    obtain ⟨b, label, hcall⟩ := hok
    exact h.send hcall
  | record i => exact h.record hok
  | take => exact h.take hm

theorem inv_start {memory : List Nat → List Nat}
    (hmemory : ∀ b, Switched m b → Labelled (memory b.switchAddress)) : Inv m unit (start unit memory) := by
  obtain ⟨hshaped, htracks⟩ := World.inv_start hmemory
  exact ⟨rfl, Nat.zero_le _, nofun, nofun, hshaped, fun b hb _ => htracks b hb⟩

/-- **Switches set from the host end up as the unit has them**, in any interleaving whose steps leave
no older copy behind: with nothing under way, what is recorded is what the unit holds. -/
theorem toggled_switches_run (hm : Loaded m) {memory : List Nat → List Nat}
    (hmemory : ∀ b, Switched m b → Labelled (memory b.switchAddress)) {acts : List Act}
    (hrun : Runs.Guarded (step m unit) (Undisturbed m unit) (start unit memory) acts)
    (hq : World.Quiet (Runs.run (step m unit) (start unit memory) acts).world)
    (htaken : (Runs.run (step m unit) (start unit memory) acts).link.sent.length =
      (Runs.run (step m unit) (start unit memory) acts).taken) :
    World.InSync m (Runs.run (step m unit) (start unit memory) acts).world := by
  have hinv := Runs.invariant (inv_start hmemory) (fun _ act hok hI => inv_step hm hI act hok) hrun
  refine World.inSync_of_inv hm ⟨hinv.shaped, fun b hb => hinv.tracks b hb ?_⟩ hq
  rintro ⟨message, hmem, -⟩
  rw [← htaken, List.drop_length] at hmem
  cases hmem

/-! ## One call -/

theorem run_world (t : Toggled) (acts : List World.Act) : Runs.run (step m unit) t (acts.map .world) =
    { t with world := Runs.run (World.step m) t.world acts } := by
  induction acts generalizing t with
  | nil => rfl
  | cons act acts ih => rw [List.map_cons, Runs.run_cons, Runs.run_cons, ih]; rfl

/-- The compressor, asked for by its number. -/
def compOn : String × StrOrInt × StrOrInt := ("comp", .int 1, .str "ON")

/-- A refresh and the call. The unit's echo is there before the call records. -/
def toggleActs : List Act :=
  (World.refreshActs addressMap (fun _ => 0) fxTypes).map .world ++
    [.send compOn.1 compOn.2.1 compOn.2.2, .take] ++ [.world (.deliver 0), .record 0]

theorem switches_comp : Switches addressMap World.comp "ON" compOn := by
  refine ⟨World.switched_comp.block, rfl, ⟨World.comp.fxId, ?_, rfl⟩, rfl, ⟨1, rfl⟩⟩
  exact BlockSnapshot.normalizeBlock_eq World.fxBlockCount_comp _

theorem comp_unique : ∀ b ∈ topBlocks, b.fxType = "comp" → b = World.comp := by decide

/-- The call up to the echo's arrival. -/
theorem run_call (s : PatchState) : ∃ link : DeviceLink.Link, link.sent.length = 1 ∧
    Runs.run (step addressMap 0) ⟨⟨World.allOff, [], ⟨s, []⟩, none⟩, DeviceLink.fresh 0, 0, []⟩
        [.send compOn.1 compOn.2.1 compOn.2.2, .take] =
      ⟨⟨Function.update World.allOff World.comp.switchAddress [1], [(World.comp.switchAddress, [1])],
        ⟨s, []⟩, none⟩, link, 1, [compOn]⟩ := by
  have hparse : parseDataReply 0 (encodeDt1 0 (World.comp.switchAddress ++ [1]) none) =
      some (World.comp.switchAddress, [1]) := parseDataReply_encodeDt1 0 [1] rfl
  refine ⟨DeviceLink.send (DeviceLink.fresh 0) (encodeDt1 0 (World.comp.switchAddress ++ [1]) none), rfl, ?_⟩
  rw [Runs.run_cons, step, send_eq switches_comp (v := 1) rfl, Runs.run_cons, Runs.run_nil]
  simp only [step, Toggled.take, DeviceLink.send, DeviceLink.fresh, List.nil_append,
    List.getElem?_cons_zero, hparse]
  rfl

theorem toggled_switches_comp : World.InSync addressMap
    (Runs.run (step addressMap 0) (start 0 World.allOff) toggleActs).world := by
  obtain ⟨s, hrun, hready, hkeys⟩ := World.refresh_allOff
  obtain ⟨link, hlink, hcall⟩ := run_call s
  have hscan : Runs.run (step addressMap 0) (start 0 World.allOff)
      ((World.refreshActs addressMap (fun _ => 0) fxTypes).map .world) =
        ⟨⟨World.allOff, [], ⟨s, []⟩, none⟩, DeviceLink.fresh 0, 0, []⟩ := by
    rw [run_world, start, hrun]
  set g := (Gt1000.processDataFromUnit addressMap ⟨s, []⟩ 0 World.comp.switchAddress [1]).1
  have hlast : Runs.run (step addressMap 0) (start 0 World.allOff) toggleActs =
      Toggled.record addressMap ⟨⟨Function.update World.allOff World.comp.switchAddress [1], [], g, none⟩,
        link, 1, [compOn]⟩ 0 := by
    rw [toggleActs, Runs.run_append, Runs.run_append, hscan, hcall]
    rfl
  have hcalls : [compOn][0]? = some (World.comp.fxType, .int 1, .str "ON") := rfl
  have hrecord := record_eq (t := ⟨⟨Function.update World.allOff World.comp.switchAddress [1], [], g, none⟩,
    link, 1, [compOn]⟩) hcalls switches_comp.names
  refine toggled_switches_run (Or.inl rfl) (fun b _ => ⟨0, "OFF", rfl, rfl⟩) ?_ ?_ ?_
  · rw [toggleActs, Runs.guarded_append, Runs.guarded_append, Runs.run_append, hscan, hcall]
    refine ⟨⟨Runs.guarded_of_forall fun act hact t => ?_, ⟨_, _, switches_comp⟩, trivial, trivial⟩,
      fun frame rest _ b label _ _ _ => ⟨nofun, fun hnot => ?_⟩, fun call b label hget hb hp => ?_, trivial⟩
    · obtain ⟨act, hmem, rfl⟩ := List.mem_map.1 hact
      exact World.undisturbed_refreshActs _ _ _ act hmem t.world
    · exact absurd (hready.symm.trans hnot) (by decide)
    · obtain rfl : compOn = call := Option.some.inj hget
      obtain rfl := comp_unique b hb.block.mem hb.fxType.symm
      obtain rfl : "ON" = label := by simpa [compOn] using hb.state
      exact Or.inr (Or.inr rfl)
  · rw [hlast, hrecord]
    have hg : ∀ t ∈ fxTypes, t ∈ g.state.blocks.keys := fun t ht =>
      Gt1000.mem_keys_processDataFromUnit.2 (hkeys t ht)
    cases hl : g.state.blocks.lookup World.comp.fxType with
    | none => exact ⟨rfl, rfl, hg⟩
    | some entries =>
      refine ⟨rfl, rfl, fun t ht => ?_⟩
      exact AList.mem_keys.1 ((AList.mem_insert _).2 (Or.inr (AList.mem_keys.2 (hg t ht))))
  · rw [hlast, hrecord]
    exact hlink

end Toggled

end Pygt1000
