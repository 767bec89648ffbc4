import Pygt1000.ScanSystem
import Pygt1000.Lib.Feed

/-!
# Changes while a scan is running

Of every switch there is what the unit holds, the announcements of it under way, the recorded
state, and, while a scan is between its read and `record_scan`, the copy the scan holds. Both
copies follow the announcements (`Feed.Follows`): a scan reads what the unit holds, and a
delivered frame is taken over by the recorded state. It is not taken over by the scan's copy, and
before the first full scan by neither; an older copy then stays, and `record_scan` puts it in the
place of the newer one. `recorded_switches_run` shows that this is all that goes wrong.
-/

namespace Pygt1000

open Specs Feed

/-! ## Switches -/

/-- A block other than a preamp: its switch is recorded under the id `decode` gives it. -/
structure Switched (m : AddressMap) (b : TopBlock) : Prop where
  block : HasBlock m b
  ne_preamp : b.fxType ≠ "preamp"

def TopBlock.switchAddress (b : TopBlock) : List Nat := [0x10, b.second, b.third, 0]

/-- The label of a switch's byte. -/
def switchLabel (data : List Nat) : Option StrOrInt :=
  (labelForRaw switchParam.values (data.headD 0)).map .str

/-- The bytes of a switch: one, with a label. -/
def Labelled (data : List Nat) : Prop :=
  ∃ v label, data = [v] ∧ labelForRaw switchParam.values v = some label

theorem topBlocks_ids : (topBlocks.map fun b => (b.fxType, b.fxId.toStr)).Nodup := by decide

section

variable {m : AddressMap} {b : TopBlock} {data : List Nat}

theorem Switched.addressForBlock_eq (h : Switched m b) :
    m.addressForBlock b.fxType b.fxId "SW" none none = .ok (some b.switchAddress) :=
  h.block.addressForBlock_eq (switch_labels _ (TopBlock.mem_valueTables h.block.mem))

/-- A frame at a switch announces its label, under the recorded id. -/
theorem Switched.announces_eq (h : Switched m b) (hdata : Labelled data) :
    Gt1000.announces m b.switchAddress data =
      some (b.fxType, b.fxId.toStr, switchLabel data) := by
  obtain ⟨v, label, rfl, hlabel⟩ := hdata
  have he := switch_labels _ (TopBlock.mem_valueTables h.block.mem)
  have hraw : rawInt switchParam (.list [v]) = .ok v := rfl
  obtain ⟨d, hd, hfx, hid, hname, hstr, -, -⟩ := h.block.decode_eq he hraw
  have hne : b.switchAddress ≠ programChangeOffset := by
    simp [TopBlock.switchAddress, programChangeOffset]
  have hd : m.decode b.switchAddress (.list [v]) = .ok (some d) := hd
  simp only [Gt1000.announces, if_neg hne, hd, if_pos hname, hfx, hid, hstr, Option.map_some,
    PatchState.idStr, decodedId_eq b h.block.mem h.ne_preamp, switchLabel, List.headD_cons]

/-- A scan reads the label of the byte the unit holds. -/
theorem Switched.read_eq (h : Switched m b) {memory : List Nat → List Nat}
    (hdata : Labelled (memory b.switchAddress)) :
    BlockReader.read m (World.reading memory) b.fxType b.fxId "SW" false =
      .ok (switchLabel (memory b.switchAddress)) := by
  obtain ⟨v, label, hv, hlabel⟩ := hdata
  have he := switch_labels _ (TopBlock.mem_valueTables h.block.mem)
  have hanswer : answer (World.reading memory) b.switchAddress 1 = some v := by
    simp [answer, World.reading, hv]
  have hread := h.block.read_label (World.exact_reading memory) he
  rw [hread]
  change Except.ok ((answer (World.reading memory) b.switchAddress 1).map _) = _
  simp [hanswer, presented, switchLabel, hv, hlabel]

end

/-! ## What is known, and what is under way -/

namespace World

variable (m : AddressMap) (w : World) (b : TopBlock)

/-- The label a frame announces for a switch, if it is about that switch. -/
def about (frame : List Nat × List Nat) : Option (Option StrOrInt) :=
  (Gt1000.announces m frame.1 frame.2).bind fun x =>
    if x.1 = b.fxType ∧ x.2.1 = b.fxId.toStr then some x.2.2 else none

/-- The announcements of a switch. -/
def queue (frames : List (List Nat × List Nat)) : List (Option StrOrInt) :=
  frames.filterMap (about m b)

def heldSwitch : Option StrOrInt := switchLabel (w.memory b.switchAddress)

def recordedSwitch : Option (Option StrOrInt) := w.g.state.switch b.fxType b.fxId.toStr

/-- What the scan under way has read of a switch, if it got there. -/
def scannedSwitch : Option (Option StrOrInt) :=
  w.scan.bind fun scan =>
    if scan.fxType = b.fxType then
      (scan.out.find? fun fx => fx.fxId.toStr == b.fxId.toStr).map (·.state)
    else none

/-! ## The steps that lose nothing -/

/-- A change at an address that decodes to a switch is at the address the switch is read from, and
sets it to one of its labels. -/
def OwnSwitch (address data : List Nat) : Prop :=
  ∀ b, Switched m b → (about m b (address, data)).isSome = true ∨ address = b.switchAddress →
    address = b.switchAddress ∧ Labelled data

/-- The last announcement of a switch under way arrives where no older copy is left of it: neither
one that the scan under way has read, nor, before the state is ready, a recorded one. -/
def NothingOlder (frame : List Nat × List Nat) (rest : List (List Nat × List Nat)) : Prop :=
  ∀ b label, Switched m b → about m b frame = some label → queue m b rest = [] →
    (∀ copy, scannedSwitch w b = some copy → copy = label) ∧
    (w.g.state.isReady = false → ∀ copy, recordedSwitch w b = some copy → copy = label)

def Undisturbed (w : World) : Act → Prop
  | .change address data => OwnSwitch m address data
  | .deliver _ => ∀ frame rest, w.inFlight = frame :: rest → NothingOlder m w frame rest
  | _ => True

/-! ## The invariant -/

/-- Every copy of a switch follows its announcements. -/
structure Tracks : Prop where
  labelled : Labelled (w.memory b.switchAddress)
  held : Follows (queue m b w.inFlight) (heldSwitch w b) (heldSwitch w b)
  recorded : ∀ copy, recordedSwitch w b = some copy →
    Follows (queue m b w.inFlight) (heldSwitch w b) copy
  scanned : ∀ copy, scannedSwitch w b = some copy →
    Follows (queue m b w.inFlight) (heldSwitch w b) copy

/-- The recorded lists are complete, and the scan under way gets to every block. -/
structure Shaped : Prop where
  known : w.g.state.Known
  complete : ∀ t blocks, w.g.state.blocks.lookup t = some blocks → Complete m t blocks
  scanning : ∀ scan, w.scan = some scan → ∃ n, m.fxBlockCount scan.fxType = .ok n ∧
    (∀ i ∈ scan.left, i < n) ∧
    scan.out.map (·.fxId) ++
        scan.left.map (fun i : Nat => AddressMap.normalId n scan.fxType (.int (i + 1))) =
      (List.range n).map fun i : Nat => AddressMap.normalId n scan.fxType (.int (i + 1))

def Inv : Prop := Shaped m w ∧ ∀ b, Switched m b → Tracks m w b

/-! ## The shape is kept -/

section

variable {m : AddressMap} {w : World}

theorem complete_of_ids {t : String} {blocks blocks' : List FxBlock} (h : Complete m t blocks)
    (hids : blocks'.map FxBlock.fxId = blocks.map FxBlock.fxId) : Complete m t blocks' := by
  obtain ⟨n, hc, hn, heq⟩ := h
  exact ⟨n, hc, hn, hids.trans heq⟩

theorem shaped_deliver (h : Shaped m w) (now : Nat) : Shaped m (w.deliver m now) := by
  unfold deliver
  split
  · exact h
  · next frame rest _ =>
    obtain ⟨htypes, hids⟩ := w.g.processDataFromUnit_ids m now frame.1 frame.2
    refine ⟨⟨htypes.trans h.known.types, fun t ht => ?_⟩, fun t blocks hl => ?_, h.scanning⟩
    · exact h.known.keys t (Gt1000.mem_keys_processDataFromUnit.1 ht)
    · have heq := hids t
      rw [hl] at heq
      obtain ⟨blocks', hl', hmap⟩ := Option.map_eq_some_iff.1 heq.symm
      exact complete_of_ids (h.complete t blocks' hl') hmap.symm

theorem shaped_beginScan (h : Shaped m w) (fxType : String) : Shaped m (w.beginScan m fxType) := by
  unfold beginScan
  split
  · next n _ hc =>
    refine ⟨h.known, h.complete, fun scan hscan => ?_⟩
    cases hscan
    exact ⟨n, hc, fun i hi => List.mem_range.1 hi, rfl⟩
  · exact h

/-- One pass keeps the recorded blocks, and the block it returns is the one of its number. -/
theorem readPass_spec {fxType : String} {i n : Nat} {s' : PatchState} {fx : FxBlock}
    (hc : m.fxBlockCount fxType = .ok n) (h : readPass m w fxType i = .ok (s', fx)) :
    (s'.blocks = w.g.state.blocks ∧ s'.fxTypes = w.g.state.fxTypes) ∧
      fx.fxId = AddressMap.normalId n fxType (.int (i + 1)) ∧
      BlockReader.read m (reading w.memory) fxType fx.fxId "SW" false = .ok fx.state := by
  rw [readPass_eq hc] at h
  obtain ⟨state, name, slider1, slider2, hstate, -, rfl, -, rfl⟩ := BlockSnapshot.snapshot_eq_ok h
  exact ⟨⟨BlockSnapshot.named_blocks name, BlockSnapshot.named_fxTypes name⟩, rfl, hstate⟩

theorem shaped_readBlock (h : Shaped m w) : Shaped m (w.readBlock m) := by
  unfold readBlock
  split
  · next fxType i left out hscan =>
    obtain ⟨n, hc, hleft, hids⟩ := h.scanning _ hscan
    split
    · next s' fx hpass =>
      obtain ⟨⟨hblocks, htypes⟩, hid, -⟩ := readPass_spec hc hpass
      refine ⟨⟨htypes.trans h.known.types, fun t ht => h.known.keys t (hblocks ▸ ht)⟩,
        fun t blocks hl => h.complete t blocks (hblocks ▸ hl), fun scan hscan' => ?_⟩
      cases hscan'
      refine ⟨n, hc, fun j hj => hleft j (List.mem_cons_of_mem i hj), ?_⟩
      simpa [hid] using hids
    · exact ⟨h.known, h.complete, nofun⟩
  · exact h

theorem shaped_record (hm : Loaded m) (h : Shaped m w) (now : Nat) : Shaped m (w.record now) := by
  unfold record
  split
  · next fxType out hscan =>
    obtain ⟨n, hc, -, hids⟩ := h.scanning _ hscan
    have ht := hm.mem_fxTypes hc
    refine ⟨⟨h.known.types, fun t htk => ?_⟩, fun t blocks hl => ?_, nofun⟩
    · rcases (AList.mem_insert _).1 (AList.mem_keys.2 htk) with rfl | hmem
      · exact ht
      · exact h.known.keys t (AList.mem_keys.1 hmem)
    · by_cases heq : t = fxType
      · subst heq
        obtain ⟨n', hn', hc'⟩ := hm.count ht
        obtain rfl : n' = n := Except.ok.inj (hc'.symm.trans hc)
        obtain rfl : out = blocks := by simpa [setState] using hl
        refine ⟨n', hc, hn', ?_⟩
        rw [← (blocksOf_normalized _ hn').1, ← hids]
        simp
      · refine h.complete t blocks ?_
        simpa [setState, AList.lookup_insert_ne heq] using hl
  · exact h

theorem shaped_step (hm : Loaded m) (h : Shaped m w) (act : Act) : Shaped m (step m w act) := by
  cases act with
  | change address data => exact ⟨h.known, h.complete, h.scanning⟩
  | deliver now => exact shaped_deliver h now
  | beginScan fxType => exact shaped_beginScan h fxType
  | readBlock => exact shaped_readBlock h
  | record now => exact shaped_record hm h now

end

/-! ## The copies follow -/

section

variable {m : AddressMap} {w : World} {b : TopBlock} {data : List Nat}

theorem about_switch (h : Switched m b) (hdata : Labelled data) :
    about m b (b.switchAddress, data) = some (switchLabel data) := by
  simp [about, h.announces_eq hdata]

/-- A delivered frame sets the recorded switch it is about, once the state is ready. -/
theorem recordedSwitch_frame (m : AddressMap) (g : Gt1000) (now : Nat) (b : TopBlock)
    (frame : List Nat × List Nat) :
    (g.processDataFromUnit m now frame.1 frame.2).1.state.switch b.fxType b.fxId.toStr =
      match about m b frame with
      | some label =>
        if g.state.isReady = true then (g.state.switch b.fxType b.fxId.toStr).map fun _ => label
        else g.state.switch b.fxType b.fxId.toStr
      | none => g.state.switch b.fxType b.fxId.toStr := by
  rw [g.switch_processDataFromUnit m now, about]
  cases Gt1000.announces m frame.1 frame.2 with
  | none => rfl
  | some x =>
    obtain ⟨t, id, label⟩ := x
    by_cases ht : t = b.fxType ∧ id = b.fxId.toStr
    · simp [ht]
    · simp [ht]

theorem tracks_change (hb : Switched m b) (h : Tracks m w b) {address : List Nat}
    (hok : OwnSwitch m address data) : Tracks m (step m w (.change address data)) b := by
  by_cases ha : address = b.switchAddress
  · subst ha
    obtain ⟨-, hdata⟩ := hok b hb (Or.inr rfl)
    have hmemory : Function.update w.memory b.switchAddress data b.switchAddress = data :=
      Function.update_self ..
    have hqueue : queue m b (w.inFlight ++ [(b.switchAddress, data)]) =
        queue m b w.inFlight ++ [switchLabel data] := by
      simp [queue, about_switch hb hdata]
    have hfollows (copy : Option StrOrInt) : Follows
        (queue m b (w.inFlight ++ [(b.switchAddress, data)])) (switchLabel data) copy :=
      hqueue ▸ follows_change _ _ _
    constructor <;> simp only [step, heldSwitch, hmemory]
    · exact hdata
    · exact hfollows _
    · exact fun copy _ => hfollows copy
    · exact fun copy _ => hfollows copy
  · have hnone : about m b (address, data) = none := by
      by_contra hsome
      exact ha (hok b hb (Or.inl (Option.isSome_iff_ne_none.2 hsome))).1
    have hmemory : Function.update w.memory address data b.switchAddress = w.memory b.switchAddress :=
      Function.update_of_ne (Ne.symm ha) ..
    have hqueue : queue m b (w.inFlight ++ [(address, data)]) = queue m b w.inFlight := by
      simp [queue, hnone]
    constructor <;> simp only [step, heldSwitch, hmemory, hqueue]
    · exact h.labelled
    · exact h.held
    · exact h.recorded
    · exact h.scanned

theorem tracks_deliver (hb : Switched m b) (h : Tracks m w b) (now : Nat)
    (hok : ∀ frame rest, w.inFlight = frame :: rest → NothingOlder m w frame rest) :
    Tracks m (w.deliver m now) b := by
  unfold deliver
  split
  · exact h
  · next frame rest hflight =>
    obtain ⟨hlabelled, hheld, hrecorded, hscanned⟩ := h
    have hframe := recordedSwitch_frame m w.g now b frame
    simp only [hflight, queue, List.filterMap_cons] at hheld hrecorded hscanned
    cases habout : about m b frame with
    | none =>
      simp only [habout] at hheld hrecorded hscanned hframe
      exact ⟨hlabelled, hheld, fun copy hcopy => hrecorded copy (hframe.symm.trans hcopy),
        hscanned⟩
    | some label =>
      simp only [habout] at hheld hrecorded hscanned hframe
      have holder := hok frame rest hflight b label hb habout
      have happlied := follows_applied hheld
      refine ⟨hlabelled, ?_, fun copy hcopy => ?_, fun copy hcopy => ?_⟩
      · exact follows_refl happlied
      · cases hready : w.g.state.isReady with
        | true =>
          rw [hready, if_pos rfl] at hframe
          obtain ⟨old, -, rfl⟩ := Option.map_eq_some_iff.1 (hframe.symm.trans hcopy)
          exact happlied
        | false =>
          have hold : recordedSwitch w b = some copy := by
            rw [hready] at hframe
            exact hframe.symm.trans hcopy
          exact follows_dropped (hrecorded copy hold) fun hlast => (holder hlast).2 hready copy hold
      · exact follows_dropped (hscanned copy hcopy) fun hlast => (holder hlast).1 copy hcopy

theorem tracks_beginScan (h : Tracks m w b) (fxType : String) :
    Tracks m (w.beginScan m fxType) b := by
  unfold beginScan
  split
  · exact ⟨h.labelled, h.held, h.recorded, fun copy hcopy => by simp [scannedSwitch] at hcopy⟩
  · exact h

/-- Blocks of one type with one id are one block. -/
theorem block_eq_of_id {b b' : TopBlock} (hb : b ∈ topBlocks) (hb' : b' ∈ topBlocks)
    (ht : b'.fxType = b.fxType) (hid : b'.fxId.toStr = b.fxId.toStr) : b' = b :=
  List.inj_on_of_nodup_map topBlocks_ids hb' hb (Prod.ext ht hid)

theorem tracks_readBlock (hm : Loaded m) (hb : Switched m b) (hw : Shaped m w) (h : Tracks m w b) :
    Tracks m (w.readBlock m) b := by
  unfold readBlock
  split
  · next fxType i left out hscan =>
    obtain ⟨n, hc, hleft, -⟩ := hw.scanning _ hscan
    split
    · next s' fx hpass =>
      obtain ⟨⟨hblocks, -⟩, hid, hread⟩ := readPass_spec hc hpass
      have hsame : s'.switch b.fxType b.fxId.toStr = recordedSwitch w b := by
        simp only [recordedSwitch, PatchState.switch, PatchState.block, hblocks]
      refine ⟨h.labelled, h.held, fun copy hcopy => h.recorded copy (hsame ▸ hcopy),
        fun copy hcopy => ?_⟩
      simp only [scannedSwitch, setState, Option.bind_some] at hcopy
      split at hcopy
      · next ht =>
        obtain ⟨x, hx, rfl⟩ := Option.map_eq_some_iff.1 hcopy
        rw [List.find?_append] at hx
        rcases Option.or_eq_some_iff.1 hx with hold | ⟨-, hnew⟩
        · refine h.scanned x.state ?_
          simp [scannedSwitch, hscan, ht, hold]
        · obtain ⟨hxid, hxmem⟩ := And.intro (List.find?_some hnew) (List.mem_of_find?_eq_some hnew)
          obtain rfl : x = fx := List.mem_singleton.1 hxmem
          obtain ⟨b', hb', htype, hfxId⟩ :=
            hm.block (hm.mem_fxTypes hc) hc (hleft i List.mem_cons_self)
          have hstr : b'.fxId.toStr = b.fxId.toStr := by
            rw [← hfxId, ← hid]
            simpa using hxid
          obtain rfl := block_eq_of_id hb.block.mem hb'.mem (htype.trans ht) hstr
          rw [← htype, hid, hfxId, hb.read_eq h.labelled, Except.ok.injEq] at hread
          rw [← hread]
          exact h.held
      · cases hcopy
    · exact ⟨h.labelled, h.held, h.recorded, fun copy hcopy => by cases hcopy⟩
  · exact h

theorem tracks_record (h : Tracks m w b) (now : Nat) : Tracks m (w.record now) b := by
  unfold record
  split
  · next fxType out hscan =>
    refine ⟨h.labelled, h.held, fun copy hcopy => ?_, fun copy hcopy => by cases hcopy⟩
    simp only [recordedSwitch, setState, PatchState.switch_recordScan] at hcopy
    split at hcopy
    · next ht =>
      refine h.scanned copy ?_
      simpa [scannedSwitch, hscan, ht] using hcopy
    · exact h.recorded copy hcopy
  · exact h

/-- One step keeps every copy following, if it loses nothing. -/
theorem inv_step (hm : Loaded m) (h : Inv m w) (act : Act) (hok : Undisturbed m w act) :
    Inv m (step m w act) := by
  refine ⟨shaped_step hm h.1 act, fun b hb => ?_⟩
  have htracks := h.2 b hb
  cases act with
  | change address data => exact tracks_change hb htracks hok
  | deliver now => exact tracks_deliver hb htracks now hok
  | beginScan fxType => exact tracks_beginScan htracks fxType
  | readBlock => exact tracks_readBlock hm hb h.1 htracks
  | record now => exact tracks_record htracks now

theorem inv_start {memory : List Nat → List Nat}
    (hmemory : ∀ b, Switched m b → Labelled (memory b.switchAddress)) : Inv m (start memory) := by
  refine ⟨⟨PatchState.known_fresh, nofun, nofun⟩, fun b hb => ⟨hmemory b hb, rfl, nofun, nofun⟩⟩

end

/-! ## Runs -/

/-- Nothing is under way, and every fx type has been scanned. -/
structure Quiet (w : World) : Prop where
  inFlight : w.inFlight = []
  scan : w.scan = none
  scanned : ∀ t ∈ fxTypes, t ∈ w.g.state.blocks.keys

/-- The recorded switch of every block other than the preamps is the label of the byte the unit
holds. -/
def InSync (m : AddressMap) (w : World) : Prop :=
  ∀ t ∈ fxTypes, t ≠ "preamp" → ∃ n blocks, m.fxBlockCount t = .ok n ∧
    w.g.state.blocks.lookup t = some blocks ∧ blocks.length = n ∧
    ∀ fx ∈ blocks, ∃ address v label,
      m.addressForBlock t fx.fxId "SW" none none = .ok (some address) ∧ w.memory address = [v] ∧
      labelForRaw switchParam.values v = some label ∧ fx.state = some (.str label)

theorem inSync_of_inv {m : AddressMap} (hm : Loaded m) {w : World} (h : Inv m w) (hq : Quiet w) :
    InSync m w := by
  intro t ht hp
  obtain ⟨blocks, hl⟩ := Option.isSome_iff_exists.1
    (AList.lookup_isSome.2 (AList.mem_keys.2 (hq.scanned t ht)))
  have hcomplete := h.1.complete t blocks hl
  have hnodup := hcomplete.nodup
  obtain ⟨n, hc, hn, hids⟩ := id hcomplete
  refine ⟨n, blocks, hc, hl, ?_, fun fx hfx => ?_⟩
  · rw [← length_blocksOf hn, ← List.length_map (·.fxId), hids, List.length_map]
  · obtain ⟨b, hb, rfl, hfxId⟩ := hcomplete.hasBlock hm hfx
    have hsw : Switched m b := ⟨hb, hp⟩
    obtain ⟨⟨v, label, hv, hlabel⟩, -, hrecorded, -⟩ := h.2 b hsw
    have hfind := hcomplete.find?_eq hfx
    rw [← hfxId] at hfind
    have hcopy : recordedSwitch w b = some fx.state := by
      simp [recordedSwitch, PatchState.switch, PatchState.block, hl, hfind]
    have hstate := hrecorded fx.state hcopy
    rw [hq.inFlight] at hstate
    refine ⟨b.switchAddress, v, label, hfxId ▸ hsw.addressForBlock_eq, hv, hlabel, ?_⟩
    rw [follows_nil.1 hstate, heldSwitch, switchLabel, hv]
    simp [hlabel]

/-- **No change of a switch is lost to a scan**, in any interleaving whose steps leave no older
copy behind: with nothing under way, what is recorded is what the unit holds. -/
theorem recorded_switches_run {m : AddressMap} (hm : Loaded m) {memory : List Nat → List Nat}
    (hmemory : ∀ b, Switched m b → Labelled (memory b.switchAddress)) {acts : List Act}
    (hrun : Runs.Guarded (step m) (Undisturbed m) (start memory) acts)
    (hq : Quiet (Runs.run (step m) (start memory) acts)) :
    InSync m (Runs.run (step m) (start memory) acts) :=
  inSync_of_inv hm (Runs.invariant (inv_start hmemory)
    (fun _ act hok hI => inv_step hm hI act hok) hrun) hq

theorem run_change {m : AddressMap} (memory : List Nat → List Nat) (g : Gt1000)
    (scan : Option BlockScan) (address data : List Nat) (now : Nat) :
    Runs.run (step m) ⟨memory, [], g, scan⟩ [.change address data, .deliver now] =
      ⟨Function.update memory address data, [], (g.processDataFromUnit m now address data).1, scan⟩ :=
  rfl

/-- A change that is made and delivered after a scan's only read and before `record_scan`: the
list of the scan is recorded. -/
theorem run_stale {m : AddressMap} {memory : List Nat → List Nat} {g : Gt1000} {t : String}
    (hc : m.fxBlockCount t = .ok 1) {s' : PatchState} {fx : FxBlock}
    (hpass : readPass m ⟨memory, [], g, some ⟨t, [0], []⟩⟩ t 0 = .ok (s', fx))
    (address data : List Nat) (now : Nat) :
    ∃ g' : Gt1000, (∀ t', t' ∈ g'.state.blocks.keys ↔ t' ∈ s'.blocks.keys) ∧
      Runs.run (step m) ⟨memory, [], g, none⟩
          [.beginScan t, .readBlock, .change address data, .deliver now, .record now] =
        ⟨Function.update memory address data, [],
          { g' with state := g'.state.recordScan t [fx] now }, none⟩ := by
  refine ⟨(Gt1000.processDataFromUnit m { g with state := s' } now address data).1,
    fun t' => Gt1000.mem_keys_processDataFromUnit, ?_⟩
  rw [Runs.run_cons, beginScan_eq rfl hc, Runs.run_cons, List.range_one, readBlock_eq rfl hpass]
  rfl

/-- All switches are off when the unit is connected. -/
def allOff : List Nat → List Nat := fun _ => [0]

/-- Every byte the unit holds is the same. -/
def constant (v : Nat) : List Nat → List Nat := fun _ => [v]

/-- A refresh of such a unit returns, unless the byte is that of `MASTERING FX`. -/
theorem refresh_constant {v : Nat} (hv : v ≠ 33) {s : PatchState} (hs : s.Known) : ∃ s',
    Gt1000.refreshState addressMap (reading (constant v)) false (fun _ => 0) s = .ok s' := by
  have hno : NoMasteringRead addressMap (reading (constant v)) := by
    rintro n - i - ⟨⟨address, -, hreply⟩, -⟩
    revert hreply
    simpa [reading, constant] using hv
  exact (refreshState_returns (Or.inl rfl) (exact_reading (constant v)) hs).2 hno

theorem refresh_allOff : ∃ s,
    Runs.run (step addressMap) (start allOff) (refreshActs addressMap (fun _ => 0) fxTypes) =
      ⟨allOff, [], ⟨s, []⟩, none⟩ ∧
    s.isReady = true ∧ ∀ t ∈ fxTypes, t ∈ s.blocks.keys := by
  obtain ⟨s, hs⟩ : ∃ s, Gt1000.refreshState addressMap (reading allOff) false (fun _ => 0)
      (.fresh fxTypes) = .ok s := refresh_constant (v := 0) (by decide) PatchState.known_fresh
  have hscanned := scanned_of_refreshState (Or.inl rfl) PatchState.known_fresh hs
  refine ⟨s, run_refreshFrom rfl hs, hscanned.isReady, fun t ht => ?_⟩
  obtain ⟨_, _, _, blocks, -, hl⟩ := hscanned.scanned t ht
  exact AList.mem_keys.1 (AList.lookup_isSome.1 (by simp [hl]))

/-- The compressor. -/
def comp : TopBlock := ⟨"comp", .str "", 0, 0x12, ""⟩

/-- The unit switches it on, and the frame arrives. -/
def switchOn : List Act := [.change [0x10, 0, 0x12, 0] [1], .deliver 0]

/-- The same after a scan has read it and before the scan records what it read. -/
def switchOnDuringScan : List Act :=
  [.beginScan "comp", .readBlock, .change [0x10, 0, 0x12, 0] [1], .deliver 0, .record 0]

theorem switched_comp : Switched addressMap comp := ⟨hasBlock_shipped (by decide), by decide⟩

theorem labelled_on : Labelled [1] := ⟨1, "ON", rfl, rfl⟩

theorem undisturbed_refreshActs (m : AddressMap) (clock : String → Nat) (ts : List String) :
    ∀ act ∈ refreshActs m clock ts, ∀ w, Undisturbed m w act := by
  intro act hact w
  rcases mem_refreshActs hact with ⟨t, rfl⟩ | rfl | ⟨now, rfl⟩ <;> trivial

theorem ownSwitch_comp : OwnSwitch addressMap comp.switchAddress [1] := by
  rintro b hb (habout | heq)
  · obtain ⟨label, hlabel⟩ := Option.isSome_iff_exists.1 habout
    have hann := switched_comp.announces_eq labelled_on
    simp only [about, hann, Option.bind_some] at hlabel
    split at hlabel
    · next hsame =>
      rw [block_eq_of_id hb.block.mem switched_comp.block.mem hsame.1 hsame.2]
      exact ⟨rfl, labelled_on⟩
    · cases hlabel
  · exact ⟨heq, labelled_on⟩

/-- The compressor is switched on after a refresh. -/
theorem recorded_switches_comp : InSync addressMap (Runs.run (step addressMap) (start allOff)
    (refreshActs addressMap (fun _ => 0) fxTypes ++ switchOn)) := by
  obtain ⟨s, hrun, hready, hkeys⟩ := refresh_allOff
  refine recorded_switches_run (Or.inl rfl) (fun b _ => ⟨0, "OFF", rfl, rfl⟩)
    (Runs.guarded_append.2 ⟨Runs.guarded_of_forall fun act hact w =>
      undisturbed_refreshActs _ _ _ act hact w, ?_⟩) ?_
  · rw [hrun]
    refine ⟨ownSwitch_comp, fun frame rest _ b label _ _ _ => ⟨fun copy hcopy => ?_, fun hnot => ?_⟩,
      trivial⟩
    · cases hcopy
    · exact absurd (hready.symm.trans hnot) (by decide)
  · rw [Runs.run_append, hrun, switchOn, run_change]
    exact ⟨rfl, rfl, fun t ht => Gt1000.mem_keys_processDataFromUnit.2 (hkeys t ht)⟩

theorem fxBlockCount_comp : addressMap.fxBlockCount "comp" = .ok 1 := by
  obtain ⟨n, hn, hc⟩ := Loaded.count (m := addressMap) (Or.inl rfl) (t := "comp") (by decide)
  obtain rfl : n = 1 := by simpa [blockCounts] using hn
  exact hc

/-- A scan of the compressor's type reads it, switched off. -/
theorem readPass_comp {w : World} (hw : w.memory = allOff) : ∃ s' fx,
    readPass addressMap w "comp" 0 = .ok (s', fx) ∧ s'.blocks = w.g.state.blocks ∧
      fx.fxId = comp.fxId ∧ fx.state = some (.str "OFF") := by
  have hid : AddressMap.normalId 1 "comp" (.int ((0 : Nat) + 1)) = comp.fxId := rfl
  obtain ⟨⟨s', fx⟩, hpass⟩ : ∃ r, readPass addressMap w "comp" 0 = .ok r := by
    have hsnap := (switched_comp.block.snapshot_iff (exact_reading w.memory) w.g.state).2 fun hfx =>
      absurd hfx.1 (by decide)
    rw [readPass_eq fxBlockCount_comp, hid]
    exact hsnap
  obtain ⟨⟨hblocks, -⟩, hfxId, hstate⟩ := readPass_spec fxBlockCount_comp hpass
  have hlabelled : Labelled (w.memory comp.switchAddress) := by
    rw [hw]
    exact ⟨0, "OFF", rfl, rfl⟩
  have hread := switched_comp.read_eq hlabelled
  rw [hid] at hfxId
  rw [hfxId, show "comp" = comp.fxType from rfl, hread, hw, Except.ok.injEq] at hstate
  exact ⟨s', fx, hpass, hblocks, hfxId, hstate.symm⟩

/-- The scan's copy replaces the newer one. -/
theorem comp_change_lost :
    Quiet (Runs.run (step addressMap) (start allOff)
      (refreshActs addressMap (fun _ => 0) fxTypes ++ switchOnDuringScan)) ∧
    ¬ InSync addressMap (Runs.run (step addressMap) (start allOff)
      (refreshActs addressMap (fun _ => 0) fxTypes ++ switchOnDuringScan)) := by
  obtain ⟨s, hrun, -, hkeys⟩ := refresh_allOff
  obtain ⟨s1, fx, hpass, hblocks, hfxId, hoff⟩ :=
    readPass_comp (w := ⟨allOff, [], ⟨s, []⟩, some ⟨"comp", [0], []⟩⟩) rfl
  obtain ⟨g, hg, hlost⟩ := run_stale fxBlockCount_comp hpass [0x10, 0, 0x12, 0] [1] 0
  rw [Runs.run_append, hrun, switchOnDuringScan, hlost]
  constructor
  · refine ⟨rfl, rfl, fun t ht => ?_⟩
    have hkey := AList.mem_keys.2 ((hg t).2 (hblocks ▸ hkeys t ht))
    exact AList.mem_keys.1 ((AList.mem_insert _).2 (Or.inr hkey))
  · intro hsync
    obtain ⟨n, blocks, -, hl, -, hsync⟩ := hsync "comp" (by decide) (by decide)
    simp only [PatchState.recordScan_blocks, AList.lookup_insert, Option.some.injEq] at hl
    subst hl
    obtain ⟨address, v, label, haddress, hv, hlabel, hon⟩ := hsync fx List.mem_cons_self
    have haddr := switched_comp.addressForBlock_eq
    rw [← hfxId] at haddr
    obtain rfl : comp.switchAddress = address :=
      Option.some.inj (Except.ok.inj (haddr.symm.trans haddress))
    rw [show comp.switchAddress = [0x10, 0, 0x12, 0] from rfl] at hv
    simp only [Function.update_self, List.cons.injEq, and_true] at hv
    subst hv
    rw [hoff] at hon
    cases hon
    revert hlabel
    decide

end World

end Pygt1000
