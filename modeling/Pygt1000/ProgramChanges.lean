import Pygt1000.ScanRace

/-!
# Program changes (`gt1000.py:157-178`, `:276-298`)

A program change replaces what the unit holds and says nothing of any parameter: one frame announces
it, and queues a full refresh. Until the worker has been through every type since then, what is
recorded is of the old program, of the new one, or of both. Here the worker takes its tasks from the
queue, so a program change may come at any point of a refresh that is already under way, and changes
of single parameters and further program changes at any point after it. Once nothing is under way and
the worker is idle, every type has been scanned and what is recorded is what the unit holds
(`program_changes_followed`).

| here | there |
| --- | --- |
| `program`, `deliver` | the frame at `PROGRAM_CHANGE_OFFSET`, and what it submits (`gt1000.py:276-283`) |
| `pop`               | one pass of `drain`, from an idle worker (`refresh_scheduler.py:82-87`) |
| `next`              | the loop of `refresh_state`, at its next type (`gt1000.py:158-163`) |
| `readBlock`, `record` | the scan of a type, as in `World` |
| `resolve`           | `_refresh_sliders` (`:174-178`); what it read may be anything, or it raises |

The direct call of `refresh_state` that comes before the worker is started is the refresh under way
at the start. A handler that raises ends the worker.
-/

namespace Pygt1000.ProgramChanges

open Feed

inductive Worker where
  | idle
  /-- In `refresh_state`, with the types its loop has not got to. -/
  | refreshing (left : List String)
  /-- In `_refresh_sliders`. -/
  | resolving (fxType : String) (fxId : StrOrInt)
  | died

/-- `_dispatch` (`refresh_scheduler.py:88-93`), with the two handlers registered. -/
def Worker.dispatch : Task → Worker
  | .full => .refreshing fxTypes
  | .sliders fxType fxId => .resolving fxType fxId

structure Host where
  world : World
  worker : Worker
  stopped : Bool

inductive Act where
  | change (address data : List Nat)
  /-- The unit loads a program. -/
  | program (memory : List Nat → List Nat) (data : List Nat)
  | deliver (now : Nat)
  | pop
  | next
  | readBlock
  | record (now : Nat)
  | resolve (sliders : Option (Option SliderValue × Option SliderValue))
  | stop

variable (m : AddressMap)

namespace Host

def program (h : Host) (memory : List Nat → List Nat) (data : List Nat) : Host :=
  { h with world := { h.world with memory, inFlight := h.world.inFlight ++ [(programChangeOffset, data)] } }

def pop (h : Host) : Host :=
  match h.worker, h.world.g.queue with
  | .idle, task :: rest =>
    { h with world := { h.world with g := { h.world.g with queue := rest } }, worker := .dispatch task }
  | _, _ => h

def next (h : Host) : Host :=
  match h.worker, h.world.scan with
  | .refreshing [], none => { h with worker := .idle }
  | .refreshing (fxType :: left), none =>
    if h.stopped then { h with worker := .idle }
    else match m.fxBlockCount fxType with
      | .ok _ => { h with world := h.world.beginScan m fxType, worker := .refreshing left }
      | .error _ => { h with worker := .died }
  | _, _ => h

/-- One pass of `snapshot_all`; a scan that was under way and is not any more has raised. -/
def readBlock (h : Host) : Host :=
  { h with
    world := h.world.readBlock m
    worker := if h.world.scan.isSome ∧ (h.world.readBlock m).scan = none then .died else h.worker }

def resolve (h : Host) (sliders : Option (Option SliderValue × Option SliderValue)) : Host :=
  match h.worker with
  | .resolving fxType fxId =>
    match sliders.map fun s => h.world.g.state.setSliders fxType fxId s.1 s.2 with
    | some (.ok state) => { h with world := h.world.setState state h.world.scan, worker := .idle }
    | _ => { h with worker := .died }
  | _ => h

end Host

def step (h : Host) : Act → Host
  | .change address data => { h with world := World.step m h.world (.change address data) }
  | .program memory data => h.program memory data
  | .deliver now => { h with world := h.world.deliver m now }
  | .pop => h.pop
  | .next => h.next m
  | .readBlock => h.readBlock m
  | .record now => { h with world := h.world.record now }
  | .resolve sliders => h.resolve sliders
  | .stop => { h with stopped := true }

/-- The first refresh is under way, and has read nothing yet. -/
def start (memory : List Nat → List Nat) : Host := ⟨.start memory, .refreshing fxTypes, false⟩

/-! ## What a refresh has still to do -/

/-- A refresh will begin later: it is queued, or the frame that queues it is on its way. -/
def Awaited (h : Host) : Prop :=
  Task.full ∈ h.world.g.queue ∨ ∃ frame ∈ h.world.inFlight, frame.1 = programChangeOffset

/-- The worker has still to record that type. -/
def Unread (fxType : String) (h : Host) : Prop :=
  match h.worker with
  | .refreshing left => fxType ∈ left ∨ h.world.scan.map (·.fxType) = some fxType
  | .died => True
  | _ => False

/-- As in `World`, where a change of a single parameter is followed by no refresh. -/
def Undisturbed (h : Host) : Act → Prop
  | .change address data => World.OwnSwitch m address data
  | .program memory _ => ∀ b, Switched m b → Labelled (memory b.switchAddress)
  | .deliver _ => ¬ Awaited h → ∀ frame rest, h.world.inFlight = frame :: rest →
    World.NothingOlder m h.world frame rest
  | _ => True

/-! ## The invariant -/

/-- The copies of a switch that no refresh will replace follow its announcements. -/
structure Following (h : Host) (b : TopBlock) : Prop where
  labelled : Labelled (h.world.memory b.switchAddress)
  held : FollowsSince (fun frame => frame.1 = programChangeOffset) (World.about m b) h.world.inFlight
    (World.heldSwitch h.world b)
  scanned : ¬ Awaited h → ∀ copy, World.scannedSwitch h.world b = some copy →
    Follows (World.queue m b h.world.inFlight) (World.heldSwitch h.world b) copy
  recorded : h.stopped = false → ¬ Awaited h → ¬ Unread b.fxType h →
    ∀ copy, World.recordedSwitch h.world b = some copy →
      Follows (World.queue m b h.world.inFlight) (World.heldSwitch h.world b) copy

structure Inv (h : Host) : Prop where
  shaped : World.Shaped m h.world
  scanning : h.world.scan = none ∨ ∃ left, h.worker = .refreshing left
  scanned : h.stopped = false → ∀ t ∈ fxTypes, ¬ Unread t h → t ∈ h.world.g.state.blocks.keys
  follows : ∀ b, Switched m b → Following m h b

section

variable {m : AddressMap} {h : Host} {b : TopBlock}

/-! ## The unit -/

theorem Following.change (hb : Switched m b) (hf : Following m h b) {address data : List Nat}
    (hok : World.OwnSwitch m address data) :
    Following m { h with world := World.step m h.world (.change address data) } b := by
  have hawaited : Awaited h →
      Awaited { h with world := World.step m h.world (.change address data) } := by
    rintro (hqueue | ⟨frame, hmem, hframe⟩)
    · exact Or.inl hqueue
    · exact Or.inr ⟨frame, List.mem_append_left _ hmem, hframe⟩
  by_cases ha : address = b.switchAddress
  · subst ha
    obtain ⟨-, hdata⟩ := hok b hb (Or.inr rfl)
    have hmemory : Function.update h.world.memory b.switchAddress data b.switchAddress = data :=
      Function.update_self ..
    have hfollows (copy : Option StrOrInt) : Follows
        (World.queue m b (h.world.inFlight ++ [(b.switchAddress, data)])) (switchLabel data) copy := by
      have hqueue : World.queue m b (h.world.inFlight ++ [(b.switchAddress, data)]) =
          World.queue m b h.world.inFlight ++ [switchLabel data] := by
        simp [World.queue, World.about_switch hb hdata]
      exact hqueue ▸ follows_change _ _ _
    constructor <;> simp only [World.step, World.heldSwitch, hmemory]
    · exact hdata
    · exact followsSince_change hf.held (World.about_switch hb hdata)
    · exact fun _ copy _ => hfollows copy
    · exact fun _ _ _ copy _ => hfollows copy
  · have hnone : World.about m b (address, data) = none := by
      by_contra hsome
      exact ha (hok b hb (Or.inl (Option.isSome_iff_ne_none.2 hsome))).1
    have hmemory : Function.update h.world.memory address data b.switchAddress =
        h.world.memory b.switchAddress := Function.update_of_ne (Ne.symm ha) ..
    have hqueue : World.queue m b (h.world.inFlight ++ [(address, data)]) =
        World.queue m b h.world.inFlight := by
      simp [World.queue, hnone]
    constructor <;> simp only [World.step, World.heldSwitch, hmemory, hqueue]
    · exact hf.labelled
    · exact followsSince_other hf.held hnone
    · exact fun hnot => hf.scanned fun h => hnot (hawaited h)
    · exact fun hs hnot => hf.recorded hs fun h => hnot (hawaited h)

theorem Following.program {memory : List Nat → List Nat} {data : List Nat}
    (hmemory : Labelled (memory b.switchAddress)) : Following m (h.program memory data) b := by
  have hawaited : Awaited (h.program memory data) :=
    Or.inr ⟨(programChangeOffset, data), List.mem_append_right _ List.mem_cons_self, rfl⟩
  exact ⟨hmemory, followsSince_reset rfl, fun hnot => absurd hawaited hnot,
    fun _ hnot => absurd hawaited hnot⟩

/-! ## The receiver -/

theorem mem_queue_processDataFromUnit {g : Gt1000} {task : Task} (hmem : task ∈ g.queue) (now : Nat)
    (offset data : List Nat) : task ∈ (g.processDataFromUnit m now offset data).1.queue := by
  have hsubmit (g : Gt1000) (other : Task) (hg : task ∈ g.queue) : task ∈ (g.submit other).queue :=
    List.mem_append_left _ hg
  unfold Gt1000.processDataFromUnit
  split
  · exact hsubmit g .full hmem
  · split
    · exact hmem
    · exact hmem
    · split
      · exact hmem
      · split
        · split
          · exact hsubmit _ _ hmem
          · exact hmem
          · exact hmem
        · exact hmem

/-- A frame that queues a refresh leaves it queued. -/
theorem Awaited.deliver (hw : Awaited h) (now : Nat) : Awaited { h with world := h.world.deliver m now } := by
  unfold World.deliver
  split
  · exact hw
  · next frame rest hflight =>
    rcases hw with hqueue | ⟨x, hmem, hx⟩
    · exact Or.inl (mem_queue_processDataFromUnit hqueue now frame.1 frame.2)
    · rcases List.mem_cons.1 (hflight ▸ hmem) with rfl | hmem
      · left
        simp only [Gt1000.processDataFromUnit, if_pos hx]
        exact List.mem_append_right _ List.mem_cons_self
      · exact Or.inr ⟨x, hmem, hx⟩

theorem Following.deliver (hb : Switched m b) (hf : Following m h b) {now : Nat}
    (hok : Undisturbed m h (.deliver now)) : Following m { h with world := h.world.deliver m now } b := by
  have hawaited : ¬ Awaited { h with world := h.world.deliver m now } → ¬ Awaited h :=
    fun hnot hw => hnot (hw.deliver now)
  revert hawaited
  unfold World.deliver
  split
  · exact fun _ => hf
  · next frame rest hflight =>
    intro hawaited
    have hframe := World.recordedSwitch_frame m h.world.g now b frame
    obtain ⟨hlabelled, hheld, hscanned, hrecorded⟩ := hf
    have hnext : ¬ Awaited h → Follows (World.queue m b h.world.inFlight) (World.heldSwitch h.world b)
        (World.heldSwitch h.world b) :=
      fun hnot => followsSince_none hheld fun x hx hprogram => hnot (Or.inr ⟨x, hx, hprogram⟩)
    simp only [hflight, World.queue, List.filterMap_cons] at hheld hscanned hrecorded hnext
    refine ⟨hlabelled, followsSince_tail hheld, fun hnot copy hcopy => ?_, fun hs hnot hunread copy hcopy => ?_⟩
    · have hcopied := hscanned (hawaited hnot) copy hcopy
      cases habout : World.about m b frame with
      | none =>
        simp only [habout] at hcopied
        exact hcopied
      | some label =>
        simp only [habout] at hcopied
        exact follows_dropped hcopied fun hlast =>
          (hok (hawaited hnot) frame rest hflight b label hb habout hlast).1 copy hcopy
    · have hbefore := hrecorded hs (hawaited hnot) hunread
      cases habout : World.about m b frame with
      | none =>
        simp only [habout] at hbefore hframe
        exact hbefore copy (hframe.symm.trans hcopy)
      | some label =>
        simp only [habout] at hbefore hframe hnext
        cases hready : h.world.g.state.isReady with
        | true =>
          rw [hready, if_pos rfl] at hframe
          obtain ⟨old, -, rfl⟩ := Option.map_eq_some_iff.1 (hframe.symm.trans hcopy)
          exact follows_applied (hnext (hawaited hnot))
        | false =>
          have hold : World.recordedSwitch h.world b = some copy := by
            rw [hready] at hframe
            exact hframe.symm.trans hcopy
          exact follows_dropped (hbefore copy hold) fun hlast =>
            (hok (hawaited hnot) frame rest hflight b label hb habout hlast).2 hready copy hold

theorem Inv.deliver (hi : Inv m h) {now : Nat} (hok : Undisturbed m h (.deliver now)) :
    Inv m { h with world := h.world.deliver m now } := by
  have hscan : (h.world.deliver m now).scan = h.world.scan := by
    unfold World.deliver
    split <;> rfl
  have hkeys (t : String) : t ∈ (h.world.deliver m now).g.state.blocks.keys ↔
      t ∈ h.world.g.state.blocks.keys := by
    unfold World.deliver
    split
    · exact Iff.rfl
    · exact Gt1000.mem_keys_processDataFromUnit
  have hsame (t : String) (hunread : Unread t h) : Unread t { h with world := h.world.deliver m now } := by
    simpa only [Unread, hscan] using hunread
  refine ⟨World.shaped_deliver hi.shaped now, hi.scanning.imp hscan.trans id, fun hs t ht hnot => ?_,
    fun b hb => (hi.follows b hb).deliver hb hok⟩
  exact (hkeys t).2 (hi.scanned hs t ht fun hunread => hnot (hsame t hunread))

/-! ## The worker -/

/-- The worker takes the oldest task. -/
theorem Inv.pop (hi : Inv m h) : Inv m h.pop := by
  unfold Host.pop
  split
  · next task rest hworker hqueue =>
    have hscan : h.world.scan = none := by
      rcases hi.scanning with hscan | ⟨left, hleft⟩
      · exact hscan
      · rw [hworker] at hleft
        cases hleft
    have hsame (t : String) (hnot : ¬ Unread t { h with worker := Worker.dispatch task }) (ht : t ∈ fxTypes) :
        task ≠ .full ∧ ¬ Unread t h := by
      refine ⟨fun hfull => hnot ?_, fun hunread => ?_⟩
      · simp only [Unread, hfull, Worker.dispatch]
        exact Or.inl ht
      · simp only [Unread, hworker] at hunread
    refine ⟨⟨hi.shaped.known, hi.shaped.complete, hi.shaped.scanning⟩, Or.inl hscan,
      fun hs t ht hnot => hi.scanned hs t ht (hsame t hnot ht).2, fun b hb => ?_⟩
    obtain ⟨hlabelled, hheld, -, hrecorded⟩ := hi.follows b hb
    refine ⟨hlabelled, hheld, fun _ copy hcopy => ?_, fun hs hnot hunread => ?_⟩
    · simp [World.scannedSwitch, hscan] at hcopy
    · obtain ⟨hfull, hunread⟩ := hsame b.fxType hunread (hb.block.1.mem_fxTypes hb.block.2.choose_spec.1)
      refine hrecorded hs (fun hw => hnot ?_) hunread
      rcases hw with hmem | hflight
      · rcases List.mem_cons.1 (hqueue ▸ hmem) with rfl | hmem
        · exact absurd rfl hfull
        · exact Or.inl hmem
      · exact Or.inr hflight
  · exact hi

/-- The worker stands elsewhere, and has no more to do than it had. -/
theorem Inv.turn (hi : Inv m h) (hscan : h.world.scan = none) {worker : Worker} {stopped : Bool}
    (hmore : stopped = false → h.stopped = false ∧ ∀ t, Unread t h → Unread t { h with worker }) :
    Inv m { h with worker, stopped } := by
  refine ⟨hi.shaped, Or.inl hscan, fun hs t ht hnot => ?_, fun b hb => ?_⟩
  · obtain ⟨hs, hmore⟩ := hmore hs
    exact hi.scanned hs t ht fun hunread => hnot (hmore t hunread)
  · obtain ⟨hlabelled, hheld, hscanned, hrecorded⟩ := hi.follows b hb
    refine ⟨hlabelled, hheld, hscanned, fun hs hnot hunread => ?_⟩
    obtain ⟨hs, hmore⟩ := hmore hs
    exact hrecorded hs hnot fun hbefore => hunread (hmore b.fxType hbefore)

/-- The loop of `refresh_state` goes on, or is over. -/
theorem Inv.next (hi : Inv m h) : Inv m (h.next m) := by
  unfold Host.next
  split
  · next hworker hscan =>
    refine hi.turn hscan fun hs => ⟨hs, fun t hunread => ?_⟩
    simp [Unread, hworker, hscan] at hunread
  · next fxType left hworker hscan =>
    split
    · next hstopped => exact hi.turn hscan fun hs => absurd (hs.symm.trans hstopped) (by decide)
    · split
      · next n hc =>
        have hbegin : h.world.beginScan m fxType =
            { h.world with scan := some ⟨fxType, List.range n, []⟩ } := by
          simp only [World.beginScan, hscan, hc]
        have hshaped := World.shaped_beginScan hi.shaped fxType
        rw [hbegin] at hshaped ⊢
        have hsame (t : String) (hunread : Unread t h) : Unread t
            ⟨{ h.world with scan := some ⟨fxType, List.range n, []⟩ }, .refreshing left, h.stopped⟩ := by
          simp only [Unread, hworker, hscan, List.mem_cons] at hunread
          rcases hunread with (rfl | hleft) | hnone
          · exact Or.inr rfl
          · exact Or.inl hleft
          · cases hnone
        refine ⟨hshaped, Or.inr ⟨left, rfl⟩, fun hs t ht hnot => ?_, fun b hb => ?_⟩
        · exact hi.scanned hs t ht fun hunread => hnot (hsame t hunread)
        · obtain ⟨hlabelled, hheld, -, hrecorded⟩ := hi.follows b hb
          refine ⟨hlabelled, hheld, fun _ copy hcopy => ?_, fun hs hnot hunread => ?_⟩
          · simp [World.scannedSwitch] at hcopy
          · exact hrecorded hs hnot fun hbefore => hunread (hsame b.fxType hbefore)
      · exact hi.turn hscan fun hs => ⟨hs, fun t _ => trivial⟩
  · exact hi

theorem Inv.stop (hi : Inv m h) : Inv m { h with stopped := true } := by
  refine ⟨hi.shaped, hi.scanning, nofun, fun b hb => ?_⟩
  obtain ⟨hlabelled, hheld, hscanned, -⟩ := hi.follows b hb
  exact ⟨hlabelled, hheld, hscanned, nofun⟩

/-- What one more pass of a scan has read of a switch: what it had, or what the unit holds. -/
theorem scannedSwitch_readBlock {w : World} (hm : Loaded m) (hb : Switched m b) (hw : World.Shaped m w)
    (hlabelled : Labelled (w.memory b.switchAddress)) {copy : Option StrOrInt}
    (hcopy : World.scannedSwitch (w.readBlock m) b = some copy) :
    World.scannedSwitch w b = some copy ∨ copy = World.heldSwitch w b := by
  unfold World.readBlock at hcopy
  split at hcopy
  · next fxType i left out hscan =>
    obtain ⟨n, hc, hleft, -⟩ := hw.scanning _ hscan
    split at hcopy
    · next s' fx hpass =>
      obtain ⟨-, hid, hread⟩ := World.readPass_spec hc hpass
      simp only [World.scannedSwitch, World.setState, Option.bind_some] at hcopy
      split at hcopy
      · next ht =>
        obtain ⟨x, hx, rfl⟩ := Option.map_eq_some_iff.1 hcopy
        rw [List.find?_append] at hx
        rcases Option.or_eq_some_iff.1 hx with hold | ⟨-, hnew⟩
        · left
          simp [World.scannedSwitch, hscan, ht, hold]
        · right
          obtain ⟨hxid, hxmem⟩ := And.intro (List.find?_some hnew) (List.mem_of_find?_eq_some hnew)
          obtain rfl : x = fx := List.mem_singleton.1 hxmem
          obtain ⟨b', hb', htype, hfxId⟩ := hm.block (hm.mem_fxTypes hc) hc (hleft i List.mem_cons_self)
          have hstr : b'.fxId.toStr = b.fxId.toStr := by
            rw [← hfxId, ← hid]
            simpa using hxid
          obtain rfl := World.block_eq_of_id hb.block.mem hb'.mem (htype.trans ht) hstr
          rw [← htype, hid, hfxId, hb.read_eq hlabelled, Except.ok.injEq] at hread
          rw [← hread]
          rfl
      · cases hcopy
    · cases hcopy
  · exact Or.inl hcopy

/-- A pass leaves the worker in the scan it is in, or the worker dies. -/
theorem readBlock_cases (h : Host) :
    ((h.readBlock m).worker = .died ∧ (h.world.readBlock m).scan = none) ∨
      ((h.readBlock m).worker = h.worker ∧
        (h.world.readBlock m).scan.map (·.fxType) = h.world.scan.map (·.fxType)) := by
  simp only [Host.readBlock]
  cases hscan : h.world.scan with
  | none => simp [World.readBlock, hscan]
  | some scan =>
    obtain ⟨fxType, left, out⟩ := scan
    cases left with
    | nil => simp [World.readBlock, hscan]
    | cons i left =>
      cases hpass : World.readPass m h.world fxType i with
      | error e => simp [World.readBlock, hscan, hpass]
      | ok r => simp [World.readBlock, hscan, hpass, World.setState]

theorem readBlock_frame {w : World} (hw : World.Shaped m w) :
    (w.readBlock m).g.state.blocks = w.g.state.blocks ∧ (w.readBlock m).g.queue = w.g.queue ∧
      (w.readBlock m).memory = w.memory ∧ (w.readBlock m).inFlight = w.inFlight := by
  unfold World.readBlock
  split
  · next fxType i left out hscan =>
    obtain ⟨n, hc, -, -⟩ := hw.scanning _ hscan
    split
    · next s' fx hpass => exact ⟨(World.readPass_spec hc hpass).1.1, rfl, rfl, rfl⟩
    · exact ⟨rfl, rfl, rfl, rfl⟩
  · exact ⟨rfl, rfl, rfl, rfl⟩

theorem Inv.readBlock (hm : Loaded m) (hi : Inv m h) : Inv m (h.readBlock m) := by
  obtain ⟨hblocks, hqueue, hmemory, hflight⟩ := readBlock_frame hi.shaped
  have hsame (t : String) (hunread : Unread t h) : Unread t (h.readBlock m) := by
    rcases readBlock_cases (m := m) h with ⟨hdied, -⟩ | ⟨hworker, hscan⟩
    · simp only [Unread, hdied]
    · unfold Unread at hunread ⊢
      rw [hworker]
      cases hw : h.worker with
      | refreshing left =>
        rw [hw] at hunread
        exact hunread.imp id hscan.trans
      | died => trivial
      | idle => simp [hw] at hunread
      | resolving => simp [hw] at hunread
  have hnot (hw : Awaited h) : Awaited (h.readBlock m) := by
    simpa only [Awaited, Host.readBlock, hqueue, hflight] using hw
  refine ⟨World.shaped_readBlock hi.shaped, ?_, fun hs t ht hun => ?_, fun b hb => ?_⟩
  · rcases readBlock_cases (m := m) h with ⟨-, hnone⟩ | ⟨hworker, hscan⟩
    · exact Or.inl hnone
    · refine hi.scanning.imp (fun hnone => ?_) fun ⟨left, hleft⟩ => ⟨left, hworker.trans hleft⟩
      rw [hnone] at hscan
      exact Option.map_eq_none_iff.1 hscan
  · change t ∈ (h.world.readBlock m).g.state.blocks.keys
    rw [hblocks]
    exact hi.scanned hs t ht fun hunread => hun (hsame t hunread)
  · obtain ⟨hlabelled, hheld, hscanned, hrecorded⟩ := hi.follows b hb
    constructor <;> simp only [Host.readBlock, World.heldSwitch, hmemory, hflight]
    · exact hlabelled
    · exact hheld
    · intro hw copy hcopy
      have hbefore : ¬ Awaited h := fun h => hw (hnot h)
      rcases scannedSwitch_readBlock hm hb hi.shaped hlabelled hcopy with hold | rfl
      · exact hscanned hbefore copy hold
      · exact followsSince_none hheld fun x hx hprogram => hbefore (Or.inr ⟨x, hx, hprogram⟩)
    · intro hs hw hunread copy hcopy
      refine hrecorded hs (fun h => hw (hnot h)) (fun h => hunread (hsame b.fxType h)) copy ?_
      simpa only [World.recordedSwitch, PatchState.switch, PatchState.block, hblocks] using hcopy

/-- The type that was scanned is recorded. -/
theorem Inv.record (hm : Loaded m) (hi : Inv m h) (now : Nat) :
    Inv m { h with world := h.world.record now } := by
  have hshaped := World.shaped_record hm hi.shaped now
  revert hshaped
  unfold World.record
  split
  · next fxType out hscan =>
    intro hshaped
    obtain ⟨left, hworker⟩ : ∃ left, h.worker = .refreshing left := by
      rcases hi.scanning with hnone | hleft
      · rw [hscan] at hnone
        cases hnone
      · exact hleft
    have hsame (t : String) (hne : t ≠ fxType) (hunread : Unread t h) :
        Unread t { h with world := h.world.setState (h.world.g.state.recordScan fxType out now) none } := by
      simp only [Unread, hworker, hscan, Option.map_some, Option.some.injEq] at hunread ⊢
      rcases hunread with hleft | hrfl
      · exact Or.inl hleft
      · exact absurd hrfl.symm hne
    refine ⟨hshaped, Or.inl rfl, fun hs t ht hnot => ?_, fun b hb => ?_⟩
    · refine AList.mem_keys.1 ((AList.mem_insert _).2 ?_)
      by_cases heq : t = fxType
      · exact Or.inl heq
      · exact Or.inr (AList.mem_keys.2 (hi.scanned hs t ht fun hunread => hnot (hsame t heq hunread)))
    · obtain ⟨hlabelled, hheld, hscanned, hrecorded⟩ := hi.follows b hb
      refine ⟨hlabelled, hheld, fun _ => nofun, fun hs hw hunread copy hcopy => ?_⟩
      simp only [World.recordedSwitch, World.setState, PatchState.switch_recordScan] at hcopy
      split at hcopy
      · next ht =>
        refine hscanned hw copy ?_
        simpa [World.scannedSwitch, hscan, ht] using hcopy
      · next ht => exact hrecorded hs hw (fun h => hunread (hsame b.fxType ht h)) copy hcopy
  · exact fun _ => hi

/-! ## The sliders of one block -/

/-- What the invariant is about in a list of blocks. -/
def switches (blocks : List FxBlock) : List (StrOrInt × Option StrOrInt) :=
  blocks.map fun fx => (fx.fxId, fx.state)

theorem switches_modifyBlock {fxId : String} {f : FxBlock → FxBlock}
    (hf : ∀ fx, (f fx).fxId = fx.fxId ∧ (f fx).state = fx.state) {blocks blocks' : List FxBlock}
    (hb : PatchState.modifyBlock fxId f blocks = some blocks') : switches blocks' = switches blocks := by
  induction blocks generalizing blocks' with
  | nil => cases hb
  | cons fx rest ih =>
    unfold PatchState.modifyBlock at hb
    split at hb
    · obtain rfl := Option.some.inj hb
      simp [switches, hf fx]
    · obtain ⟨rest', hrest, rfl⟩ := Option.map_eq_some_iff.1 hb
      simpa [switches] using ih hrest

/-- Sliders leave the ids and the switches alone. -/
theorem switches_setSliders {s s' : PatchState} {fxType : String} {fxId : StrOrInt}
    {slider1 slider2 : Option SliderValue} (hset : s.setSliders fxType fxId slider1 slider2 = .ok s') :
    s'.fxTypes = s.fxTypes ∧ ∀ t, (s'.blocks.lookup t).map switches = (s.blocks.lookup t).map switches := by
  obtain ⟨entries, hl, hset⟩ := bind_eq_ok hset
  have hl : s.blocks.lookup fxType = some entries := by
    cases h : s.blocks.lookup fxType with
    | none => simp [h] at hl
    | some x => simpa [h] using hl
  cases hmodify : PatchState.modifyBlock fxId.toStr (fun fx => { fx with slider1, slider2 }) entries with
  | none =>
    rw [hmodify] at hset
    cases hset
    exact ⟨rfl, fun _ => rfl⟩
  | some entries' =>
    rw [hmodify] at hset
    cases hset
    refine ⟨rfl, fun t => ?_⟩
    by_cases ht : t = fxType
    · subst ht
      have hsame := switches_modifyBlock (f := fun fx => { fx with slider1, slider2 })
        (fun _ => ⟨rfl, rfl⟩) hmodify
      simp [hl, hsame]
    · simp [AList.lookup_insert_ne ht]

theorem switch_eq (s : PatchState) (t id : String) : s.switch t id =
    (((s.blocks.lookup t).map switches).bind fun xs => xs.find? fun x => x.1.toStr == id).map (·.2) := by
  simp only [PatchState.switch, PatchState.block]
  cases s.blocks.lookup t with
  | none => rfl
  | some blocks => simp [switches, List.find?_map, Function.comp_def]

theorem Inv.resolve (hi : Inv m h) (sliders : Option (Option SliderValue × Option SliderValue)) :
    Inv m (h.resolve sliders) := by
  unfold Host.resolve
  split
  · next fxType fxId hworker =>
    have hscan : h.world.scan = none := by
      refine hi.scanning.resolve_right fun ⟨left, hleft⟩ => ?_
      rw [hworker] at hleft
      cases hleft
    have hnone (t : String) : ¬ Unread t h := by simp [Unread, hworker]
    split
    · next s hset =>
      obtain ⟨⟨slider1, slider2⟩, -, hset⟩ := Option.map_eq_some_iff.1 hset
      obtain ⟨htypes, hsame⟩ := switches_setSliders hset
      have hkeys (t : String) : t ∈ s.blocks.keys ↔ t ∈ h.world.g.state.blocks.keys := by
        rw [← AList.mem_keys, ← AList.mem_keys, ← AList.lookup_isSome, ← AList.lookup_isSome,
          ← Option.isSome_map (f := switches), hsame, Option.isSome_map]
      have hids (t : String) (blocks : List FxBlock) (hl : s.blocks.lookup t = some blocks) :
          Complete m t blocks := by
        have heq := hsame t
        rw [hl] at heq
        obtain ⟨blocks', hl', hmap⟩ := Option.map_eq_some_iff.1 heq.symm
        refine World.complete_of_ids (hi.shaped.complete t blocks' hl') ?_
        simpa [switches, Function.comp_def] using (congrArg (List.map Prod.fst) hmap).symm
      refine ⟨⟨⟨htypes.trans hi.shaped.known.types, fun t ht => hi.shaped.known.keys t ((hkeys t).1 ht)⟩,
        hids, hi.shaped.scanning⟩, Or.inl hscan,
        fun hs t ht _ => (hkeys t).2 (hi.scanned hs t ht (hnone t)), fun b hb => ?_⟩
      obtain ⟨hlabelled, hheld, hscanned, hrecorded⟩ := hi.follows b hb
      refine ⟨hlabelled, hheld, hscanned, fun hs hw _ copy hcopy => hrecorded hs hw (hnone _) copy ?_⟩
      simpa only [World.recordedSwitch, World.setState, switch_eq, hsame] using hcopy
    · exact hi.turn hscan fun hs => ⟨hs, fun t _ => trivial⟩
  · exact hi

/-! ## Runs -/

theorem inv_step (hm : Loaded m) (hi : Inv m h) (act : Act) (hok : Undisturbed m h act) :
    Inv m (step m h act) := by
  cases act with
  | change address data =>
    exact ⟨World.shaped_step hm hi.shaped (.change address data), hi.scanning, hi.scanned,
      fun b hb => (hi.follows b hb).change hb hok⟩
  | program memory data =>
    exact ⟨⟨hi.shaped.known, hi.shaped.complete, hi.shaped.scanning⟩, hi.scanning, hi.scanned,
      fun b hb => .program (hok b hb)⟩
  | deliver now => exact hi.deliver hok
  | pop => exact hi.pop
  | next => exact hi.next
  | readBlock => exact hi.readBlock hm
  | record now => exact hi.record hm now
  | resolve sliders => exact hi.resolve sliders
  | stop => exact hi.stop

theorem inv_start {memory : List Nat → List Nat}
    (hmemory : ∀ b, Switched m b → Labelled (memory b.switchAddress)) : Inv m (start memory) := by
  refine ⟨(World.inv_start hmemory).1, Or.inl rfl, fun _ t ht hnot => absurd (Or.inl ht) hnot, fun b hb => ?_⟩
  exact ⟨hmemory b hb, followsSince_nil, fun _ => nofun, fun _ _ _ => nofun⟩

/-- Nothing is under way, and the worker waits for work. -/
structure Quiet (h : Host) : Prop where
  inFlight : h.world.inFlight = []
  queue : h.world.g.queue = []
  idle : h.worker = .idle
  running : h.stopped = false

/-- **A program change is followed up**: in any interleaving of program changes, changes of single
parameters, deliveries and steps of the worker, if no change of a single parameter leaves an older
copy behind that no refresh replaces, then with nothing under way every type is recorded, and every
switch of them, the preamps apart, as the unit has it. -/
theorem program_changes_followed (hm : Loaded m) {memory : List Nat → List Nat}
    (hmemory : ∀ b, Switched m b → Labelled (memory b.switchAddress)) {acts : List Act}
    (hrun : Runs.Guarded (step m) (Undisturbed m) (start memory) acts)
    (hq : Quiet (Runs.run (step m) (start memory) acts)) :
    (∀ t ∈ fxTypes, t ∈ (Runs.run (step m) (start memory) acts).world.g.state.blocks.keys) ∧
      World.InSync m (Runs.run (step m) (start memory) acts).world := by
  have hinv := Runs.invariant (inv_start hmemory) (fun _ act hok hI => inv_step hm hI act hok) hrun
  have hnot : ¬ Awaited (Runs.run (step m) (start memory) acts) := by
    simp [Awaited, hq.queue, hq.inFlight]
  have hunread (t : String) : ¬ Unread t (Runs.run (step m) (start memory) acts) := by
    simp [Unread, hq.idle]
  have hscan : (Runs.run (step m) (start memory) acts).world.scan = none := by
    refine hinv.scanning.resolve_right fun ⟨left, hleft⟩ => ?_
    rw [hq.idle] at hleft
    cases hleft
  have hkeys : ∀ t ∈ fxTypes, t ∈ (Runs.run (step m) (start memory) acts).world.g.state.blocks.keys :=
    fun t ht => hinv.scanned hq.running t ht (hunread t)
  refine ⟨hkeys, World.inSync_of_inv hm ⟨hinv.shaped, fun b hb => ?_⟩ ⟨hq.inFlight, hscan, hkeys⟩⟩
  obtain ⟨hlabelled, hheld, hscanned, hrecorded⟩ := hinv.follows b hb
  refine ⟨hlabelled, ?_, fun copy hcopy => ?_, fun copy hcopy => ?_⟩
  · exact followsSince_none hheld fun x hx hprogram => hnot (Or.inr ⟨x, hx, hprogram⟩)
  · exact hrecorded hq.running hnot (hunread _) copy hcopy
  · exact hscanned hnot copy hcopy

/-! ## One refresh -/

/-- The step of `World` as the worker takes it here, where it goes by its own list of types. -/
def ofWorld : World.Act → Act
  | .change address data => .change address data
  | .deliver now => .deliver now
  | .beginScan _ => .next
  | .readBlock => .readBlock
  | .record now => .record now

/-- What the worker does for the types left of a refresh. -/
def refreshActs (m : AddressMap) (clock : String → Nat) (left : List String) : List Act :=
  (World.refreshActs m clock left).map ofWorld ++ [.next]

theorem run_readBlocks (h : Host) {k : Nat}
    (hk : (Runs.run (World.step m) h.world (List.replicate k .readBlock)).scan ≠ none) :
    Runs.run (step m) h (List.replicate k .readBlock) =
      { h with world := Runs.run (World.step m) h.world (List.replicate k .readBlock) } := by
  induction k with
  | zero => rfl
  | succ k ih =>
    rw [List.replicate_succ', Runs.run_concat] at hk
    rw [List.replicate_succ', List.replicate_succ', Runs.run_concat, Runs.run_concat, ih fun hnone => hk ?_]
    · simp only [step, Host.readBlock]
      rw [if_neg fun hdied => hk hdied.2]
      rfl
    · simp only [World.step, World.readBlock, hnone]

theorem run_scanActs {w : World} {t : String} {left : List String} {s' : PatchState} {states : List FxBlock}
    {clock : String → Nat} (hscan : w.scan = none)
    (hsnap : BlockSnapshot.snapshotAll m (World.reading w.memory) w.g.state t = .ok (s', states)) :
    Runs.run (step m) ⟨w, .refreshing (t :: left), false⟩ ((World.scanActs m clock t).map ofWorld) =
      ⟨Runs.run (World.step m) w (World.scanActs m clock t), .refreshing left, false⟩ := by
  obtain ⟨n, hc, hreads⟩ := bind_eq_ok hsnap
  have hbegin := World.beginScan_eq hscan hc
  have hrun := World.run_snapshotFrom (w := World.step m w (.beginScan t)) (by rw [hbegin])
    (by rw [hbegin]; exact hreads)
  rw [List.length_range] at hrun
  have hnext : step m ⟨w, .refreshing (t :: left), false⟩ .next =
      ⟨World.step m w (.beginScan t), .refreshing left, false⟩ := by
    simp [step, Host.next, World.step, hscan, hc]
  have hall := run_readBlocks ⟨World.step m w (.beginScan t), .refreshing left, false⟩ (k := n) (m := m)
    (by rw [hrun]; exact Option.some_ne_none _)
  simp only [World.scanActs, hc, List.map_cons, List.map_append, List.map_replicate, List.map_nil, ofWorld,
    Runs.run_cons, Runs.run_append, Runs.run_nil, hnext, hall]
  rfl

/-- A refresh takes the steps of `World`. -/
theorem run_ofWorld {w : World} {ts : List String} {s' : PatchState} {clock : String → Nat}
    (hscan : w.scan = none)
    (hok : Gt1000.refreshFrom m (World.reading w.memory) false clock w.g.state ts = .ok s') :
    Runs.run (step m) ⟨w, .refreshing ts, false⟩ ((World.refreshActs m clock ts).map ofWorld) =
      ⟨Runs.run (World.step m) w (World.refreshActs m clock ts), .refreshing [], false⟩ := by
  induction ts generalizing w with
  | nil => rfl
  | cons t ts ih =>
    simp only [Gt1000.refreshFrom, Bool.false_eq_true, if_false] at hok
    obtain ⟨⟨s1, states⟩, hsnap, hok⟩ := bind_eq_ok hok
    have hscanned : Runs.run (World.step m) w (World.scanActs m clock t) =
        w.setState (s1.recordScan t states (clock t)) none := World.run_scanActs hscan hsnap
    rw [World.refreshActs, List.flatMap_cons, List.map_append, Runs.run_append, Runs.run_append,
      run_scanActs hscan hsnap, hscanned]
    exact ih rfl hok

/-- **Uninterrupted, the worker's steps are `refresh_state`.** -/
theorem run_refreshFrom {w : World} {ts : List String} {s' : PatchState} {clock : String → Nat}
    (hscan : w.scan = none)
    (hok : Gt1000.refreshFrom m (World.reading w.memory) false clock w.g.state ts = .ok s') :
    Runs.run (step m) ⟨w, .refreshing ts, false⟩ (refreshActs m clock ts) =
      ⟨w.setState s' none, .idle, false⟩ := by
  rw [refreshActs, Runs.run_append, run_ofWorld hscan hok, World.run_refreshFrom hscan hok]
  rfl

end

/-- A refresh, a program in which everything is on, and the refresh that follows. -/
def programActs : List Act :=
  refreshActs addressMap (fun _ => 0) fxTypes ++ [.program (World.constant 1) [0], .deliver 0, .pop] ++
    refreshActs addressMap (fun _ => 0) fxTypes

theorem undisturbed_refreshActs (ts : List String) :
    ∀ act ∈ refreshActs addressMap (fun _ => 0) ts, ∀ h, Undisturbed addressMap h act := by
  intro act hact h
  rcases List.mem_append.1 hact with hact | hact
  · obtain ⟨act, hmem, rfl⟩ := List.mem_map.1 hact
    rcases World.mem_refreshActs hmem with ⟨t, rfl⟩ | rfl | ⟨now, rfl⟩ <;> trivial
  · rw [List.mem_singleton.1 hact]; trivial

theorem program_changes_on :
    (∀ t ∈ fxTypes, t ∈ (Runs.run (step addressMap) (start (World.constant 0)) programActs).world.g.state.blocks.keys) ∧
      World.InSync addressMap (Runs.run (step addressMap) (start (World.constant 0)) programActs).world := by
  obtain ⟨s, hs⟩ := World.refresh_constant (v := 0) (by decide) PatchState.known_fresh
  have hknown := (scanned_of_refreshState (Or.inl rfl) PatchState.known_fresh hs).toKnown
  obtain ⟨s', hs'⟩ := World.refresh_constant (v := 1) (by decide) hknown
  rw [Gt1000.refreshState, hknown.types] at hs'
  have hfirst : Runs.run (step addressMap) (start (World.constant 0)) (refreshActs addressMap (fun _ => 0) fxTypes) =
      ⟨⟨World.constant 0, [], ⟨s, []⟩, none⟩, .idle, false⟩ :=
    run_refreshFrom (w := .start (World.constant 0)) rfl hs
  have hchange : Runs.run (step addressMap) ⟨⟨World.constant 0, [], ⟨s, []⟩, none⟩, .idle, false⟩
      [.program (World.constant 1) [0], .deliver 0, .pop] =
        ⟨⟨World.constant 1, [], ⟨s, []⟩, none⟩, .refreshing fxTypes, false⟩ := rfl
  have hsecond : Runs.run (step addressMap) ⟨⟨World.constant 1, [], ⟨s, []⟩, none⟩, .refreshing fxTypes, false⟩
      (refreshActs addressMap (fun _ => 0) fxTypes) = ⟨⟨World.constant 1, [], ⟨s', []⟩, none⟩, .idle, false⟩ :=
    run_refreshFrom (w := ⟨World.constant 1, [], ⟨s, []⟩, none⟩) rfl hs'
  refine program_changes_followed (Or.inl rfl) (fun b _ => ⟨0, "OFF", rfl, rfl⟩) ?_ ?_
  · have hguard (h : Host) : Runs.Guarded (step addressMap) (Undisturbed addressMap) h
        (refreshActs addressMap (fun _ => 0) fxTypes) :=
      Runs.guarded_of_forall fun act hact h => undisturbed_refreshActs fxTypes act hact h
    rw [programActs, Runs.guarded_append, Runs.guarded_append, hfirst]
    refine ⟨⟨hguard _, fun b _ => ⟨1, "ON", rfl, rfl⟩, fun hnot => absurd ?_ hnot, trivial, trivial⟩, hguard _⟩
    exact Or.inr ⟨_, List.mem_cons_self, rfl⟩
  · rw [programActs, Runs.run_append, Runs.run_append, hfirst, hchange, hsecond]
    exact ⟨rfl, rfl, rfl, rfl⟩

end Pygt1000.ProgramChanges
