import Pygt1000.Echo
import Pygt1000.Lib.Runs

/-!
# The unit, the receiver and the refresh worker

The three parties as one step function; a list of actions is an interleaving.

| here | there |
| --- | --- |
| `World.memory`  | the unit's memory: an address holds the bytes of the parameter there |
| `change`        | the unit changes a parameter, and announces it in one data frame |
| `deliver`       | `_process_data_from_unit` on the oldest frame under way (`gt1000.py:276-298`) |
| `beginScan`, `readBlock` | the loop of `snapshot_all`, one block a step (`block_snapshot.py:137-143`) |
| `record`        | `record_scan` with what the loop returned (`gt1000.py:161-164`) |

The lock is held in `apply` and in `record_scan`, not from the first read of a scan to its end, so
the other two parties take their steps anywhere in between. A block's switch is read before
anything else of it: for the switch, a change later in the same pass is one after the pass. A pass
that raises ends the scan. Uninterrupted, the steps of the worker are `refreshState`
(`run_refreshFrom`).
-/

namespace Pygt1000

open Specs

/-- A scan under way: the numbers of the blocks still to read, and the blocks read. -/
structure BlockScan where
  fxType : String
  left : List Nat
  out : List FxBlock

structure World where
  memory : List Nat → List Nat
  inFlight : List (List Nat × List Nat)
  g : Gt1000
  scan : Option BlockScan

namespace World

inductive Act where
  | change (address data : List Nat)
  | deliver (now : Nat)
  | beginScan (fxType : String)
  | readBlock
  | record (now : Nat)

/-- A request for the bytes at an address; short data is padded. -/
def reading (memory : List Nat → List Nat) : Fetch :=
  fun address length => some ((memory address).takeD (length.getLastD 0) 0)

theorem exact_reading (memory : List Nat → List Nat) : Exact (reading memory) := by
  intro address width data h
  simp only [reading, Option.some.injEq] at h
  simp [← h, List.takeD_length]

variable (m : AddressMap)

/-- One pass of the loop of `snapshot_all`, for block number `i + 1`. -/
def readPass (w : World) (fxType : String) (i : Nat) : Except PyErr (PatchState × FxBlock) := do
  let (fxType', fxId) ← m.normalizeBlock fxType (.int (i + 1))
  BlockSnapshot.snapshot m (reading w.memory) w.g.state fxType' fxId true

def setState (w : World) (state : PatchState) (scan : Option BlockScan) : World :=
  { w with g := { w.g with state }, scan }

def beginScan (w : World) (fxType : String) : World :=
  match w.scan, m.fxBlockCount fxType with
  | none, .ok n => { w with scan := some ⟨fxType, List.range n, []⟩ }
  | _, _ => w

def readBlock (w : World) : World :=
  match w.scan with
  | some ⟨fxType, i :: left, out⟩ =>
    match readPass m w fxType i with
    | .ok (state, fx) => w.setState state (some ⟨fxType, left, out ++ [fx]⟩)
    | .error _ => { w with scan := none }
  | _ => w

def record (w : World) (now : Nat) : World :=
  match w.scan with
  | some ⟨fxType, [], out⟩ => w.setState (w.g.state.recordScan fxType out now) none
  | _ => w

def deliver (w : World) (now : Nat) : World :=
  match w.inFlight with
  | [] => w
  | frame :: rest =>
    { w with inFlight := rest, g := (w.g.processDataFromUnit m now frame.1 frame.2).1 }

def step (w : World) : Act → World
  | .change address data =>
    { w with memory := Function.update w.memory address data
             inFlight := w.inFlight ++ [(address, data)] }
  | .deliver now => w.deliver m now
  | .beginScan fxType => w.beginScan m fxType
  | .readBlock => w.readBlock m
  | .record now => w.record now

/-- Nothing known, nothing under way. -/
def start (memory : List Nat → List Nat) : World := ⟨memory, [], .fresh, none⟩

/-! ## The steps of a refresh -/

/-- What the worker does for one fx type, and for several. -/
def scanActs (clock : String → Nat) (fxType : String) : List Act :=
  match m.fxBlockCount fxType with
  | .ok n => .beginScan fxType :: (List.replicate n .readBlock ++ [.record (clock fxType)])
  | .error _ => []

def refreshActs (clock : String → Nat) (fxTypes : List String) : List Act :=
  fxTypes.flatMap (scanActs m clock)

variable {m} {w : World} {s' : PatchState} {clock : String → Nat}

/-- The worker's own steps only. -/
theorem mem_refreshActs {fxTypes : List String} {act : Act} (h : act ∈ refreshActs m clock fxTypes) :
    (∃ fxType, act = .beginScan fxType) ∨ act = .readBlock ∨ ∃ now, act = .record now := by
  obtain ⟨t, -, h⟩ := List.mem_flatMap.1 h
  unfold scanActs at h
  split at h
  · rcases List.mem_cons.1 h with rfl | h
    · exact Or.inl ⟨t, rfl⟩
    · rcases List.mem_append.1 h with h | h
      · exact Or.inr (Or.inl (List.eq_of_mem_replicate h))
      · exact Or.inr (Or.inr ⟨_, List.mem_singleton.1 h⟩)
  · cases h

theorem beginScan_eq {fxType : String} {n : Nat} (hscan : w.scan = none)
    (hc : m.fxBlockCount fxType = .ok n) :
    step m w (.beginScan fxType) = { w with scan := some ⟨fxType, List.range n, []⟩ } := by
  simp only [step, beginScan, hscan, hc]

theorem readBlock_eq {fxType : String} {i : Nat} {left : List Nat} {out : List FxBlock} {fx : FxBlock}
    (hscan : w.scan = some ⟨fxType, i :: left, out⟩) (h : readPass m w fxType i = .ok (s', fx)) :
    step m w .readBlock = w.setState s' (some ⟨fxType, left, out ++ [fx]⟩) := by
  simp only [step, readBlock, hscan, h]

theorem readPass_eq {fxType : String} {n : Nat} (hc : m.fxBlockCount fxType = .ok n) (i : Nat) :
    readPass m w fxType i = BlockSnapshot.snapshot m (reading w.memory) w.g.state fxType
      (AddressMap.normalId n fxType (.int (i + 1))) true := by
  simp only [readPass, BlockSnapshot.normalizeBlock_eq hc, ok_bind]

theorem run_snapshotFrom {fxType : String} {is : List Nat} {out out' : List FxBlock}
    (hscan : w.scan = some ⟨fxType, is, out⟩)
    (h : BlockSnapshot.snapshotFrom m (reading w.memory) fxType w.g.state is = .ok (s', out')) :
    Runs.run (step m) w (List.replicate is.length .readBlock) =
      w.setState s' (some ⟨fxType, [], out ++ out'⟩) := by
  induction is generalizing w out out' with
  | nil =>
    cases h
    simp [setState, ← hscan]
  | cons i is ih =>
    obtain ⟨⟨fxType', fxId⟩, hnorm, h⟩ := bind_eq_ok h
    obtain ⟨⟨s1, fx⟩, hfx, h⟩ := bind_eq_ok h
    obtain ⟨⟨s2, rest⟩, hrest, h⟩ := bind_eq_ok h
    cases h
    have hpass : readPass m w fxType i = .ok (s1, fx) := by
      simp only [readPass, hnorm, ok_bind]
      exact hfx
    rw [List.length_cons, List.replicate_succ, Runs.run_cons, readBlock_eq hscan hpass, ih rfl hrest]
    simp [setState]

theorem run_scanActs {fxType : String} {states : List FxBlock} (hscan : w.scan = none)
    (h : BlockSnapshot.snapshotAll m (reading w.memory) w.g.state fxType = .ok (s', states)) :
    Runs.run (step m) w (scanActs m clock fxType) =
      w.setState (s'.recordScan fxType states (clock fxType)) none := by
  obtain ⟨n, hc, h⟩ := bind_eq_ok h
  have hreads := run_snapshotFrom (w := { w with scan := some ⟨fxType, List.range n, []⟩ }) rfl h
  rw [List.length_range] at hreads
  simp only [scanActs, hc, Runs.run_cons, beginScan_eq hscan hc, Runs.run_append, hreads, Runs.run_nil]
  rfl

/-- **Uninterrupted, the worker's steps are `refresh_state`.** -/
theorem run_refreshFrom {ts : List String} (hscan : w.scan = none)
    (h : Gt1000.refreshFrom m (reading w.memory) false clock w.g.state ts = .ok s') :
    Runs.run (step m) w (refreshActs m clock ts) = w.setState s' none := by
  induction ts generalizing w with
  | nil =>
    cases h
    simp [refreshActs, setState, ← hscan]
  | cons t ts ih =>
    simp only [Gt1000.refreshFrom, Bool.false_eq_true, if_false] at h
    obtain ⟨⟨s1, states⟩, hsnap, h⟩ := bind_eq_ok h
    rw [refreshActs, List.flatMap_cons, Runs.run_append, run_scanActs hscan hsnap]
    exact ih rfl h

end World

end Pygt1000
