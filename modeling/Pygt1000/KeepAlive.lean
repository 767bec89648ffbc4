import Pygt1000.Basic
import Pygt1000.Constants
import Pygt1000.Lib.Runs
import Mathlib.Logic.Function.Basic

/-!
# Reopening a unit that stopped answering (`keepalive.py`, `editor_session.py:63-84`, `transport.py`)

| here | there |
| --- | --- |
| `Transport.open`, `Transport.close` | `RtMidiTransport.open` / `close` (`transport.py:153-185`) |
| `openSession`, `reopen`  | `EditorSession.open` / `reopen` (`editor_session.py:63-84`) |
| `check`                  | `KeepAlive.check` (`keepalive.py:61-69`), with the facade's `on_unresponsive` (`gt1000.py:56-62`) |
| `advance`                | the worker loop and its sleep (`keepalive.py:92-105`) |

The names of the ports go from the caller of `open_ports` through the session to the transport. The
keepalive's action is `reopen` without arguments, whose defaults stand in for the names, so a unit
that was opened under other names is not the one that is reopened (`reopens_same_ports_iff`).

What rtmidi lists and whether its ports open is a parameter of each call (`Found`), and so is what
the handshake on the link comes to. A `reopen` is one step here: what another thread does between
its `close` and its `open` changes neither what it asks for nor whether there are ports to close.
-/

namespace Pygt1000.KeepAlive

/-- `MIDI_PORT` (`transport.py:29`). -/
def midiPort : String := "GT-1000:GT-1000 MIDI 1"

/-- What a call comes to: it returns a truth value, or raises. -/
inductive Outcome where
  | returned (up : Bool)
  | raised
deriving DecidableEq, Repr

/-- Opening one port: it opens, is broken off by `EOFError` or `KeyboardInterrupt`, or raises
anything else. -/
inductive PortOpen where
  | opened
  | brokenOff
  | raised
deriving DecidableEq, Repr

/-- What `_get_midi_exact_port_names` finds, and what the two ports do when they are opened. -/
structure Found where
  exactIn : Option String
  exactOut : Option String
  outPort : PortOpen
  inPort : PortOpen
deriving DecidableEq, Repr

/-! ## The transport -/

/-- `midiIn` and `midiOut` tell whether there is a port object. -/
structure Transport where
  inPortname : String
  outPortname : String
  midiIn : Bool
  midiOut : Bool
deriving DecidableEq, Repr

/-- `__init__` (`transport.py:114-119`). -/
def Transport.fresh : Transport := ⟨midiPort, midiPort, false, false⟩

/-- `open` (`transport.py:153-181`). -/
def Transport.open (t : Transport) (inPortname outPortname : Option String) (found : Found) :
    Transport × Outcome :=
  let t := { t with inPortname := inPortname.getD t.inPortname,
                    outPortname := outPortname.getD t.outPortname }
  match found.exactIn, found.exactOut with
  | some exactIn, some exactOut =>
    let t := { t with inPortname := exactIn, outPortname := exactOut }
    match found.outPort with
    | .brokenOff => (t, .returned false)
    | .raised => (t, .raised)
    | .opened =>
      let t := { t with midiOut := true }
      match found.inPort with
      | .brokenOff => (t, .returned false)
      | .raised => (t, .raised)
      | .opened => ({ t with midiIn := true }, .returned true)
  | _, _ => (t, .returned false)

/-- `close` (`transport.py:183-185`) of ports that are not there raises. -/
def Transport.close (t : Transport) : Except PyErr Unit :=
  if t.midiOut && t.midiIn then .ok () else .error .attributeError

/-- A call the session makes on the transport. -/
inductive TransportCall where
  | open (inPortname outPortname : Option String)
  | close
deriving DecidableEq, Repr

/-! ## The session and the check -/

/-- `EditorSession.open` (`editor_session.py:63-68`). -/
def openSession (t : Transport) (inPortname outPortname : String) (found : Found)
    (handshake : Outcome) : Transport × Outcome :=
  match t.open (some inPortname) (some outPortname) found with
  | (t, .returned true) => (t, handshake)
  | r => r

/-- `reopen` (`editor_session.py:74-84`), and the calls it makes on the transport. -/
def reopen (t : Transport) (inPortname outPortname : String) (found : Found) (handshake : Outcome) :
    Transport × List TransportCall × Outcome :=
  match t.close with
  | .error _ => (t, [.close], .raised)
  | .ok () =>
    let opened := openSession t inPortname outPortname found handshake
    (opened.1, [.close, .open (some inPortname) (some outPortname)], opened.2)

/-- `check` (`keepalive.py:61-69`) with what the poll returned; `on_unresponsive` calls `reopen`
without arguments. -/
def check (t : Transport) (data : Option (List Nat)) (found : Found) (handshake : Outcome) :
    Transport × List TransportCall × Outcome :=
  if data = some editorReply3 then (t, [], .returned true)
  else
    match reopen t midiPort midiPort found handshake with
    | (t, calls, .returned _) => (t, calls, .returned false)
    | (t, calls, .raised) => (t, calls, .raised)

/-! ## The system -/

/-- Where a worker stands. -/
inductive Pc where
  | idle
  /-- At `while not self._stopped`. -/
  | looping
  /-- In `_sleep_interval`, `left` chunks before the end. -/
  | sleeping (left : Nat)
  /-- In `check`. -/
  | checking
  /-- The worker left `_run`, by the flag or by an exception. -/
  | exited
deriving DecidableEq, Repr

/-- `names` is a history, the names `open_ports` was called with last; no step reads it. -/
structure System where
  transport : Transport
  names : String × String
  stopped : Bool
  pc : Nat → Pc

inductive Act where
  | openPorts (inPortname outPortname : String) (found : Found) (handshake : Outcome)
  | closePorts
  | start (i : Nat)
  | stop
  /-- Worker `i` reads the stop flag, and sleeps for a chunk of its interval. -/
  | advance (i : Nat)
  /-- The poll of worker `i` returns `data`, and `check` goes on with it. -/
  | poll (i : Nat) (data : Option (List Nat)) (found : Found) (handshake : Outcome)
  /-- The poll of worker `i` raises. -/
  | pollRaises (i : Nat)
deriving DecidableEq, Repr

def System.setPc (s : System) (i : Nat) (pc : Pc) : System := { s with pc := Function.update s.pc i pc }

/-- `open_ports` on a new facade. -/
def opened (inPortname outPortname : String) (found : Found) (handshake : Outcome) : System :=
  ⟨(openSession .fresh inPortname outPortname found handshake).1, (inPortname, outPortname), false,
    fun _ => .idle⟩

/-- `INTERVAL_SEC / POLL_SEC` (`keepalive.py:36-37`). -/
def chunks : Nat := 10

/-- The next step of worker `i` outside `check` (`keepalive.py:92-105`). -/
def advance (s : System) (i : Nat) : System :=
  match s.pc i with
  | .looping => s.setPc i (if s.stopped then .exited else .sleeping chunks)
  | .sleeping 0 => s.setPc i (if s.stopped then .exited else .checking)
  | .sleeping (left + 1) => s.setPc i (if s.stopped then .exited else .sleeping left)
  | _ => s

def step (s : System) : Act → System
  | .openPorts inPortname outPortname found handshake =>
    { s with transport := (openSession s.transport inPortname outPortname found handshake).1,
             names := (inPortname, outPortname) }
  -- Closing ports that are not there raises to the caller; the transport is what it was.
  | .closePorts => s
  | .start i => match s.pc i with
    | .idle => { s with stopped := false }.setPc i .looping
    | _ => s
  | .stop => { s with stopped := true }
  | .advance i => advance s i
  | .poll i data found handshake => match s.pc i with
    | .checking =>
      let checked := check s.transport data found handshake
      { s with transport := checked.1 }.setPc i (if checked.2.2 = Outcome.raised then .exited else .looping)
    | _ => s
  | .pollRaises i => match s.pc i with
    | .checking => s.setPc i .exited
    | _ => s

abbrev run (s : System) (acts : List Act) : System := Runs.run step s acts

/-- A reopen that was triggered: the names the user had passed, and its calls on the transport. -/
structure Reopened where
  names : String × String
  calls : List TransportCall
deriving DecidableEq, Repr

/-- The step is a check that finds the unit unresponsive. -/
def Unresponsive (s : System) : Act → Prop
  | .poll i data _ _ => s.pc i = .checking ∧ data ≠ some editorReply3
  | _ => False

instance (s : System) : DecidablePred (Unresponsive s)
  | .poll _ _ _ _ => inferInstanceAs (Decidable (_ ∧ _))
  | .openPorts .. | .closePorts | .start _ | .stop | .advance _ | .pollRaises _ => isFalse id

/-- The reopens a step triggers. -/
def reopens (s : System) (a : Act) : List Reopened :=
  match a with
  | .poll _ data found handshake =>
    if Unresponsive s a then [⟨s.names, (check s.transport data found handshake).2.1⟩] else []
  | _ => []

/-- It asks for the ports the user opened. -/
def Reopened.Same (r : Reopened) : Prop :=
  r.calls = [.close, .open (some r.names.1) (some r.names.2)]

instance (r : Reopened) : Decidable r.Same := inferInstanceAs (Decidable (_ = _))

/-- Where the unit is found unresponsive, the user had opened the default ports, and they are there
to be closed. -/
def DefaultPorts (s : System) (a : Act) : Prop :=
  Unresponsive s a → s.names = (midiPort, midiPort) ∧ s.transport.close = .ok ()

/-! ## What a reopen asks for -/

theorem check_calls {t : Transport} {data : Option (List Nat)} (hdata : data ≠ some editorReply3)
    (found : Found) (handshake : Outcome) :
    (check t data found handshake).2.1 =
      if t.close = .ok () then [.close, .open (some midiPort) (some midiPort)] else [.close] := by
  have hreopen : (check t data found handshake).2.1 = (reopen t midiPort midiPort found handshake).2.1 := by
    rw [check, if_neg hdata]
    rcases reopen t midiPort midiPort found handshake with ⟨t', calls, up | _⟩ <;> rfl
  rw [hreopen, reopen]
  cases hclose : t.close with
  | error e => simp
  | ok u => simp

/-- A reopen asks for the same ports exactly if they are the default ones. -/
theorem reopens_same_iff (s : System) (a : Act) : (∀ r ∈ reopens s a, r.Same) ↔ DefaultPorts s a := by
  by_cases hun : Unresponsive s a
  · cases a with
    | poll i data found handshake =>
      have hone : reopens s (.poll i data found handshake) =
          [⟨s.names, (check s.transport data found handshake).2.1⟩] := if_pos hun
      rw [hone, List.forall_mem_singleton, Reopened.Same, check_calls hun.2, DefaultPorts]
      obtain ⟨inPortname, outPortname⟩ := s.names
      by_cases hclose : s.transport.close = .ok ()
      · simp [hun, hclose, eq_comm]
      · simp [hun, hclose]
    | _ => cases hun
  · have hnone : reopens s a = [] := by
      cases a with
      | poll i data found handshake => rw [reopens, if_neg hun]
      | _ => rfl
    rw [hnone]
    exact iff_of_true (by simp) fun h => absurd h hun

/-- **Recovery reopens the ports the user opened, exactly** in the runs in which, whenever the unit
is found unresponsive, the names `open_ports` was last called with are the default ones (and there
are ports to close): for every pair of names, every state of the ports, and every run of the
keepalive's workers, the user and the unit. -/
theorem reopens_same_ports_iff (inPortname outPortname : String) (found : Found) (handshake : Outcome)
    (acts : List Act) :
    (∀ r ∈ Runs.outputs step reopens (opened inPortname outPortname found handshake) acts, r.Same) ↔
      Runs.Guarded step DefaultPorts (opened inPortname outPortname found handshake) acts :=
  (Runs.forall_outputs_iff acts).trans (Runs.guarded_congr reopens_same_iff acts)

/-- Both ports are there, under a longer name, and open. -/
def present (name : String) : Found := ⟨some (name ++ " 20:0"), some (name ++ " 20:0"), .opened, .opened⟩

/-- A worker sleeps its interval, and its poll gets no reply. -/
def unanswered : List Act :=
  .start 0 :: (List.replicate (chunks + 2) (.advance 0) ++ [.poll 0 none (present midiPort) (.returned true)])

/-- A unit that was opened as `"GT-1000CORE"` is reopened as the default one. -/
theorem reopens_other_ports :
    Runs.outputs step reopens (opened "GT-1000CORE" "GT-1000CORE" (present "GT-1000CORE") (.returned true))
        unanswered =
      [⟨("GT-1000CORE", "GT-1000CORE"), [.close, .open (some midiPort) (some midiPort)]⟩] ∧
    ¬ Reopened.Same ⟨("GT-1000CORE", "GT-1000CORE"), [.close, .open (some midiPort) (some midiPort)]⟩ := by
  decide

end Pygt1000.KeepAlive
