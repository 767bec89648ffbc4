import Pygt1000.Lib.Runs
import Mathlib.Data.List.Count
import Mathlib.Data.List.Perm.Subperm

/-!
# The refresh queue and its wakeup (`refresh_scheduler.py`)

| here | there |
| --- | --- |
| `submit`, `stop`        | `RefreshScheduler.submit` / `stop` (`refresh_scheduler.py:61-65`, `:103-106`) |
| `drainLocked`           | one pass of the locked block of `drain` (`:82-86`) |
| `Act.returns`, `Act.raises` | the unlocked `_dispatch(task)` that follows a pop (`:87-93`) |
| `Act.start`, `check`, `wake`, `timeout` | `start` and the worker loop `_run` (`:97-101`, `:121-124`) |

A thread takes the lock for `submit` and for one pass of `drain`; everything else it does is
unlocked. An action is one such locked block or one unlocked step, so the states between two
actions are the moments the lock is free. `stop` sets the event without the lock: a `stop`
that falls inside a locked block leaves the queue alone and acts as if it came just before the
block (the block clears the event afterwards) or just after it.

`popped` and `dispatched` are histories, with the thread that made each entry; no step reads them.
-/

namespace Pygt1000.RefreshScheduler

variable {τ : Type}

/-- Where a thread stands. `worker` tells a `_run` loop from a direct call of `drain`. -/
inductive Pc (τ : Type) where
  /-- Outside this module. -/
  | idle
  /-- At `while not self._stopped`. -/
  | check
  /-- Inside `self._event.wait(..)`. -/
  | waiting
  /-- At the top of `drain`'s `while True`. -/
  | draining (worker : Bool)
  /-- Popped `task`, about to call (or inside) its handler. -/
  | dispatching (worker : Bool) (task : τ)
  /-- The worker left `_run`, by the flag or by an exception. -/
  | exited
deriving DecidableEq, Repr

/-- The task a thread has popped and not yet finished with. -/
def Pc.inHand : Pc τ → List τ
  | .dispatching _ task => [task]
  | _ => []

/-- Where `drain` returns to. -/
def afterDrain (worker : Bool) : Pc τ := if worker then .check else .idle

structure Scheduler (τ : Type) where
  queue : List τ
  event : Bool
  stopped : Bool
  pc : Nat → Pc τ
  popped : List (Nat × τ)
  dispatched : List (Nat × τ)

/-- `__init__` (`:45-52`). -/
def fresh : Scheduler τ := ⟨[], false, false, fun _ => .idle, [], []⟩

/-- One step of one party; `i` names the thread. -/
inductive Act (τ : Type) where
  | submit (task : τ)
  | stop
  /-- `start` spawns thread `i` into `_run`. -/
  | start (i : Nat)
  /-- Thread `i` calls `drain` itself. -/
  | callDrain (i : Nat)
  /-- Thread `i` reads the stop flag, or runs `drain`'s locked block. -/
  | advance (i : Nat)
  /-- The timed wait of `i` reports the event. -/
  | wake (i : Nat)
  /-- The timed wait of `i` reports a timeout. -/
  | timeout (i : Nat)
  /-- The handler call of `i` returns (an unknown type is logged and returns too). -/
  | returns (i : Nat)
  /-- The handler call of `i` raises. -/
  | raises (i : Nat)
deriving DecidableEq, Repr

def Scheduler.setPc (s : Scheduler τ) (i : Nat) (pc : Pc τ) : Scheduler τ :=
  { s with pc := Function.update s.pc i pc }

/-- `submit` (`:61-65`). -/
def submit (s : Scheduler τ) (task : τ) : Scheduler τ :=
  { s with queue := s.queue ++ [task], event := true }

/-- `stop` (`:103-106`). -/
def stop (s : Scheduler τ) : Scheduler τ := { s with stopped := true, event := true }

/-- `start` (`:97-101`); a thread object is started once. -/
def start (s : Scheduler τ) (i : Nat) : Scheduler τ :=
  match s.pc i with
  | .idle => { s with stopped := false }.setPc i .check
  | _ => s

/-- The locked block of `drain` (`:82-86`), run by thread `i`. -/
def drainLocked (s : Scheduler τ) (i : Nat) (worker : Bool) : Scheduler τ :=
  match s.queue with
  | [] => { s with event := false }.setPc i (afterDrain worker)
  | task :: rest =>
    { s with queue := rest, popped := s.popped ++ [(i, task)] }.setPc i (.dispatching worker task)

/-- The handler call of thread `i` is over; `next` is where the thread goes. -/
def dispatched (s : Scheduler τ) (i : Nat) (task : τ) (next : Pc τ) : Scheduler τ :=
  { s with dispatched := s.dispatched ++ [(i, task)] }.setPc i next

def step (s : Scheduler τ) : Act τ → Scheduler τ
  | .submit task => submit s task
  | .stop => stop s
  | .start i => start s i
  | .callDrain i => match s.pc i with
    | .idle => s.setPc i (.draining false)
    | _ => s
  | .advance i => match s.pc i with
    | .check => s.setPc i (if s.stopped then .exited else .waiting)
    | .draining worker => drainLocked s i worker
    | _ => s
  | .wake i => match s.pc i with
    | .waiting => s.setPc i (.draining true)
    | _ => s
  | .timeout i => match s.pc i with
    | .waiting => s.setPc i .check
    | _ => s
  | .returns i => match s.pc i with
    | .dispatching worker task => dispatched s i task (.draining worker)
    | _ => s
  | .raises i => match s.pc i with
    -- The exception leaves `drain`: it ends a worker and reaches a direct caller.
    | .dispatching worker task => dispatched s i task (if worker then .exited else .idle)
    | _ => s

abbrev run (s : Scheduler τ) (acts : List (Act τ)) : Scheduler τ := Runs.run step s acts

/-! ## The invariant -/

/-- The entries of a history made by thread `i`. -/
def byThread (i : Nat) (l : List (Nat × τ)) : List τ :=
  l.filterMap fun p => if p.1 = i then some p.2 else none

theorem byThread_append (i : Nat) (l m : List (Nat × τ)) :
    byThread i (l ++ m) = byThread i l ++ byThread i m := List.filterMap_append

theorem byThread_self (i : Nat) (task : τ) : byThread i [(i, task)] = [task] := by simp [byThread]

theorem byThread_ne {i j : Nat} (h : j ≠ i) (task : τ) : byThread i [(j, task)] = [] := by
  simp [byThread, h]

/-- The tasks a step submits. -/
def Act.submits : Act τ → List τ
  | .submit task => [task]
  | _ => []

/-- The tasks a run submits, in the order its `submit` calls took the lock. -/
def submitted (acts : List (Act τ)) : List τ := acts.flatMap Act.submits

/-- `woken`: a queued task is never left with a cleared event. `fifo`: tasks leave the queue in
the order they entered. `handed`: each thread dispatches exactly what it popped, in order; the
one it is at is the last. -/
structure Inv (subs : List τ) (s : Scheduler τ) : Prop where
  woken : s.queue ≠ [] → s.event = true
  fifo : subs = s.popped.map Prod.snd ++ s.queue
  handed : ∀ i, byThread i s.popped = byThread i s.dispatched ++ (s.pc i).inHand

variable {subs : List τ} {s : Scheduler τ}

/-- Moving one thread between two points where it holds the same task. -/
theorem inv_setPc (h : Inv subs s) {i : Nat} {pc : Pc τ} (hpc : pc.inHand = (s.pc i).inHand) :
    Inv subs (s.setPc i pc) := by
  refine ⟨h.woken, h.fifo, fun j => ?_⟩
  by_cases hj : j = i
  · subst hj; simpa [Scheduler.setPc, hpc] using h.handed j
  · simpa [Scheduler.setPc, hj] using h.handed j

theorem inv_submit (h : Inv subs s) (task : τ) : Inv (subs ++ [task]) (submit s task) :=
  ⟨fun _ => rfl, by simp [submit, h.fifo], h.handed⟩

theorem inv_stop (h : Inv subs s) : Inv subs (stop s) := ⟨fun _ => rfl, h.fifo, h.handed⟩

theorem inv_start (h : Inv subs s) (i : Nat) : Inv subs (start s i) := by
  unfold start
  split
  · next hpc =>
    have h' : Inv subs { s with stopped := false } := ⟨h.woken, h.fifo, h.handed⟩
    exact inv_setPc h' (by simp [hpc, Pc.inHand])
  · exact h

theorem afterDrain_inHand (worker : Bool) : (afterDrain worker : Pc τ).inHand = [] := by
  cases worker <;> rfl

/-- The locked block either sees the queue empty and clears the event, or pops the head. -/
theorem inv_drainLocked (h : Inv subs s) {i : Nat} {worker : Bool}
    (hpc : s.pc i = .draining worker) : Inv subs (drainLocked s i worker) := by
  have hi : byThread i s.popped = byThread i s.dispatched := by
    simpa [hpc, Pc.inHand] using h.handed i
  unfold drainLocked
  cases hq : s.queue with
  | nil =>
    have h' : Inv subs { s with queue := [], event := false } :=
      ⟨fun hne => absurd rfl hne, hq ▸ h.fifo, h.handed⟩
    exact inv_setPc h' (by rw [hpc, afterDrain_inHand]; rfl)
  | cons task rest =>
    have hne : s.queue ≠ [] := by simp [hq]
    refine ⟨fun _ => h.woken hne, ?_, fun j => ?_⟩
    · simpa [Scheduler.setPc, hq] using h.fifo
    · by_cases hj : j = i
      · subst hj; simp [Scheduler.setPc, byThread_append, byThread_self, hi, Pc.inHand]
      · simpa [Scheduler.setPc, byThread_append, byThread_ne (Ne.symm hj), hj] using h.handed j

/-- A finished handler call moves the task in hand to the dispatched ones. -/
theorem inv_dispatched (h : Inv subs s) {i : Nat} {worker : Bool} {task : τ} {next : Pc τ}
    (hpc : s.pc i = .dispatching worker task) (hnext : next.inHand = []) :
    Inv subs (dispatched s i task next) := by
  refine ⟨h.woken, h.fifo, fun j => ?_⟩
  have hi := h.handed j
  by_cases hj : j = i
  · subst hj
    rw [hpc, Pc.inHand] at hi
    simp [dispatched, Scheduler.setPc, byThread_append, byThread_self, hnext, hi]
  · simpa [dispatched, Scheduler.setPc, byThread_append, byThread_ne (Ne.symm hj), hj] using hi

theorem inv_step (h : Inv subs s) (a : Act τ) : Inv (subs ++ a.submits) (step s a) := by
  cases a with
  | submit task => exact inv_submit h task
  | stop => simpa [Act.submits, step] using inv_stop h
  | start i => simpa [Act.submits, step] using inv_start h i
  | callDrain i =>
    simp only [step, Act.submits, List.append_nil]
    split
    · next hpc => exact inv_setPc h (by simp [hpc, Pc.inHand])
    · exact h
  | advance i =>
    simp only [step, Act.submits, List.append_nil]
    split
    · next hpc => exact inv_setPc h (by rw [hpc]; split <;> rfl)
    · next worker hpc => exact inv_drainLocked h hpc
    · exact h
  | wake i =>
    simp only [step, Act.submits, List.append_nil]
    split
    · next hpc => exact inv_setPc h (by simp [hpc, Pc.inHand])
    · exact h
  | timeout i =>
    simp only [step, Act.submits, List.append_nil]
    split
    · next hpc => exact inv_setPc h (by simp [hpc, Pc.inHand])
    · exact h
  | returns i =>
    simp only [step, Act.submits, List.append_nil]
    split
    · next worker task hpc => exact inv_dispatched h hpc rfl
    · exact h
  | raises i =>
    simp only [step, Act.submits, List.append_nil]
    split
    · next worker task hpc => exact inv_dispatched h hpc (by cases worker <;> rfl)
    · exact h

end Pygt1000.RefreshScheduler
