import Pygt1000.RefreshScheduler

/-!
# How many workers there are (`refresh_scheduler.py:97-124`, `gt1000.py:147-155`)

The scheduler speaks of "the worker thread", and the facade of "one worker each". `start` clears the
stop flag and spawns a thread without a look at the one before it: a worker that has not yet seen
the flag, as it waits for the event or is inside a long handler, lives on beside the new one, and
both drain the queue. `one_worker_iff`: there is never more than one exactly in the runs that start
a worker only when the one before has left its loop.
-/

namespace Pygt1000.RefreshScheduler

variable {τ : Type}

/-- Inside `_run`. -/
def Pc.inLoop : Pc τ → Bool
  | .check | .waiting | .draining true | .dispatching true _ => true
  | _ => false

def AtMostOne (s : Scheduler τ) : Prop :=
  ∀ i j, (s.pc i).inLoop = true → (s.pc j).inLoop = true → i = j

/-- A `start` that spawns a thread does so when no worker is inside its loop. -/
def StartsAlone (s : Scheduler τ) (a : Act τ) : Prop :=
  ∀ i, a = .start i → s.pc i = .idle → ∀ j, (s.pc j).inLoop = false

variable {s : Scheduler τ} {i j : Nat}

theorem afterDrain_inLoop (worker : Bool) : (afterDrain worker : Pc τ).inLoop = worker := by
  cases worker <;> rfl

/-- Moving one thread brings nobody else into the loop. -/
theorem inLoop_setPc {pc : Pc τ} (hpc : pc.inLoop = true → (s.pc i).inLoop = true)
    (h : ((s.setPc i pc).pc j).inLoop = true) : (s.pc j).inLoop = true := by
  by_cases hj : j = i
  · subst hj
    exact hpc (by simpa [Scheduler.setPc] using h)
  · simpa [Scheduler.setPc, hj] using h

theorem inLoop_drainLocked {worker : Bool} (hpc : s.pc i = .draining worker)
    (h : ((drainLocked s i worker).pc j).inLoop = true) : (s.pc j).inLoop = true := by
  unfold drainLocked at h
  split at h
  · refine inLoop_setPc (s := { s with queue := [], event := false }) (fun hpc' => ?_) h
    rw [afterDrain_inLoop] at hpc'
    rw [hpc, hpc']
    rfl
  · refine inLoop_setPc (s := { s with queue := _, popped := _ }) (fun hpc' => ?_) h
    rw [hpc]
    cases worker with
    | false => exact hpc'
    | true => rfl

/-- The end of a handler call leaves a worker in its loop, or outside. -/
theorem inLoop_dispatched {worker : Bool} {task : τ} {next : Pc τ}
    (hpc : s.pc i = .dispatching worker task) (hnext : next.inLoop = true → worker = true)
    (h : ((dispatched s i task next).pc j).inLoop = true) : (s.pc j).inLoop = true := by
  refine inLoop_setPc (s := { s with dispatched := _ }) (fun hpc' => ?_) h
  rw [hpc, hnext hpc']
  rfl

/-- Only `start` brings a thread into the loop. -/
theorem inLoop_step (a : Act τ) (h : ((step s a).pc j).inLoop = true) :
    (s.pc j).inLoop = true ∨ (a = .start j ∧ s.pc j = .idle) := by
  cases a with
  | submit task => exact Or.inl h
  | stop => exact Or.inl h
  | start i =>
    simp only [step, start] at h
    split at h
    · next hidle =>
      by_cases hj : j = i
      · exact Or.inr ⟨by rw [hj], by rw [hj, hidle]⟩
      · exact Or.inl (by simpa [Scheduler.setPc, hj] using h)
    · exact Or.inl h
  | callDrain i =>
    simp only [step] at h
    split at h
    · exact Or.inl (inLoop_setPc (fun hpc => by cases hpc) h)
    · exact Or.inl h
  | advance i =>
    simp only [step] at h
    split at h
    · next hpc => exact Or.inl (inLoop_setPc (fun _ => by rw [hpc]; rfl) h)
    · next worker hpc => exact Or.inl (inLoop_drainLocked hpc h)
    · exact Or.inl h
  | wake i =>
    simp only [step] at h
    split at h
    · next hpc => exact Or.inl (inLoop_setPc (fun _ => by rw [hpc]; rfl) h)
    · exact Or.inl h
  | timeout i =>
    simp only [step] at h
    split at h
    · next hpc => exact Or.inl (inLoop_setPc (fun _ => by rw [hpc]; rfl) h)
    · exact Or.inl h
  | returns i =>
    simp only [step] at h
    split at h
    · next worker task hpc => exact Or.inl (inLoop_dispatched hpc (by cases worker <;> simp [Pc.inLoop]) h)
    · exact Or.inl h
  | raises i =>
    simp only [step] at h
    split at h
    · next worker task hpc => exact Or.inl (inLoop_dispatched hpc (by cases worker <;> simp [Pc.inLoop]) h)
    · exact Or.inl h

theorem start_pc (hidle : s.pc i = .idle) :
    (step s (.start i)).pc = Function.update s.pc i .check := by
  simp only [step, start, hidle, Scheduler.setPc]

/-- A step keeps the one worker alone exactly if it does not spawn another beside it. -/
theorem atMostOne_step_iff (h : AtMostOne s) (a : Act τ) : AtMostOne (step s a) ↔ StartsAlone s a := by
  constructor
  · rintro hone i rfl hidle j
    cases hj : (s.pc j).inLoop with
    | false => rfl
    | true =>
      have hne : j ≠ i := by
        rintro rfl
        rw [hidle] at hj
        cases hj
      have hij : i = j := hone i j (by simp [start_pc hidle, Pc.inLoop])
        (by rw [start_pc hidle, Function.update_of_ne hne]; exact hj)
      exact absurd hij.symm hne
  · intro halone i j hi hj
    rcases inLoop_step a hi with hi' | ⟨ha, hidle⟩
    · rcases inLoop_step a hj with hj' | ⟨ha, hidle⟩
      · exact h i j hi' hj'
      · rw [halone j ha hidle i] at hi'
        cases hi'
    · rcases inLoop_step a hj with hj' | ⟨ha', -⟩
      · rw [halone i ha hidle j] at hj'
        cases hj'
      · rw [ha] at ha'
        exact Act.start.inj ha'

theorem atMostOne_fresh : AtMostOne (fresh : Scheduler τ) := fun _ _ hi _ => by cases hi

/-- **One worker at a time, exactly** in the runs in which a worker is started only when none is
inside its loop: then at no moment of the run are two threads inside, and so no two workers are in
a handler. -/
theorem one_worker_iff (acts : List (Act τ)) :
    (∀ pre, pre <+: acts → AtMostOne (run fresh pre)) ↔ Runs.Guarded step StartsAlone fresh acts :=
  Runs.invariant_iff_guarded atMostOne_fresh (fun _ a h => atMostOne_step_iff h a) acts

/-- The first worker is woken and takes `1`; it is stopped, and a second one started, while its
handler runs. -/
def restarted : List (Act Nat) :=
  [.start 0, .advance 0, .submit 1, .submit 2, .wake 0, .advance 0, .stop, .start 1, .advance 1,
    .wake 1, .advance 1]

/-- Two workers, each in a handler. -/
theorem two_workers : (run fresh restarted).pc 0 = .dispatching true 1 ∧
    (run fresh restarted).pc 1 = .dispatching true 2 ∧ ¬ AtMostOne (run fresh restarted) := by
  refine ⟨rfl, rfl, fun h => ?_⟩
  have h01 : (0 : Nat) = 1 := h 0 1 rfl rfl
  cases h01

end Pygt1000.RefreshScheduler
