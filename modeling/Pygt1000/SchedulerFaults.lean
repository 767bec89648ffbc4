import Pygt1000.RefreshScheduler

/-!
# A handler that raises ends the worker (`refresh_scheduler.py`)

`_dispatch` calls the handler with nothing around it (`:93`), nor does `drain` (`:87`) or `_run`
(`:121-124`) catch what it raises, so an exception leaves the `while True` of `drain` with the
tasks behind it still queued and then the loop of the worker thread. The header of the module
promises "no stranded tasks", and the link's inbound callback, which also runs where nobody looks,
logs what is raised and goes on (`device_link.py:141-142`).

`pass` is what a woken worker does by itself, `fails k` telling whether its `k`-th handler call
raises; `InPass` lets other threads submit and stop in between. Either way the pass keeps its
promise (`Drained`) exactly when no call raises (`drained_iff`); after one that does, the worker
dispatches nothing any more (`exited_forever`).
-/

namespace Pygt1000.RefreshScheduler

variable {τ : Type}

/-! ## A pass of the worker -/

/-- Inside `drain`, as the worker. -/
def Pc.inDrain : Pc τ → Bool
  | .draining true | .dispatching true _ => true
  | _ => false

theorem inDrain_cases {pc : Pc τ} (h : pc.inDrain = true) :
    pc = .draining true ∨ ∃ task, pc = .dispatching true task := by
  cases pc with
  | draining worker => cases worker <;> simp_all [Pc.inDrain]
  | dispatching worker task => cases worker <;> simp_all [Pc.inDrain]
  | _ => simp [Pc.inDrain] at h

/-- What can happen while worker `w` drains: `w`'s own steps, a submission, a stop. -/
def Act.during (w : Nat) : Act τ → Prop
  | .submit _ | .stop => True
  | .advance i | .returns i | .raises i => i = w
  | _ => False

def InPass (w : Nat) (s : Scheduler τ) (a : Act τ) : Prop := (s.pc w).inDrain = true ∧ a.during w

/-- No handler call of `w` raises. -/
def Quiet (w : Nat) (s : Scheduler τ) : Act τ → Prop
  | .raises i => i = w → (s.pc w).inHand = []
  | _ => True

/-- The steps of a woken worker with `queue` before it; `fails k` says whether its `k`-th handler
call raises, which ends them. -/
def pass (w : Nat) : (Nat → Bool) → List τ → List (Act τ)
  | _, [] => [.advance w]
  | fails, _ :: rest =>
    if fails 0 then [.advance w, .raises w]
    else .advance w :: .returns w :: pass w (fun k => fails (k + 1)) rest

/-- The worker's next round with `queue` before it, its handlers returning. -/
def nextRound (w : Nat) (queue : List τ) : List (Act τ) :=
  .advance w :: .wake w :: pass w (fun _ => false) queue

/-- What a pass of `w` that was woken in `s` leaves, `subs` having been submitted meanwhile: all
of it dispatched once and in order, and the worker at its loop, so that unless it is told to stop
it dispatches what is submitted later. -/
structure Drained (w : Nat) (s : Scheduler τ) (subs : List τ) (t : Scheduler τ) : Prop where
  empty : t.queue = []
  dispatched : byThread w t.dispatched = byThread w s.dispatched ++ (s.queue ++ subs)
  running : t.pc w = .check
  later : t.stopped = false → ∀ tasks,
    byThread w (run t (tasks.map .submit ++ nextRound w tasks)).dispatched =
      byThread w t.dispatched ++ tasks

/-! ## What a pass keeps -/

section
variable (s : Scheduler τ) (w : Nat) (pc : Pc τ)

@[simp] theorem setPc_pc : (s.setPc w pc).pc = Function.update s.pc w pc := rfl
@[simp] theorem setPc_queue : (s.setPc w pc).queue = s.queue := rfl
@[simp] theorem setPc_dispatched : (s.setPc w pc).dispatched = s.dispatched := rfl

end

variable {s t : Scheduler τ} {w : Nat}

/-- Along a pass from `s`, `subs` submitted so far: nothing is lost or reordered, the worker is
still in `drain` or left it with the queue empty, and it is gone unless `Q`. -/
structure Passing (w : Nat) (s : Scheduler τ) (subs : List τ) (Q : Prop) (t : Scheduler τ) :
    Prop where
  kept : byThread w t.dispatched ++ ((t.pc w).inHand ++ t.queue) =
    byThread w s.dispatched ++ (s.queue ++ subs)
  place : (t.pc w).inDrain = true ∨ (t.pc w = .check ∧ t.queue = []) ∨ t.pc w = .exited
  quiet : Q ↔ t.pc w ≠ .exited

variable {subs : List τ} {Q : Prop}

theorem step_wake (hw : s.pc w = .waiting) : step s (.wake w) = s.setPc w (.draining true) := by
  simp [step, hw]

theorem passing_start (hw : s.pc w = .waiting) : Passing w s [] True (step s (.wake w)) := by
  rw [step_wake hw]
  exact ⟨by simp [Pc.inHand], Or.inl (by simp [Pc.inDrain]), by simp⟩

theorem Passing.congr {Q' : Prop} (h : Passing w s subs Q t) (hQ : Q' ↔ Q) :
    Passing w s subs Q' t := ⟨h.kept, h.place, hQ.trans h.quiet⟩

theorem Passing.nothing {a : Act τ} (ha : a.submits = []) (h : Passing w s subs Q t) :
    Passing w s (subs ++ a.submits) Q t := by
  rwa [ha, List.append_nil]

theorem Passing.submit (h : Passing w s subs Q t) (hd : (t.pc w).inDrain = true) (task : τ) :
    Passing w s (subs ++ [task]) Q (submit t task) := by
  refine ⟨?_, Or.inl hd, h.quiet⟩
  show byThread w t.dispatched ++ ((t.pc w).inHand ++ (t.queue ++ [task])) = _
  rw [← List.append_assoc (t.pc w).inHand, ← List.append_assoc, h.kept]
  simp

/-- The locked block pops the head, or finds the queue empty and leaves `drain`. -/
theorem Passing.drainLocked (h : Passing w s subs Q t) (hpc : t.pc w = .draining true) :
    Passing w s subs Q (drainLocked t w true) := by
  have hkept := h.kept
  have hquiet : Q ↔ True := by simpa [hpc] using h.quiet
  rw [hpc] at hkept
  unfold RefreshScheduler.drainLocked
  cases hq : t.queue with
  | nil =>
    refine ⟨?_, Or.inr (Or.inl ⟨by simp [afterDrain], rfl⟩), by simp [afterDrain, hquiet]⟩
    simpa [afterDrain, Pc.inHand, hq] using hkept
  | cons task rest =>
    refine ⟨?_, Or.inl (by simp [Pc.inDrain]), by simp [hquiet]⟩
    simpa [Pc.inHand, hq] using hkept

/-- A handler call that ends, in either way, dispatched the task in hand. -/
theorem Passing.dispatched (h : Passing w s subs Q t) {task : τ} {next : Pc τ}
    (hpc : t.pc w = .dispatching true task) (hnext : next = .draining true ∨ next = .exited) :
    Passing w s subs (Q ∧ next ≠ .exited) (dispatched t w task next) := by
  have hkept := h.kept
  have hquiet : Q ↔ True := by simpa [hpc] using h.quiet
  rw [hpc] at hkept
  refine ⟨?_, ?_, by simp [RefreshScheduler.dispatched, hquiet]⟩
  · rcases hnext with rfl | rfl <;>
      simpa [RefreshScheduler.dispatched, byThread_append, byThread_self, Pc.inHand] using hkept
  · rcases hnext with rfl | rfl
    · exact Or.inl (by simp [RefreshScheduler.dispatched, Pc.inDrain])
    · exact Or.inr (Or.inr (by simp [RefreshScheduler.dispatched]))

/-- One step of a pass; a raising call is the only one that ends `Q`. -/
theorem Passing.step (h : Passing w s subs Q t) {a : Act τ} (ha : InPass w t a) :
    Passing w s (subs ++ a.submits) (Q ∧ Quiet w t a) (step t a) := by
  obtain ⟨hd, hw⟩ := ha
  cases a with
  | submit task => exact (h.submit hd task).congr (and_iff_left trivial)
  | stop =>
    refine Passing.nothing rfl ?_
    exact (⟨h.kept, h.place, h.quiet⟩ : Passing w s subs Q (stop t)).congr (and_iff_left trivial)
  | advance i =>
    obtain rfl : i = w := hw
    refine Passing.nothing rfl ?_
    refine Passing.congr ?_ (and_iff_left trivial)
    rcases inDrain_cases hd with hpc | ⟨task, hpc⟩
    · simpa only [RefreshScheduler.step, hpc] using h.drainLocked hpc
    · simpa only [RefreshScheduler.step, hpc] using h
  | returns i =>
    obtain rfl : i = w := hw
    refine Passing.nothing rfl ?_
    refine Passing.congr ?_ (and_iff_left trivial)
    rcases inDrain_cases hd with hpc | ⟨task, hpc⟩
    · simpa only [RefreshScheduler.step, hpc] using h
    · simpa [RefreshScheduler.step, hpc] using h.dispatched hpc (Or.inl rfl)
  | raises i =>
    obtain rfl : i = w := hw
    refine Passing.nothing rfl ?_
    rcases inDrain_cases hd with hpc | ⟨task, hpc⟩
    · simpa [RefreshScheduler.step, hpc, Quiet, Pc.inHand] using h
    · simpa [RefreshScheduler.step, hpc, Quiet, Pc.inHand] using h.dispatched hpc (Or.inr rfl)
  | start i => exact hw.elim
  | callDrain i => exact hw.elim
  | wake i => exact hw.elim
  | timeout i => exact hw.elim

theorem passing_run (hw : s.pc w = .waiting) {body : List (Act τ)}
    (hb : Runs.Guarded RefreshScheduler.step (InPass w) (step s (.wake w)) body) :
    Passing w s (submitted body)
      (Runs.Guarded RefreshScheduler.step (Quiet w) (step s (.wake w)) body)
      (run (step s (.wake w)) body) := by
  refine Runs.invariant_history
    (I := fun as t => Passing w s (submitted as)
      (Runs.Guarded RefreshScheduler.step (Quiet w) (step s (.wake w)) as) t)
    (passing_start hw) ?_ hb
  intro as a ha h
  have h' := h.step ha
  rw [show submitted (as ++ [a]) = submitted as ++ a.submits by simp [submitted]]
  exact h'.congr Runs.guarded_concat

/-- A pass that has ended without a raising call drained the queue. -/
theorem Passing.ended (h : Passing w s subs Q t) (hend : (t.pc w).inDrain = false) (hQ : Q) :
    t.queue = [] ∧ byThread w t.dispatched = byThread w s.dispatched ++ (s.queue ++ subs) ∧
      t.pc w = .check := by
  rcases h.place with hd | ⟨hpc, hq⟩ | hx
  · rw [hend] at hd; cases hd
  · refine ⟨hq, ?_, hpc⟩
    simpa [hpc, hq, Pc.inHand] using h.kept
  · exact absurd hx (h.quiet.1 hQ)

/-! ## The worker by itself -/

theorem advance_nil (hpc : s.pc w = .draining true) (hq : s.queue = []) :
    (step s (.advance w)).pc w = .check := by
  simp [step, hpc, drainLocked, hq, afterDrain]

theorem advance_cons {task : τ} {rest : List τ} (hpc : s.pc w = .draining true)
    (hq : s.queue = task :: rest) :
    (step s (.advance w)).pc w = .dispatching true task ∧ (step s (.advance w)).queue = rest := by
  simp [step, hpc, drainLocked, hq]

theorem returns_dispatching {task : τ} (hpc : s.pc w = .dispatching true task) :
    (step s (.returns w)).pc w = .draining true ∧ (step s (.returns w)).queue = s.queue := by
  simp [step, hpc, dispatched]

theorem raises_dispatching {task : τ} (hpc : s.pc w = .dispatching true task) :
    (step s (.raises w)).pc w = .exited := by
  simp [step, hpc, dispatched]

/-- `pass` is a pass, it ends, and it is quiet unless one of its calls is to raise. -/
theorem pass_spec {queue : List τ} (fails : Nat → Bool) (hpc : s.pc w = .draining true)
    (hq : s.queue = queue) :
    Runs.Guarded step (InPass w) s (pass w fails queue) ∧
    ((run s (pass w fails queue)).pc w).inDrain = false ∧
    (Runs.Guarded step (Quiet w) s (pass w fails queue) ↔ ∀ k < queue.length, fails k = false) := by
  induction queue generalizing s fails with
  | nil =>
    refine ⟨⟨⟨by rw [hpc]; rfl, rfl⟩, trivial⟩, ?_, by simp [pass, Runs.Guarded, Quiet]⟩
    show ((step s (.advance w)).pc w).inDrain = false
    rw [advance_nil hpc hq]
    rfl
  | cons task rest ih =>
    obtain ⟨hpop, hrest⟩ := advance_cons hpc hq
    have hin : InPass w s (.advance w) := ⟨by rw [hpc]; rfl, rfl⟩
    by_cases hf : fails 0 = true
    · rw [pass, if_pos hf]
      refine ⟨⟨hin, ⟨by rw [hpop]; rfl, rfl⟩, trivial⟩, ?_, fun hg => ?_, fun hall => ?_⟩
      · show ((step (step s (.advance w)) (.raises w)).pc w).inDrain = false
        rw [raises_dispatching hpop]
        rfl
      · have hhand := hg.2.1 rfl
        rw [hpop] at hhand
        cases hhand
      · have h0 := hall 0 (by simp)
        rw [hf] at h0
        cases h0
    · rw [pass, if_neg hf]
      obtain ⟨hback, hqueue⟩ := returns_dispatching hpop
      obtain ⟨hinPass, hends, hquiet⟩ := ih (fun k => fails (k + 1)) hback (hqueue.trans hrest)
      refine ⟨⟨hin, ⟨by rw [hpop]; rfl, rfl⟩, hinPass⟩, hends, ?_⟩
      rw [List.length_cons, Nat.forall_lt_succ_left, ← hquiet]
      simp [Runs.Guarded, Quiet, hf]

theorem submitted_pass (w : Nat) (fails : Nat → Bool) (queue : List τ) :
    submitted (pass w fails queue) = [] := by
  induction queue generalizing fails with
  | nil => rfl
  | cons task rest ih =>
    rw [pass]
    split
    · rfl
    · exact ih _

theorem run_submits (s : Scheduler τ) (tasks : List τ) :
    (run s (tasks.map .submit)).pc = s.pc ∧ (run s (tasks.map .submit)).queue = s.queue ++ tasks ∧
      (run s (tasks.map .submit)).dispatched = s.dispatched ∧
      (run s (tasks.map .submit)).stopped = s.stopped := by
  induction tasks generalizing s with
  | nil => simp
  | cons task rest ih =>
    obtain ⟨hpc, hqueue, hdisp, hstop⟩ := ih (submit s task)
    refine ⟨hpc, hqueue.trans ?_, hdisp, hstop⟩
    simp [submit]

/-- A worker at its loop that is not told to stop dispatches what is submitted. -/
theorem nextRound_dispatches (hpc : s.pc w = .check) (hq : s.queue = []) (hstop : s.stopped = false)
    (tasks : List τ) :
    byThread w (run s (tasks.map .submit ++ nextRound w tasks)).dispatched =
      byThread w s.dispatched ++ tasks := by
  obtain ⟨hpc', hqueue, hdisp, hstop'⟩ := run_submits s tasks
  have hwait : step (run s (tasks.map .submit)) (.advance w) =
      (run s (tasks.map .submit)).setPc w .waiting := by
    simp [step, hpc', hpc, hstop', hstop]
  have hwaiting : ((run s (tasks.map .submit)).setPc w .waiting).pc w = .waiting := by simp
  have hdraining : (step ((run s (tasks.map .submit)).setPc w .waiting) (.wake w)).pc w =
      .draining true := by rw [step_wake hwaiting]; simp
  have htasks : (step ((run s (tasks.map .submit)).setPc w .waiting) (.wake w)).queue = tasks := by
    rw [step_wake hwaiting]; simp [hqueue, hq]
  obtain ⟨hin, hends, hquiet⟩ := pass_spec (fun _ => false) hdraining htasks
  have h := (passing_run hwaiting hin).ended hends (hquiet.2 fun _ _ => rfl)
  have hdone := h.2.1
  rw [submitted_pass, List.append_nil, setPc_dispatched, hdisp, setPc_queue, hqueue, hq] at hdone
  rw [run, Runs.run_append, nextRound, Runs.run_cons, Runs.run_cons, hwait]
  exact hdone

/-! ## What a raising handler does -/

theorem drained_iff_quiet (h : Passing w s subs Q t) (hend : (t.pc w).inDrain = false) :
    Drained w s subs t ↔ Q := by
  constructor
  · intro hd
    rw [h.quiet, hd.running]
    simp
  · intro hQ
    obtain ⟨hq, hdisp, hpc⟩ := h.ended hend hQ
    exact ⟨hq, hdisp, hpc, fun hstop tasks => nextRound_dispatches hpc hq hstop tasks⟩

/-- **A raising handler strands the rest, exactly**: from any state in which the worker waits, a
woken worker drains the queue and stays at its loop if and only if none of the handler calls
raises; and likewise however submissions and stops fall between its steps. -/
theorem drained_iff (hw : s.pc w = .waiting) :
    (∀ fails : Nat → Bool, Drained w s [] (run s (.wake w :: pass w fails s.queue)) ↔
      ∀ k < s.queue.length, fails k = false) ∧
    ∀ body, Runs.Guarded step (InPass w) (step s (.wake w)) body →
      ((run s (.wake w :: body)).pc w).inDrain = false →
      (Drained w s (submitted body) (run s (.wake w :: body)) ↔
        Runs.Guarded step (Quiet w) (step s (.wake w)) body) := by
  refine ⟨fun fails => ?_, fun body hb hend => drained_iff_quiet (passing_run hw hb) hend⟩
  have hdraining : (step s (.wake w)).pc w = .draining true := by rw [step_wake hw]; simp
  have hqueue : (step s (.wake w)).queue = s.queue := by rw [step_wake hw]; rfl
  obtain ⟨hin, hends, hquiet⟩ := pass_spec fails hdraining hqueue
  have h := drained_iff_quiet (passing_run hw hin) hends
  rw [submitted_pass] at h
  exact h.trans hquiet

/-- A thread that has not exited moves without the one that has. -/
theorem ne_of_exited (hx : t.pc w = .exited) {j : Nat} (hj : t.pc j ≠ .exited) : j ≠ w := by
  rintro rfl
  exact hj hx

theorem exited_setPc (hx : t.pc w = .exited) {j : Nat} (hj : t.pc j ≠ .exited) (pc : Pc τ) :
    (t.setPc j pc).pc w = .exited := by
  rw [setPc_pc, Function.update_of_ne (ne_of_exited hx hj).symm, hx]

theorem exited_dispatched (hx : t.pc w = .exited) {j : Nat} (hj : t.pc j ≠ .exited) (task : τ)
    (next : Pc τ) : (dispatched t j task next).pc w = .exited ∧
      byThread w (dispatched t j task next).dispatched = byThread w t.dispatched := by
  refine ⟨exited_setPc (t := { t with dispatched := _ }) hx hj next, ?_⟩
  show byThread w (t.dispatched ++ [(j, task)]) = _
  rw [byThread_append, byThread_ne (ne_of_exited hx hj), List.append_nil]

theorem exited_step (hx : t.pc w = .exited) (a : Act τ) :
    (step t a).pc w = .exited ∧ byThread w (step t a).dispatched = byThread w t.dispatched := by
  cases a with
  | submit task => exact ⟨hx, rfl⟩
  | stop => exact ⟨hx, rfl⟩
  | start j =>
    simp only [step, start]
    split
    · next hpc => exact ⟨exited_setPc (t := { t with stopped := false }) hx (by simp [hpc]) _, rfl⟩
    · exact ⟨hx, rfl⟩
  | callDrain j | wake j | timeout j =>
    simp only [step]
    split
    · next hpc => exact ⟨exited_setPc hx (by simp [hpc]) _, rfl⟩
    · exact ⟨hx, rfl⟩
  | advance j =>
    simp only [step]
    split
    · next hpc => exact ⟨exited_setPc hx (by simp [hpc]) _, rfl⟩
    · next worker hpc =>
      have hj : t.pc j ≠ .exited := by simp [hpc]
      unfold drainLocked
      split
      · exact ⟨exited_setPc (t := { t with event := false }) hx hj _, rfl⟩
      · next task rest _ =>
        exact ⟨exited_setPc (t := { t with queue := rest, popped := _ }) hx hj _, rfl⟩
    · exact ⟨hx, rfl⟩
  | returns j | raises j =>
    simp only [step]
    split
    · next worker task hpc => exact exited_dispatched hx (by simp [hpc]) task _
    · exact ⟨hx, rfl⟩

/-- After an exception the worker is gone for good: nothing that happens makes it dispatch. -/
theorem exited_forever (hx : s.pc w = .exited) (acts : List (Act τ)) :
    (run s acts).pc w = .exited ∧
      byThread w (run s acts).dispatched = byThread w s.dispatched := by
  refine Runs.invariant (I := fun t => t.pc w = .exited ∧
    byThread w t.dispatched = byThread w s.dispatched) ⟨hx, rfl⟩ ?_ (Runs.guarded_always s acts)
  intro t a _ ⟨ht, hd⟩
  obtain ⟨hpc, hdisp⟩ := exited_step ht a
  exact ⟨hpc, hdisp.trans hd⟩

/-- A worker that waits with two tasks queued. -/
def twoQueued : Scheduler Nat := run fresh [.submit 1, .submit 2, .start 0, .advance 0]

/-- Both are dispatched when both calls return. -/
theorem drained_iff_twoQueued :
    twoQueued.pc 0 = .waiting ∧
    Drained 0 twoQueued [] (run twoQueued (.wake 0 :: pass 0 (fun _ => false) twoQueued.queue)) :=
  have hw : twoQueued.pc 0 = .waiting := by decide
  ⟨hw, ((drained_iff hw).1 fun _ => false).2 fun _ _ => rfl⟩

/-- The first call raises: the second task stays queued and the worker is gone. -/
theorem raising_handler_strands :
    twoQueued.pc 0 = .waiting ∧
    (run twoQueued (.wake 0 :: pass 0 (fun k => k = 0) twoQueued.queue)).queue = [2] ∧
    (run twoQueued (.wake 0 :: pass 0 (fun k => k = 0) twoQueued.queue)).pc 0 = .exited ∧
    ¬ ∀ fails : Nat → Bool,
      Drained 0 twoQueued [] (run twoQueued (.wake 0 :: pass 0 fails twoQueued.queue)) := by
  have hq : (run twoQueued (.wake 0 :: pass 0 (fun k => k = 0) twoQueued.queue)).queue = [2] := by
    decide
  refine ⟨by decide, hq, by decide, fun h => ?_⟩
  have hempty := (h fun k => k = 0).empty
  rw [hq] at hempty
  cases hempty

end Pygt1000.RefreshScheduler
