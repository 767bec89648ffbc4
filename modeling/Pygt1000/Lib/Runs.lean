import Mathlib.Data.List.Induction

/-!
# Runs of a deterministic step function

A system of several parties is a state type and a step function whose action argument says
which party moves next; an interleaving is a list of actions. Everything about a whole run is
proved here once from what one step preserves:

* `invariant`: a state invariant, along runs whose every step meets a condition `ok`;
  `invariant_iff_guarded`: only along those, where `ok` is all a step needs to keep it;
* `invariant_history`: the same for an invariant that also speaks of the actions taken so far;
* `measure_run`: a measure that one action brings down and no other raises;
* `outputs`: what the steps of a run put out, as a history the state need not carry;
* `run_deletes`: deleting actions that the relation `R` does not see keeps the ends related;
* `Alone`: one party, undisturbed, gets from one state to another.
-/

namespace Runs

variable {σ α : Type*} {step : σ → α → σ}

/-- The state after taking `acts` from `s`. -/
def run (step : σ → α → σ) (s : σ) (acts : List α) : σ := acts.foldl step s

@[simp] theorem run_nil (s : σ) : run step s [] = s := rfl

@[simp] theorem run_cons (s : σ) (a : α) (acts : List α) :
    run step s (a :: acts) = run step (step s a) acts := rfl

theorem run_append (s : σ) (as bs : List α) :
    run step s (as ++ bs) = run step (run step s as) bs := List.foldl_append

theorem run_concat (s : σ) (as : List α) (a : α) :
    run step s (as ++ [a]) = step (run step s as) a := by
  rw [run_append, run_cons, run_nil]

/-- Every step of the run from `s` meets `ok` in the state it is taken in. -/
def Guarded (step : σ → α → σ) (ok : σ → α → Prop) : σ → List α → Prop
  | _, [] => True
  | s, a :: acts => ok s a ∧ Guarded step ok (step s a) acts

instance decidableGuarded {ok : σ → α → Prop} [∀ s a, Decidable (ok s a)] :
    ∀ (s : σ) (acts : List α), Decidable (Guarded step ok s acts)
  | _, [] => isTrue trivial
  | s, a :: acts =>
    @instDecidableAnd (ok s a) (Guarded step ok (step s a) acts) _ (decidableGuarded (step s a) acts)

variable {ok : σ → α → Prop} {s : σ}

theorem guarded_append {s : σ} {as bs : List α} :
    Guarded step ok s (as ++ bs) ↔ Guarded step ok s as ∧ Guarded step ok (run step s as) bs := by
  induction as generalizing s with
  | nil => simp [Guarded]
  | cons a as ih => simp [Guarded, ih, and_assoc]

theorem guarded_concat {as : List α} {a : α} :
    Guarded step ok s (as ++ [a]) ↔ Guarded step ok s as ∧ ok (run step s as) a := by
  simp [guarded_append, Guarded]

/-- An action of a run with one more action is that last one or one of the shorter run. -/
theorem concat_eq_split {as pre post : List α} {a b : α} (h : as ++ [a] = pre ++ b :: post) :
    (pre = as ∧ b = a ∧ post = []) ∨ ∃ post', post = post' ++ [a] ∧ as = pre ++ b :: post' := by
  rcases post.eq_nil_or_concat with rfl | ⟨post', c, rfl⟩
  · obtain ⟨h1, h2⟩ := List.append_inj' h rfl
    exact Or.inl ⟨h1.symm, by simpa using h2.symm, rfl⟩
  · have h' : as ++ [a] = (pre ++ b :: post') ++ [c] := by simpa using h
    obtain ⟨h1, h2⟩ := List.append_inj' h' rfl
    obtain rfl : a = c := by simpa using h2
    exact Or.inr ⟨post', by simp, h1⟩

/-- An invariant of the state and of the actions taken so far. -/
theorem invariant_history {I : List α → σ → Prop} (h0 : I [] s)
    (hstep : ∀ as a, ok (run step s as) a → I as (run step s as) →
      I (as ++ [a]) (step (run step s as) a))
    {acts : List α} (hg : Guarded step ok s acts) : I acts (run step s acts) := by
  induction acts using List.reverseRecOn with
  | nil => exact h0
  | append_singleton as a ih =>
    obtain ⟨hpre, hlast⟩ := guarded_concat.1 hg
    rw [run_concat]
    exact hstep as a hlast (ih hpre)

/-- A condition on the actions alone may be added to one on the steps. -/
theorem guarded_and {P : α → Prop} {acts : List α} (hP : ∀ a ∈ acts, P a)
    (hg : Guarded step ok s acts) : Guarded step (fun t a => P a ∧ ok t a) s acts := by
  induction acts generalizing s with
  | nil => trivial
  | cons a acts ih =>
    exact ⟨⟨hP a List.mem_cons_self, hg.1⟩, ih (fun b hb => hP b (List.mem_cons_of_mem a hb)) hg.2⟩

/-- Actions that meet the condition in any state. -/
theorem guarded_of_forall {acts : List α} (h : ∀ a ∈ acts, ∀ t, ok t a) : Guarded step ok s acts := by
  induction acts generalizing s with
  | nil => trivial
  | cons a acts ih =>
    exact ⟨h a List.mem_cons_self s, ih fun b hb => h b (List.mem_cons_of_mem a hb)⟩

/-- An invariant of the state. -/
theorem invariant {I : σ → Prop} (h0 : I s) (hstep : ∀ t a, ok t a → I t → I (step t a))
    {acts : List α} (hg : Guarded step ok s acts) : I (run step s acts) :=
  invariant_history (I := fun _ t => I t) h0 (fun as a hok hI => hstep (run step s as) a hok hI) hg

/-- A run is guarded where an invariant implies the condition. -/
theorem guarded_of_invariant {I : σ → Prop} {P : α → Prop} (h0 : I s) {acts : List α}
    (hP : ∀ a ∈ acts, P a) (hstep : ∀ t a, P a → I t → ok t a ∧ I (step t a)) :
    Guarded step ok s acts := by
  induction acts generalizing s with
  | nil => trivial
  | cons a acts ih =>
    obtain ⟨hok, hI⟩ := hstep s a (hP a List.mem_cons_self) h0
    exact ⟨hok, ih hI fun b hb => hP b (List.mem_cons_of_mem a hb)⟩

/-- Where a step keeps the invariant exactly if it meets the condition, every state on the way has
the invariant exactly if every step meets the condition. -/
theorem invariant_iff_guarded {I : σ → Prop} (h0 : I s) (hstep : ∀ t a, I t → (I (step t a) ↔ ok t a))
    (acts : List α) : (∀ pre, pre <+: acts → I (run step s pre)) ↔ Guarded step ok s acts := by
  constructor
  · intro h
    induction acts using List.reverseRecOn with
    | nil => trivial
    | append_singleton as a ih =>
      have hlast := h (as ++ [a]) List.prefix_rfl
      rw [run_concat, hstep _ _ (h as (List.prefix_append as [a]))] at hlast
      exact guarded_concat.2 ⟨ih fun pre hpre => h pre (hpre.trans (List.prefix_append as [a])), hlast⟩
  · rintro hg pre ⟨post, rfl⟩
    exact invariant h0 (fun t a hok hI => (hstep t a hI).2 hok) (guarded_append.1 hg).1

/-- The condition that every step meets. -/
def always (_ : σ) (_ : α) : Prop := True

theorem guarded_always : ∀ (s : σ) (acts : List α), Guarded step always s acts
  | _, [] => trivial
  | s, a :: acts => ⟨trivial, guarded_always (step s a) acts⟩

/-- What no step raises and `own` brings down by one is down by as many as there were of these. -/
theorem measure_run [DecidableEq α] {m : σ → Nat} (own : α) (hown : ∀ t, m (step t own) ≤ m t - 1)
    (hother : ∀ t a, a ≠ own → m (step t a) ≤ m t) (s : σ) (acts : List α) :
    m (run step s acts) ≤ m s - acts.count own := by
  induction acts using List.reverseRecOn with
  | nil => exact Nat.le_refl _
  | append_singleton as a ih =>
    rw [run_concat, List.count_append]
    by_cases ha : a = own
    · subst ha
      have hlast := hown (run step s as)
      rw [List.count_singleton_self]
      omega
    · have hlast := hother (run step s as) a ha
      rw [List.count_singleton, beq_false_of_ne ha]
      simp only [Bool.false_eq_true, if_false, Nat.add_zero]
      omega

/-- What the steps of a run put out, in order. -/
def outputs {β : Type*} (step : σ → α → σ) (out : σ → α → List β) : σ → List α → List β
  | _, [] => []
  | s, a :: acts => out s a ++ outputs step out (step s a) acts

theorem outputs_concat {β : Type*} (out : σ → α → List β) (s : σ) (as : List α) (a : α) :
    outputs step out s (as ++ [a]) = outputs step out s as ++ out (run step s as) a := by
  induction as generalizing s with
  | nil => simp [outputs]
  | cons b as ih => simp [outputs, ih]

/-- All that is put out has a property exactly if what each step puts out has it. -/
theorem forall_outputs_iff {β : Type*} {out : σ → α → List β} {P : β → Prop} (acts : List α) :
    (∀ x ∈ outputs step out s acts, P x) ↔ Guarded step (fun t a => ∀ x ∈ out t a, P x) s acts := by
  induction acts generalizing s with
  | nil => simp [outputs, Guarded]
  | cons a acts ih => simp [outputs, Guarded, ← ih, or_imp, forall_and]

/-- Equivalent conditions. -/
theorem guarded_congr {ok' : σ → α → Prop} (h : ∀ t a, ok t a ↔ ok' t a) (acts : List α) :
    Guarded step ok s acts ↔ Guarded step ok' s acts := by
  have heq : ok = ok' := funext fun t => funext fun a => propext (h t a)
  rw [heq]

/-- `Deletes skip s as bs`: `bs` is `as` without some actions, each allowed by `skip` in the
state the run of `as` takes it in. -/
inductive Deletes (step : σ → α → σ) (skip : σ → α → Prop) : σ → List α → List α → Prop
  | nil (s : σ) : Deletes step skip s [] []
  | keep {s : σ} {as bs : List α} (a : α) (h : Deletes step skip (step s a) as bs) :
    Deletes step skip s (a :: as) (a :: bs)
  | skip {s : σ} {as bs : List α} (a : α) (ha : skip s a)
      (h : Deletes step skip (step s a) as bs) : Deletes step skip s (a :: as) bs

/-- If kept actions preserve `R` and a skipped one keeps its state related, the two runs end in
related states. -/
theorem run_deletes {skip : σ → α → Prop} {R : σ → σ → Prop}
    (hkeep : ∀ s t a, R s t → R (step s a) (step t a))
    (hskip : ∀ s t a, skip s a → R s t → R (step s a) t) {as bs : List α}
    (h : Deletes step skip s as bs) : ∀ {t : σ}, R s t → R (run step s as) (run step t bs) := by
  induction h with
  | nil s => exact id
  | keep a _ ih => exact fun hR => ih (hkeep _ _ a hR)
  | skip a ha _ ih => exact fun hR => ih (hskip _ _ a ha hR)

/-! ## One party alone -/

/-- Taken again and again, the action leads from `s` to `t`. -/
def Alone (step : σ → α → σ) (a : α) (s t : σ) : Prop := ∃ n, run step s (List.replicate n a) = t

theorem alone_step (step : σ → α → σ) (a : α) (s : σ) : Alone step a s (step s a) := ⟨1, rfl⟩

theorem Alone.trans {a : α} {s t u : σ} (h : Alone step a s t) (h' : Alone step a t u) : Alone step a s u := by
  obtain ⟨n, rfl⟩ := h
  obtain ⟨n', rfl⟩ := h'
  exact ⟨n + n', by rw [← List.replicate_append_replicate, run_append]⟩

end Runs
