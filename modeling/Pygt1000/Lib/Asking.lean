import Pygt1000.Lib.Runs

/-!
# Computations that ask

`Asking A ε α` is a computation that asks questions `q : Q`, one at a time, goes on with the answer
(of type `A q`) it gets, and ends with a value or an error. Who answers is left open:

* `answeredBy`: an oracle that never changes, which makes it a plain function of the oracle;
* `step`: a world that other parties change between one question and the next.

Of the second, `Ensures ok post log p` says what `p` comes to, having asked `log`, as long as its
questions are answered within `ok`; it is shown along the program, question by question, and then
holds along a run (`Ensures.step`), and of a fixed oracle (`Ensures.answeredBy`). `Within n p` bounds the questions `p` asks, and so the steps
after which it has ended (`ended_of_within`). What was answered was true at a moment of the run
(`asked_during`).
-/

universe u v

inductive Asking {Q : Type u} (A : Q → Type v) (ε α : Type v) where
  | ret (r : Except ε α)
  | ask (q : Q) (k : A q → Asking A ε α)

namespace Asking

variable {Q : Type u} {A : Q → Type v} {ε α β : Type v}

def bind : Asking A ε α → (α → Asking A ε β) → Asking A ε β
  | ret (.ok a), f => f a
  | ret (.error e), _ => ret (.error e)
  | ask q k, f => ask q fun a => (k a).bind f

instance : Monad (Asking A ε) where
  pure a := ret (.ok a)
  bind := bind

/-- What asks nothing. -/
instance : MonadLift (Except ε) (Asking A ε) := ⟨ret⟩

def question (q : Q) : Asking A ε (A q) := ask q fun a => ret (.ok a)

section
variable (f : α → Asking A ε β) (a : α) (e : ε)

@[simp] theorem pure_bind : (pure a : Asking A ε α) >>= f = f a := rfl
@[simp] theorem ok_bind : (liftM (.ok a : Except ε α) : Asking A ε α) >>= f = f a := rfl
@[simp] theorem error_bind :
    (liftM (.error e : Except ε α) : Asking A ε α) >>= f = ret (.error e) := rfl
@[simp] theorem question_bind (q : Q) (g : A q → Asking A ε β) :
    (question q : Asking A ε (A q)) >>= g = ask q g := rfl
@[simp] theorem ask_bind (q : Q) (k : A q → Asking A ε α) :
    ask q k >>= f = ask q fun a => k a >>= f := rfl

end

instance : LawfulMonad (Asking A ε) := by
  refine LawfulMonad.mk' _ (fun p => ?_) (fun a f => rfl) fun p f g => ?_
  · induction p with
    | ret r => cases r <;> rfl
    | ask q k ih => exact congrArg (ask q) (funext ih)
  · induction p with
    | ret r => cases r <;> rfl
    | ask q k ih => exact congrArg (ask q) (funext ih)

/-- How it ended, if it did. -/
def result? : Asking A ε α → Option (Except ε α)
  | ret r => some r
  | ask _ _ => none

/-- What it asks next, if it goes on. -/
def next? : Asking A ε α → Option Q
  | ret _ => none
  | ask q _ => some q

theorem result?_of_next? {p : Asking A ε α} {q : Q} (h : p.next? = some q) : p.result? = none := by
  cases p with
  | ret r => cases h
  | ask q' k => rfl

/-! ## A fixed oracle -/

def answeredBy (o : ∀ q, A q) : Asking A ε α → Except ε α
  | ret r => r
  | ask q k => (k (o q)).answeredBy o

section
variable (o : ∀ q, A q)

@[simp] theorem answeredBy_pure (a : α) : (pure a : Asking A ε α).answeredBy o = .ok a := rfl
@[simp] theorem answeredBy_lift (r : Except ε α) : (liftM r : Asking A ε α).answeredBy o = r := rfl
@[simp] theorem answeredBy_ret (r : Except ε α) : (ret r : Asking A ε α).answeredBy o = r := rfl
@[simp] theorem answeredBy_ask (q : Q) (k : A q → Asking A ε α) :
    (ask q k).answeredBy o = (k (o q)).answeredBy o := rfl

@[simp] theorem answeredBy_bind (p : Asking A ε α) (f : α → Asking A ε β) :
    (p >>= f).answeredBy o = p.answeredBy o >>= fun a => (f a).answeredBy o := by
  induction p with
  | ret r => cases r <;> rfl
  | ask q k ih => exact ih (o q)

end

/-! ## What it comes to -/

/-- Having asked `log`, `p` ends as `post` says, whatever the answers that `ok` allows. -/
def Ensures (ok : List (Sigma A) → ∀ q, A q → Prop) (post : List (Sigma A) → Except ε α → Prop) :
    List (Sigma A) → Asking A ε α → Prop
  | log, ret r => post log r
  | log, ask q k => ∀ a, ok log q a → Ensures ok post (log ++ [⟨q, a⟩]) (k a)

section

variable {ok : List (Sigma A) → ∀ q, A q → Prop} {log : List (Sigma A)}

/-- First one part, then the other, from where the first got to. -/
theorem ensures_bind {mid : List (Sigma A) → Except ε α → Prop}
    {post : List (Sigma A) → Except ε β → Prop} {p : Asking A ε α} {f : α → Asking A ε β}
    (hp : Ensures ok mid log p) (herror : ∀ log e, mid log (.error e) → post log (.error e))
    (hf : ∀ log a, mid log (.ok a) → Ensures ok post log (f a)) : Ensures ok post log (p >>= f) := by
  induction p generalizing log with
  | ret r =>
    cases r with
    | error e => exact herror log e hp
    | ok a => exact hf log a hp
  | ask q k ih => exact fun a ha => ih a (hp a ha)

end

/-- A weaker condition on the end. -/
theorem Ensures.mono {ok : List (Sigma A) → ∀ q, A q → Prop} {post post' : List (Sigma A) → Except ε α → Prop}
    (hpost : ∀ log r, post log r → post' log r) {log : List (Sigma A)} {p : Asking A ε α}
    (h : Ensures ok post log p) : Ensures ok post' log p := by
  induction p generalizing log with
  | ret r => exact hpost log r h
  | ask q k ih => exact fun a ha => ih a (h a ha)

/-- What has been asked stays asked. -/
theorem Ensures.extends {ok : List (Sigma A) → ∀ q, A q → Prop} {post : List (Sigma A) → Except ε α → Prop}
    {log : List (Sigma A)} {p : Asking A ε α} (h : Ensures ok post log p) :
    Ensures ok (fun log' r => log <+: log' ∧ post log' r) log p := by
  induction p generalizing log with
  | ret r => exact ⟨List.prefix_rfl, h⟩
  | ask q k ih =>
    exact fun a ha => (ih a (h a ha)).mono fun _ _ hr => ⟨(List.prefix_append log _).trans hr.1, hr.2⟩

/-- An oracle that answers within `ok` brings it about. -/
theorem Ensures.answeredBy {ok : List (Sigma A) → ∀ q, A q → Prop} {post : List (Sigma A) → Except ε α → Prop}
    {o : ∀ q, A q} (ho : ∀ log q, ok log q (o q)) {log : List (Sigma A)} {p : Asking A ε α}
    (h : Ensures ok post log p) :
    ∃ asked, (∀ x ∈ asked, x.2 = o x.1) ∧ post (log ++ asked) (p.answeredBy o) := by
  induction p generalizing log with
  | ret r => exact ⟨[], nofun, by rw [List.append_nil]; exact h⟩
  | ask q k ih =>
    obtain ⟨asked, hasked, hpost⟩ := ih (o q) (h (o q) (ho log q))
    exact ⟨⟨q, o q⟩ :: asked, List.forall_mem_cons.2 ⟨rfl, hasked⟩, by simpa using hpost⟩

/-- At most `n` questions are asked. -/
def Within : Nat → Asking A ε α → Prop
  | _, ret _ => True
  | 0, ask _ _ => False
  | n + 1, ask _ k => ∀ a, Within n (k a)

theorem within_ret (n : Nat) (r : Except ε α) : Within n (ret r : Asking A ε α) := by
  cases n <;> trivial

theorem Within.mono {p : Asking A ε α} {n n' : Nat} (h : Within n p) (hle : n ≤ n') : Within n' p := by
  induction p generalizing n n' with
  | ret r => exact within_ret n' r
  | ask q k ih =>
    cases n with
    | zero => exact h.elim
    | succ n =>
      obtain ⟨j, rfl⟩ := Nat.exists_eq_add_of_le hle
      rw [Nat.add_right_comm]
      exact fun a => ih a (h a) (Nat.le_add_right n j)

theorem within_bind (n n' : Nat) {p : Asking A ε α} {f : α → Asking A ε β} (hp : Within n p)
    (hf : ∀ a, Within n' (f a)) : Within (n + n') (p >>= f) := by
  induction p generalizing n with
  | ret r =>
    cases r with
    | error e => exact within_ret _ _
    | ok a => exact (hf a).mono (Nat.le_add_left n' n)
  | ask q k ih =>
    cases n with
    | zero => exact hp.elim
    | succ n =>
      rw [Nat.add_right_comm]
      exact fun a => ih a n (hp a)

/-- What asks nothing takes nothing off the bound. -/
theorem within_lift_bind {n : Nat} (r : Except ε α) {f : α → Asking A ε β}
    (hf : ∀ a, Within n (f a)) : Within n ((liftM r : Asking A ε α) >>= f) := by
  cases r with
  | error e => exact within_ret n _
  | ok a => exact hf a

/-! ## A world that changes -/

/-- The next question is asked, or another party acts. -/
inductive Move (E : Type*) where
  | own
  | other (e : E)

def Move.isOwn {E : Type*} : Move E → Bool
  | own => true
  | other _ => false

structure Config (A : Q → Type v) (ε α : Type v) (W : Type*) where
  world : W
  prog : Asking A ε α
  /-- The questions asked so far, and their answers. -/
  log : List (Sigma A)

variable {W E : Type*} (answer : W → ∀ q, A q) (act : W → E → W)

def step (c : Config A ε α W) : Move E → Config A ε α W
  | .own => match c.prog with
    | ret _ => c
    | ask q k => { c with prog := k (answer c.world q), log := c.log ++ [⟨q, answer c.world q⟩] }
  | .other e => { c with world := act c.world e }

/-- The step's question, if it asks one, is answered within `ok`. -/
def Allowed (ok : List (Sigma A) → ∀ q, A q → Prop) (c : Config A ε α W) : Move E → Prop
  | .own => ∀ q, c.prog.next? = some q → ok c.log q (answer c.world q)
  | .other _ => True

variable {answer act} {c : Config A ε α W}

@[simp] theorem step_own_world : (step answer act c (.own : Move E)).world = c.world := by
  obtain ⟨world, prog, log⟩ := c
  cases prog <;> rfl

theorem Ensures.step {ok : List (Sigma A) → ∀ q, A q → Prop}
    {post : List (Sigma A) → Except ε α → Prop} (h : Ensures ok post c.log c.prog) {a : Move E}
    (ha : Allowed answer ok c a) :
    Ensures ok post (step answer act c a).log (step answer act c a).prog := by
  obtain ⟨world, prog, log⟩ := c
  cases a with
  | other e => exact h
  | own =>
    cases prog with
    | ret r => exact h
    | ask q k => exact h _ (ha q rfl)

theorem Ensures.result {ok : List (Sigma A) → ∀ q, A q → Prop}
    {post : List (Sigma A) → Except ε α → Prop} {log : List (Sigma A)} {p : Asking A ε α}
    (h : Ensures ok post log p) {r : Except ε α} (hr : p.result? = some r) : post log r := by
  cases p with
  | ret r' => cases hr; exact h
  | ask q k => cases hr

theorem Within.step {n : Nat} (h : Within (n + 1) c.prog) :
    Within n (step answer act c (.own : Move E)).prog := by
  obtain ⟨world, prog, log⟩ := c
  cases prog with
  | ret r => exact within_ret n r
  | ask q k => exact h _

/-- After as many steps as it asks questions it has ended, whatever the others do. -/
theorem ended_of_within {acts : List (Move E)} (h : Within (acts.countP Move.isOwn) c.prog) :
    (Runs.run (step answer act) c acts).prog.result? ≠ none := by
  induction acts generalizing c with
  | nil =>
    obtain ⟨world, prog, log⟩ := c
    cases prog with
    | ret r => exact Option.some_ne_none r
    | ask q k => exact h.elim
  | cons a acts ih =>
    refine ih ?_
    cases a with
    | own =>
      rw [List.countP_cons_of_pos rfl] at h
      exact h.step
    | other e =>
      rw [List.countP_cons_of_neg (by simp [Move.isOwn])] at h
      exact h

/-- Every answer in the log was true when it was given. -/
theorem asked_during {acts : List (Move E)} {entry : Sigma A}
    (h : entry ∈ (Runs.run (step answer act) c acts).log) : entry ∈ c.log ∨
      ∃ pre post, acts = pre ++ .own :: post ∧
        (Runs.run (step answer act) c pre).prog.next? = some entry.1 ∧
        answer (Runs.run (step answer act) c pre).world entry.1 = entry.2 := by
  induction acts using List.reverseRecOn with
  | nil => exact Or.inl h
  | append_singleton acts a ih =>
    have hearlier : entry ∈ (Runs.run (step answer act) c acts).log → entry ∈ c.log ∨
        ∃ pre post, acts ++ [a] = pre ++ .own :: post ∧
          (Runs.run (step answer act) c pre).prog.next? = some entry.1 ∧
          answer (Runs.run (step answer act) c pre).world entry.1 = entry.2 := by
      intro hmem
      rcases ih hmem with hmem | ⟨pre, post, rfl, hnow⟩
      · exact Or.inl hmem
      · exact Or.inr ⟨pre, post ++ [a], by simp, hnow⟩
    rw [Runs.run_concat] at h
    cases a with
    | other e => exact hearlier h
    | own =>
      cases hprog : (Runs.run (step answer act) c acts).prog with
      | ret r =>
        simp only [step, hprog] at h
        exact hearlier h
      | ask q k =>
        simp only [step, hprog, List.mem_append, List.mem_singleton] at h
        rcases h with h | rfl
        · exact hearlier h
        · exact Or.inr ⟨acts, [], rfl, by rw [hprog]; rfl, rfl⟩

end Asking
