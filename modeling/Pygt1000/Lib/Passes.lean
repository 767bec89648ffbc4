import Mathlib.Data.List.Basic
import Mathlib.Data.List.Infix

/-!
# One pass over a list by a step that may raise

A loop with variables is `List.foldlM` of a step from a state and an input to the next state. What
is proved of a step carries to a pass that returned:

* `append`, `cons`: a pass in parts;
* `invariant`, `invariant_guarded`: an invariant of the state; `returns`: where it also keeps the
  step from raising, the pass returns;
* `Guarded`: every step met a condition; `outputs`: what the steps put out.

`mapM_eq_ok` is the pass that changes each element on its own.
-/

namespace Passes

universe u

variable {ε σ α β : Type*} {step : σ → α → Except ε σ} {s t : σ} {a : α} {xs ys : List α}

theorem bind_eq_ok {γ δ : Type u} {x : Except ε γ} {f : γ → Except ε δ} {r : δ} :
    (x >>= f) = .ok r ↔ ∃ u, x = .ok u ∧ f u = .ok r := by
  cases x with
  | error e => exact ⟨(fun h => by cases h), fun ⟨_, h, _⟩ => by cases h⟩
  | ok u => exact ⟨(fun h => ⟨u, rfl, h⟩), fun ⟨_, rfl, h⟩ => h⟩

theorem cons : (a :: xs).foldlM step s = .ok t ↔ ∃ u, step s a = .ok u ∧ xs.foldlM step u = .ok t := by
  rw [List.foldlM_cons, bind_eq_ok]

theorem append :
    (xs ++ ys).foldlM step s = .ok t ↔ ∃ u, xs.foldlM step s = .ok u ∧ ys.foldlM step u = .ok t := by
  rw [List.foldlM_append, bind_eq_ok]

theorem nil : ([] : List α).foldlM step s = .ok t ↔ s = t :=
  ⟨fun h => by cases h; rfl, fun h => h ▸ rfl⟩

/-- Every step of the pass that is taken meets `ok` in the state it is taken in. -/
def Guarded (step : σ → α → Except ε σ) (ok : σ → α → Prop) : σ → List α → Prop
  | _, [] => True
  | s, a :: xs => ∀ t, step s a = .ok t → ok s a ∧ Guarded step ok t xs

variable {ok : σ → α → Prop}

theorem guarded_cons (h : step s a = .ok t) : Guarded step ok s (a :: xs) ↔ ok s a ∧ Guarded step ok t xs := by
  refine ⟨fun hg => hg t h, fun hg u hu => ?_⟩
  rw [h] at hu
  cases hu
  exact hg

theorem guarded_append (h : Guarded step ok s (xs ++ ys)) (hs : xs.foldlM step s = .ok t) :
    Guarded step ok t ys := by
  induction xs generalizing s with
  | nil => exact nil.1 hs ▸ h
  | cons a xs ih =>
    obtain ⟨u, hu, hrest⟩ := cons.1 hs
    exact ih (h u hu).2 hrest

theorem invariant_guarded {I : σ → Prop} (hstep : ∀ s a t, step s a = .ok t → ok s a → I s → I t)
    (hg : Guarded step ok s xs) (h : xs.foldlM step s = .ok t) (h0 : I s) : I t := by
  induction xs generalizing s with
  | nil => exact nil.1 h ▸ h0
  | cons a xs ih =>
    obtain ⟨u, hu, hrest⟩ := cons.1 h
    obtain ⟨hok, hg⟩ := hg u hu
    exact ih hg hrest (hstep s a u hu hok h0)

theorem invariant {I : σ → Prop} (hstep : ∀ s a t, step s a = .ok t → a ∈ xs → I s → I t)
    (h : xs.foldlM step s = .ok t) (h0 : I s) : I t := by
  induction xs generalizing s with
  | nil => exact nil.1 h ▸ h0
  | cons a xs ih =>
    obtain ⟨u, hu, hrest⟩ := cons.1 h
    exact ih (fun s b t hs hb => hstep s b t hs (List.mem_cons_of_mem a hb)) hrest
      (hstep s a u hu List.mem_cons_self h0)

/-- A pass returns where every step does and keeps what makes the next one return. -/
theorem returns {I : σ → Prop} (hstep : ∀ s, ∀ a ∈ xs, I s → ∃ t, step s a = .ok t ∧ I t) (h0 : I s) :
    ∃ t, xs.foldlM step s = .ok t ∧ I t := by
  induction xs generalizing s with
  | nil => exact ⟨s, rfl, h0⟩
  | cons a xs ih =>
    obtain ⟨u, hu, hI⟩ := hstep s a List.mem_cons_self h0
    obtain ⟨t, ht, hI⟩ := ih (fun s b hb => hstep s b (List.mem_cons_of_mem a hb)) hI
    exact ⟨t, cons.2 ⟨u, hu, ht⟩, hI⟩

/-- What the steps of a pass put out, in order, up to one that raises. -/
def outputs (step : σ → α → Except ε σ) (out : σ → α → List β) : σ → List α → List β
  | _, [] => []
  | s, a :: xs =>
    match step s a with
    | .ok t => out s a ++ outputs step out t xs
    | .error _ => []

theorem outputs_cons {out : σ → α → List β} (h : step s a = .ok t) :
    outputs step out s (a :: xs) = out s a ++ outputs step out t xs := by simp [outputs, h]

theorem outputs_append {out : σ → α → List β} (h : xs.foldlM step s = .ok t) :
    outputs step out s (xs ++ ys) = outputs step out s xs ++ outputs step out t ys := by
  induction xs generalizing s with
  | nil => rw [nil.1 h]; rfl
  | cons a xs ih =>
    obtain ⟨u, hu, hrest⟩ := cons.1 h
    rw [List.cons_append, outputs_cons hu, outputs_cons hu, ih hrest, List.append_assoc]

theorem mapM_eq_ok {f : α → Except ε β} {ys : List β} :
    xs.mapM f = .ok ys ↔ List.Forall₂ (fun x y => f x = .ok y) xs ys := by
  induction xs generalizing ys with
  | nil => exact ⟨fun h => by cases h; exact .nil, fun h => by cases h; rfl⟩
  | cons x xs ih =>
    rw [List.mapM_cons]
    constructor
    · intro h
      obtain ⟨y, hy, h⟩ := bind_eq_ok.1 h
      obtain ⟨ys', hys, h⟩ := bind_eq_ok.1 h
      cases h
      exact .cons hy (ih.1 hys)
    · intro h
      cases h with
      | cons hx hxs => rw [hx, ih.2 hxs]; rfl

theorem exists_of_mem_mapM {f : α → Except ε β} {ys : List β} {y : β} (h : xs.mapM f = .ok ys)
    (hy : y ∈ ys) : ∃ x ∈ xs, f x = .ok y := by
  have hall := mapM_eq_ok.1 h
  clear h
  induction hall with
  | nil => cases hy
  | @cons x _ _ _ hx _ ih =>
    rcases List.mem_cons.1 hy with rfl | hy
    · exact ⟨x, List.mem_cons_self, hx⟩
    · obtain ⟨x', hx', hf⟩ := ih hy
      exact ⟨x', List.mem_cons_of_mem x hx', hf⟩

theorem mapM_returns {f : α → Except ε β} (h : ∀ x ∈ xs, ∃ y, f x = .ok y) : ∃ ys, xs.mapM f = .ok ys := by
  induction xs with
  | nil => exact ⟨[], rfl⟩
  | cons x xs ih =>
    obtain ⟨y, hy⟩ := h x List.mem_cons_self
    obtain ⟨ys, hys⟩ := ih fun x' hx' => h x' (List.mem_cons_of_mem x hx')
    exact ⟨y :: ys, mapM_eq_ok.2 (.cons hy (mapM_eq_ok.1 hys))⟩

end Passes
