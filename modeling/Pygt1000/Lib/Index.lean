import Mathlib.Data.List.Count
import Mathlib.Data.List.Induction
import Mathlib.Logic.Function.Basic

/-!
# Indexes built by a loop of assignments

A loop `for x in xs: d[key(x)] = val(x)` leaves in `d`, at every key, the value of the last
element with that key. A lossy `key` makes the index forget elements, and the lemmas say which:

* `index_eq_some`: what is found belongs to an element of the list;
* `index_of_mem`: the key of every element is found;
* `index_unique`: an element that shares its key with no other is what is found there;
* `index_perm`: the order of the loop matters only for elements that share a key and not a value.

An element that is alone with its key is one a count sees once: `eq_of_countP_one`.
-/

namespace Index

variable {α κ β : Type*} [DecidableEq κ]

/-- The dictionary after the loop. -/
def index (key : α → κ) (val : α → β) (xs : List α) : κ → Option β :=
  xs.foldl (fun d x => Function.update d (key x) (some (val x))) (fun _ => none)

variable {key : α → κ} {val : α → β} {xs : List α}

theorem index_concat (x : α) :
    index key val (xs ++ [x]) = Function.update (index key val xs) (key x) (some (val x)) :=
  List.foldl_append

theorem index_map {γ : Type*} (f : γ → α) (ys : List γ) :
    index key val (ys.map f) = index (fun y => key (f y)) (fun y => val (f y)) ys :=
  List.foldl_map

theorem index_cons_of_ne {x : α} {k : κ} (hk : key x ≠ k) : index key val (x :: xs) k = index key val xs k := by
  induction xs using List.reverseRecOn with
  | nil => exact Function.update_of_ne (Ne.symm hk) (some (val x)) fun _ => none
  | append_singleton xs z ih =>
    rw [← List.cons_append, index_concat, index_concat]
    by_cases hz : k = key z
    · rw [hz, Function.update_self, Function.update_self]
    · rw [Function.update_of_ne hz, Function.update_of_ne hz, ih]

theorem map_index {γ : Type*} (f : β → γ) (k : κ) :
    (index key val xs k).map f = index key (fun x => f (val x)) xs k := by
  induction xs using List.reverseRecOn with
  | nil => rfl
  | append_singleton xs z ih =>
    rw [index_concat, index_concat]
    by_cases hz : k = key z
    · rw [hz, Function.update_self, Function.update_self, Option.map_some]
    · rw [Function.update_of_ne hz, Function.update_of_ne hz, ih]

theorem index_eq_some {k : κ} {v : β} (h : index key val xs k = some v) :
    ∃ x ∈ xs, key x = k ∧ val x = v := by
  induction xs using List.reverseRecOn with
  | nil => cases h
  | append_singleton xs z ih =>
    rw [index_concat] at h
    by_cases hz : k = key z
    · subst hz
      exact ⟨z, by simp, rfl, by simpa using h⟩
    · rw [Function.update_of_ne hz] at h
      obtain ⟨x, hx, hkv⟩ := ih h
      exact ⟨x, by simp [hx], hkv⟩

theorem index_eq_none {k : κ} (h : ∀ x ∈ xs, key x ≠ k) : index key val xs k = none := by
  by_contra hne
  obtain ⟨v, hv⟩ := Option.ne_none_iff_exists'.1 hne
  obtain ⟨x, hx, hxk, -⟩ := index_eq_some hv
  exact h x hx hxk

theorem index_of_mem (key : α → κ) (val : α → β) {x : α} (hx : x ∈ xs) :
    ∃ y ∈ xs, key y = key x ∧ index key val xs (key x) = some (val y) := by
  induction xs using List.reverseRecOn with
  | nil => cases hx
  | append_singleton xs z ih =>
    rw [index_concat]
    by_cases hz : key x = key z
    · exact ⟨z, by simp, hz.symm, by rw [hz, Function.update_self]⟩
    · have hx : x ∈ xs := by
        rcases List.mem_append.1 hx with hx | hx
        · exact hx
        · exact absurd (congrArg key (List.mem_singleton.1 hx)) hz
      obtain ⟨y, hy, hyx, he⟩ := ih hx
      exact ⟨y, by simp [hy], hyx, by rw [Function.update_of_ne hz, he]⟩

theorem index_unique {x : α} (hx : x ∈ xs) (hu : ∀ y ∈ xs, key y = key x → y = x) :
    index key val xs (key x) = some (val x) := by
  obtain ⟨y, hy, hyx, he⟩ := index_of_mem key val hx
  rw [he, hu y hy hyx]

/-- The loop over more elements goes on from where it was. -/
theorem index_append (ys : List α) : index key val (xs ++ ys) =
    ys.foldl (fun d x => Function.update d (key x) (some (val x))) (index key val xs) :=
  List.foldl_append

theorem index_perm {ys : List α} (h : xs.Perm ys)
    (hsame : ∀ x ∈ xs, ∀ y ∈ xs, key x = key y → val x = val y) : index key val xs = index key val ys := by
  funext k
  by_cases hk : ∃ x ∈ xs, key x = k
  · obtain ⟨x, hx, rfl⟩ := hk
    obtain ⟨y, hy, hyx, he⟩ := index_of_mem key val hx
    obtain ⟨z, hz, hzx, he'⟩ := index_of_mem key val (h.mem_iff.1 hx)
    rw [he, he', hsame y hy z (h.mem_iff.2 hz) (hyx.trans hzx.symm)]
  · rw [index_eq_none fun x hx hxk => hk ⟨x, hx, hxk⟩,
      index_eq_none fun x hx hxk => hk ⟨x, h.mem_iff.2 hx, hxk⟩]

/-- Of two elements that a count of one sees, both are that one. -/
theorem eq_of_countP_one {α : Type*} {xs : List α} {p : α → Bool} {x y : α}
    (h : xs.countP p = 1) (hx : x ∈ xs) (hy : y ∈ xs) (hpx : p x = true) (hpy : p y = true) : x = y := by
  rw [List.countP_eq_length_filter, List.length_eq_one_iff] at h
  obtain ⟨z, hz⟩ := h
  have hmem : ∀ w ∈ xs, p w = true → w = z := fun w hw hpw => by
    have : w ∈ xs.filter p := List.mem_filter.2 ⟨hw, hpw⟩
    simpa [hz] using this
  rw [hmem x hx hpx, hmem y hy hpy]

end Index
