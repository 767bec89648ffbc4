import Mathlib.Data.List.Basic
import Mathlib.Data.List.Nodup

/-!
# Dictionaries that keep the order of insertion

A list of keys with their values, each key once. An assignment to a key that is there changes its
value in place (`AList.insert` would move it); any other goes to the end. `List.lookup` reads. What
a loop of assignments leaves is said by `lookup_set`, by `keys_set_of_mem` and by `set_of_not_mem`.
-/

namespace Dict

variable {κ β : Type*} [BEq κ]

def keys (d : List (κ × β)) : List κ := d.map Prod.fst

/-- `d[k] = v`. -/
def set (k : κ) (v : β) : List (κ × β) → List (κ × β)
  | [] => [(k, v)]
  | x :: d => if x.1 == k then (k, v) :: d else x :: set k v d

/-- `d[k]` changed in place, where the key is there. -/
def modify (k : κ) (f : β → β) (d : List (κ × β)) : List (κ × β) :=
  d.map fun x => if x.1 == k then (x.1, f x.2) else x

variable {k l : κ} {v : β} {d : List (κ × β)}

@[simp] theorem keys_modify (f : β → β) : keys (modify k f d) = keys d := by
  simp only [keys, modify, List.map_map]
  refine List.map_congr_left fun x _ => ?_
  simp only [Function.comp]
  split <;> rfl

theorem mem_of_mem_set {x : κ × β} (h : x ∈ set k v d) : x = (k, v) ∨ x ∈ d := by
  induction d with
  | nil => exact .inl (List.mem_singleton.1 h)
  | cons y d ih =>
    rw [set] at h
    split at h
    · rcases List.mem_cons.1 h with hx | hx
      · exact .inl hx
      · exact .inr (List.mem_cons_of_mem y hx)
    · rcases List.mem_cons.1 h with rfl | hx
      · exact .inr List.mem_cons_self
      · exact (ih hx).imp_right (List.mem_cons_of_mem y)

theorem lookup_map {γ : Type*} (f : β → γ) :
    (d.map fun x => (x.1, f x.2)).lookup l = (d.lookup l).map f := by
  induction d with
  | nil => rfl
  | cons x d ih =>
    rw [List.map_cons, List.lookup_cons, List.lookup_cons, ih]
    split <;> rfl

variable [LawfulBEq κ]

theorem lookup_set : (set k v d).lookup l = if l == k then some v else d.lookup l := by
  induction d with
  | nil => cases h : l == k <;> simp [set, List.lookup_cons, h]
  | cons x d ih =>
    obtain ⟨a, b⟩ := x
    by_cases hak : a = k
    · subst hak
      cases h : l == a <;> simp [set, List.lookup_cons, h]
    · by_cases hla : l = a
      · subst hla
        simp [set, hak]
      · simp [set, List.lookup_cons, hak, beq_eq_false_iff_ne.2 hla, ih]

@[simp] theorem lookup_set_self : (set k v d).lookup k = some v := by simp [lookup_set]

theorem lookup_set_of_ne (h : l ≠ k) : (set k v d).lookup l = d.lookup l := by simp [lookup_set, h]

theorem set_of_not_mem (h : k ∉ keys d) : set k v d = d ++ [(k, v)] := by
  induction d with
  | nil => rfl
  | cons x d ih =>
    simp only [keys, List.map_cons, List.mem_cons, not_or] at h
    simp [set, Ne.symm h.1, ih h.2]

theorem keys_set_of_mem (h : k ∈ keys d) : keys (set k v d) = keys d := by
  induction d with
  | nil => cases h
  | cons x d ih =>
    by_cases hxk : x.1 = k
    · simp [set, keys, hxk]
    · have hmem : k ∈ keys d := by simpa [keys, Ne.symm hxk] using h
      have ih := ih hmem
      simp only [keys] at ih
      simp [set, keys, hxk, ih]

theorem keys_set_of_not_mem (h : k ∉ keys d) : keys (set k v d) = keys d ++ [k] := by
  simp [set_of_not_mem h, keys]

theorem length_set : (set k v d).length = if k ∈ keys d then d.length else d.length + 1 := by
  have hlen : ∀ d : List (κ × β), (keys d).length = d.length := fun d => List.length_map _
  rw [← hlen]
  split
  · next h => rw [keys_set_of_mem h, hlen]
  · next h => rw [keys_set_of_not_mem h, List.length_append, hlen, List.length_singleton]

theorem mem_keys_set : l ∈ keys (set k v d) ↔ l = k ∨ l ∈ keys d := by
  by_cases h : k ∈ keys d
  · rw [keys_set_of_mem h]
    exact ⟨Or.inr, fun hl => hl.elim (fun hlk => hlk ▸ h) id⟩
  · simp [keys_set_of_not_mem h, or_comm]

theorem nodup_keys_set (h : (keys d).Nodup) : (keys (set k v d)).Nodup := by
  by_cases hk : k ∈ keys d
  · rwa [keys_set_of_mem hk]
  · rw [keys_set_of_not_mem hk]
    exact List.nodup_append.2 ⟨h, List.nodup_singleton k, by rintro a ha b hb rfl; simp_all⟩

theorem mem_of_lookup (h : d.lookup k = some v) : (k, v) ∈ d := by
  obtain ⟨pre, post, rfl, -⟩ := List.lookup_eq_some_iff.1 h
  simp

theorem lookup_of_mem (hd : (keys d).Nodup) (h : (k, v) ∈ d) : d.lookup k = some v := by
  induction d with
  | nil => cases h
  | cons x d ih =>
    obtain ⟨a, b⟩ := x
    simp only [keys, List.map_cons, List.nodup_cons] at hd
    rcases List.mem_cons.1 h with h | h
    · obtain ⟨rfl, rfl⟩ := Prod.mk.inj h
      simp
    · have hka : k ≠ a := fun hka => hd.1 (hka ▸ List.mem_map_of_mem h)
      rw [List.lookup_cons, beq_eq_false_iff_ne.2 hka]
      exact ih hd.2 h

theorem lookup_modify (f : β → β) :
    (modify k f d).lookup l = if l == k then (d.lookup l).map f else d.lookup l := by
  induction d with
  | nil => simp [modify]
  | cons x d ih =>
    obtain ⟨a, b⟩ := x
    simp only [modify, List.map_cons] at ih ⊢
    by_cases hla : l = a
    · subst hla
      by_cases hlk : l = k <;> simp [hlk]
    · have hl : (l == a) = false := beq_eq_false_iff_ne.2 hla
      by_cases hak : a = k
      · simp only [hak, beq_self_eq_true, if_true, List.lookup_cons, hak ▸ hl, ih]
      · simp only [beq_eq_false_iff_ne.2 hak, Bool.false_eq_true, if_false, List.lookup_cons, hl, ih]

theorem mem_of_mem_modify {f : β → β} {x : κ × β} (h : x ∈ modify k f d) :
    (∃ v, (k, v) ∈ d ∧ x = (k, f v)) ∨ x ∈ d := by
  obtain ⟨⟨a, b⟩, hy, rfl⟩ := List.mem_map.1 h
  by_cases hak : a = k
  · subst hak
    exact .inl ⟨b, hy, by simp⟩
  · exact .inr (by simpa [hak] using hy)

/-- What was put in last. -/
theorem modify_concat (f : β → β) (h : k ∉ keys d) : modify k f (d ++ [(k, v)]) = d ++ [(k, f v)] := by
  have hother : modify k f d = d := by
    refine (List.map_congr_left fun x hx => if_neg ?_).trans (List.map_id d)
    simpa using fun heq : x.1 = k => h (heq ▸ List.mem_map_of_mem hx)
  rw [modify, List.map_append, ← modify, hother, List.map_singleton, if_pos BEq.rfl]

end Dict
