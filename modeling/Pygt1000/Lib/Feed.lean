import Mathlib.Data.List.Basic

/-!
# Copies kept up by an in-order feed

A source holds a value and announces every change of it; the announcements arrive in order, and
somebody keeps a copy. `Follows queue held copy` says that the copy will be what the source holds
once the announcements still under way have arrived, whatever else happens to them on the way:

* `follows_change`, `follows_applied`: a change, and an announcement the copy takes over;
* `follows_dropped`: one it does not take over, if a later one is under way or the copy already
  has its value;
* `follows_refl`: the source's value, copied now;
* `follows_ahead`: any value, while an announcement is under way;
* `follows_nil`: with nothing under way, the copy is what the source holds.

A source may also be reset: it then holds another value without announcing it, and what is under way
says no more than that it was. `FollowsSince` is about the announcements after the last reset.
-/

namespace Feed

variable {α : Type*} {queue : List α} {held copy v : α}

def Follows (queue : List α) (held copy : α) : Prop := queue.getLastD copy = held

theorem follows_nil : Follows [] held copy ↔ copy = held := Iff.rfl

theorem follows_change (queue : List α) (copy v : α) : Follows (queue ++ [v]) v copy := by
  simp [Follows]

theorem follows_applied (h : Follows (v :: queue) held copy) : Follows queue held v := by
  cases queue with
  | nil => exact h
  | cons w queue => simpa only [Follows, List.getLastD_cons] using h

theorem follows_dropped (h : Follows (v :: queue) held copy) (hv : queue = [] → copy = v) :
    Follows queue held copy := by
  cases queue with
  | nil => exact (hv rfl).trans h
  | cons w queue => simpa only [Follows, List.getLastD_cons] using h

/-- A copy of what the source holds follows it, if any copy does. -/
theorem follows_refl (h : Follows queue held copy) : Follows queue held held := by
  cases queue with
  | nil => rfl
  | cons w queue => simpa only [Follows, List.getLastD_cons] using h

/-- What is under way decides. -/
theorem follows_ahead (hq : queue ≠ []) (h : Follows queue held copy) : Follows queue held v := by
  cases queue with
  | nil => exact absurd rfl hq
  | cons w queue => simpa only [Follows, List.getLastD_cons] using h

/-! ## Resets -/

section

variable {β : Type*} {resets : β → Prop} {about : β → Option α} {frames : List β} {frame : β}

/-- What comes after the last reset under way announces what the source holds. -/
def FollowsSince (resets : β → Prop) (about : β → Option α) (frames : List β) (held : α) : Prop :=
  ∃ pre post, frames = pre ++ post ∧ (∀ frame ∈ pre.getLast?, resets frame) ∧
    Follows (post.filterMap about) held held

theorem followsSince_nil : FollowsSince resets about [] held := ⟨[], [], rfl, nofun, rfl⟩

theorem followsSince_reset (h : resets frame) : FollowsSince resets about (frames ++ [frame]) held :=
  ⟨frames ++ [frame], [], (List.append_nil _).symm, by simpa using h, rfl⟩

theorem followsSince_change (hf : FollowsSince resets about frames held) (h : about frame = some v) :
    FollowsSince resets about (frames ++ [frame]) v := by
  obtain ⟨pre, post, rfl, hlast, -⟩ := hf
  refine ⟨pre, post ++ [frame], List.append_assoc .., hlast, ?_⟩
  simpa [h] using follows_change (post.filterMap about) v v

theorem followsSince_other (hf : FollowsSince resets about frames held) (h : about frame = none) :
    FollowsSince resets about (frames ++ [frame]) held := by
  obtain ⟨pre, post, rfl, hlast, hpost⟩ := hf
  exact ⟨pre, post ++ [frame], List.append_assoc .., hlast, by simpa [h] using hpost⟩

/-- The oldest one arrives. -/
theorem followsSince_tail (hf : FollowsSince resets about (frame :: frames) held) :
    FollowsSince resets about frames held := by
  obtain ⟨pre, post, heq, hlast, hpost⟩ := hf
  cases pre with
  | nil =>
    obtain rfl : frame :: frames = post := heq
    refine ⟨[], frames, rfl, nofun, ?_⟩
    cases habout : about frame with
    | none => simpa [habout] using hpost
    | some v => exact follows_refl (follows_applied (by simpa [habout] using hpost))
  | cons f pre =>
    obtain ⟨rfl, rfl⟩ := List.cons.inj heq
    refine ⟨pre, post, rfl, fun x hx => hlast x ?_, hpost⟩
    cases pre with
    | nil => cases hx
    | cons y pre => simpa using hx

theorem followsSince_none (hf : FollowsSince resets about frames held) (h : ∀ frame ∈ frames, ¬ resets frame) :
    Follows (frames.filterMap about) held held := by
  obtain ⟨pre, post, rfl, hlast, hpost⟩ := hf
  obtain rfl : pre = [] := by
    by_contra hne
    have hmem := List.getLast_mem hne
    exact h _ (List.mem_append_left post hmem) (hlast _ (List.getLast?_eq_some_getLast hne))
  exact hpost

end

end Feed
