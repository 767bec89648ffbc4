import Pygt1000.Correlation
import Mathlib.Data.List.Count

/-!
# Concurrent exchanges: who completes, and where each frame goes

`_pending` has one slot for an address. As long as no exchange registers an address that is
still pending (`Exclusive`), the exchange that registered a key owns it until it removes it
(`Owned`): no poll raises, every exchange returns within `retryCount + 4` steps of its own, and a
matching frame that comes in while polls are left is returned (`exchanges_complete`). Two
overlapping exchanges at one address share the slot, and the first to finish deletes it under the
other: `overlap_raises`.

A slot also forgets: a second frame overwrites the first, and one that comes in after the last
poll is removed with the key. Where neither happens (`Lossless`), every accepted frame is
either returned by an exchange at its address or given to the callback, once
(`accepted_consumed_once`); `second_frame_swallowed` is a run where one is not.
-/

namespace Pygt1000.DeviceLink

/-- Polls an exchange still has to make once its key is registered. -/
def Pc.pollsLeft (retryCount : Nat) : Pc → Nat
  | .registered _ => retryCount
  | .polling more => more + 1
  | _ => 0

/-- The key is registered and not removed. -/
def Pc.holds : Pc → Bool
  | .registered _ | .polling _ | .removing _ => true
  | _ => false

theorem holds_of_pollsLeft {retryCount : Nat} {pc : Pc} (h : 0 < pc.pollsLeft retryCount) :
    pc.holds = true := by
  cases pc <;> simp_all [Pc.pollsLeft, Pc.holds]

theorem waitFrom_holds (n : Nat) : (waitFrom n).holds = true := by cases n <;> rfl

theorem waitFrom_ne_raised (n : Nat) : waitFrom n ≠ .raised := by cases n <;> simp [waitFrom]

theorem waitFrom_pollsLeft (retryCount n : Nat) : (waitFrom n).pollsLeft retryCount = n := by
  cases n <;> rfl

variable (calls : Nat → Call) (retryCount deviceId : Nat)

/-- About to register its key. -/
def Pc.registers : Pc → Bool
  | .framed _ => true
  | _ => false

/-- No exchange registers an address that is pending. -/
def Exclusive (s : Link) : Act → Prop
  | .advance i => (s.pc i).registers = true → s.pending (calls i).address = none
  | .receive _ => True

instance : ∀ (s : Link) (act : Act), Decidable (Exclusive calls s act)
  | s, .advance i => inferInstanceAs
      (Decidable ((s.pc i).registers = true → s.pending (calls i).address = none))
  | _, .receive _ => isTrue trivial

/-! ## Keys have one owner -/

/-- Registered keys are pending, each for one exchange, and nothing else is. -/
structure Owned (s : Link) : Prop where
  pending : ∀ i, (s.pc i).holds = true → s.pending (calls i).address ≠ none
  unique : ∀ i j, (s.pc i).holds = true → (s.pc j).holds = true →
    (calls i).address = (calls j).address → i = j
  owner : ∀ key, s.pending key ≠ none → ∃ i, (s.pc i).holds = true ∧ (calls i).address = key
  noRaise : ∀ i, s.pc i ≠ .raised

variable {calls retryCount deviceId} {s : Link}

theorem owned_fresh : Owned calls (fresh deviceId) :=
  ⟨fun i h => by simp [fresh, Pc.holds] at h, fun i j h => by simp [fresh, Pc.holds] at h,
    fun key h => absurd rfl h, fun i => by simp [fresh]⟩

/-- A step inside the exchange, its key registered before and after or not at all. -/
theorem Owned.setPc (h : Owned calls s) {i : Nat} {pc : Pc} (hh : pc.holds = (s.pc i).holds)
    (hr : pc ≠ .raised) : Owned calls (s.setPc i pc) := by
  have hpc : ∀ j, ((s.setPc i pc).pc j).holds = (s.pc j).holds := by
    intro j
    by_cases hj : j = i
    · subst hj; simpa using hh
    · simp [hj]
  refine ⟨fun j hj => h.pending j (hpc j ▸ hj), fun j k hj hk => h.unique j k (hpc j ▸ hj) (hpc k ▸ hk),
    fun key hkey => ?_, fun j => ?_⟩
  · obtain ⟨j, hj, ha⟩ := h.owner key hkey
    exact ⟨j, (hpc j).trans hj, ha⟩
  · by_cases hj : j = i
    · subst hj; simpa using hr
    · simpa [hj] using h.noRaise j

/-- Registering a key nobody holds. -/
theorem Owned.register (h : Owned calls s) {i : Nat} {message : List Nat}
    (hfree : s.pending (calls i).address = none) :
    Owned calls ((s.setPending (calls i).address (some none)).setPc i (.registered message)) := by
  have hne : ∀ j, (s.pc j).holds = true → (calls j).address ≠ (calls i).address := by
    intro j hj hk
    exact h.pending j hj (hk ▸ hfree)
  refine ⟨fun j hj => ?_, fun j k hj hk hjk => ?_, fun key hkey => ?_, fun j => ?_⟩
  · by_cases hji : j = i
    · subst hji; simp
    · have hj' : (s.pc j).holds = true := by simpa [hji] using hj
      simpa [hne j hj'] using h.pending j hj'
  · by_cases hji : j = i <;> by_cases hki : k = i
    · rw [hji, hki]
    · have hk' : (s.pc k).holds = true := by simpa [hki] using hk
      exact absurd (hji ▸ hjk).symm (hne k hk')
    · have hj' : (s.pc j).holds = true := by simpa [hji] using hj
      exact absurd (hki ▸ hjk) (hne j hj')
    · exact h.unique j k (by simpa [hji] using hj) (by simpa [hki] using hk) hjk
  · by_cases hk : key = (calls i).address
    · exact ⟨i, by simp [Pc.holds], hk.symm⟩
    · obtain ⟨j, hj, ha⟩ := h.owner key (by simpa [hk] using hkey)
      have hji : j ≠ i := by rintro rfl; exact hk ha.symm
      exact ⟨j, by simpa [hji] using hj, ha⟩
  · by_cases hji : j = i
    · subst hji; simp
    · simpa [hji] using h.noRaise j

/-- Removing the key its owner holds. -/
theorem Owned.remove (h : Owned calls s) {i : Nat} (hi : (s.pc i).holds = true)
    (data : Option (List Nat)) :
    Owned calls ((s.setPending (calls i).address none).setPc i (.returned data)) := by
  have hold : ∀ j, (((s.setPending (calls i).address none).setPc i (.returned data)).pc j).holds = true →
      j ≠ i ∧ (s.pc j).holds = true := by
    intro j hj
    by_cases hji : j = i
    · subst hji; simp [Pc.holds] at hj
    · exact ⟨hji, by simpa [hji] using hj⟩
  refine ⟨fun j hj => ?_, fun j k hj hk hjk => h.unique j k (hold j hj).2 (hold k hk).2 hjk,
    fun key hkey => ?_, fun j => ?_⟩
  · obtain ⟨hji, hj'⟩ := hold j hj
    have hk : (calls j).address ≠ (calls i).address := fun hk => hji (h.unique j i hj' hi hk)
    simpa [hk] using h.pending j hj'
  · by_cases hk : key = (calls i).address
    · subst hk; simp at hkey
    · obtain ⟨j, hj, ha⟩ := h.owner key (by simpa [hk] using hkey)
      have hji : j ≠ i := by rintro rfl; exact hk ha.symm
      exact ⟨j, by simpa [hji] using hj, ha⟩
  · by_cases hji : j = i
    · subst hji; simp
    · simpa [hji] using h.noRaise j

/-- The slot of a key its owner polls is there, so the poll does not raise. -/
theorem Owned.poll_cases (h : Owned calls s) {i more : Nat} (hpc : s.pc i = .polling more) :
    (∃ data, s.pending (calls i).address = some (some data) ∧
      poll calls s i more = s.setPc i (.removing (some data))) ∨
    (s.pending (calls i).address = some none ∧ poll calls s i more = s.setPc i (waitFrom more)) := by
  have hp := h.pending i (by rw [hpc]; rfl)
  unfold poll
  match hs : s.pending (calls i).address with
  | none => exact absurd hs hp
  | some (some data) => exact Or.inl ⟨data, rfl, rfl⟩
  | some none => exact Or.inr ⟨rfl, rfl⟩

theorem Owned.advance (h : Owned calls s) {i : Nat} (hex : Exclusive calls s (.advance i)) :
    Owned calls (advance calls retryCount s i) := by
  unfold DeviceLink.advance
  split
  · next hpc => exact h.setPc (by rw [hpc]; rfl) (by simp)
  · next message hpc => exact h.register (hex (by rw [hpc]; rfl))
  · next message hpc =>
    have h' : Owned calls { s with sent := s.sent ++ [message] } := ⟨h.pending, h.unique, h.owner, h.noRaise⟩
    exact h'.setPc (by rw [waitFrom_holds]; simp [hpc, Pc.holds]) (waitFrom_ne_raised _)
  · next more hpc =>
    rcases h.poll_cases hpc with ⟨data, -, he⟩ | ⟨-, he⟩
    · rw [he]; exact h.setPc (by rw [hpc]; rfl) (by simp)
    · rw [he]; exact h.setPc (by rw [waitFrom_holds, hpc]; rfl) (waitFrom_ne_raised _)
  · next data hpc =>
    have h' := h.remove (i := i) (by rw [hpc]; rfl) data
    exact ⟨h'.pending, h'.unique, h'.owner, h'.noRaise⟩
  · exact h
  · exact h

theorem deliver_pending_none_iff (s : Link) (offset data key : List Nat) :
    (deliver s offset data).pending key = none ↔ s.pending key = none := by
  rw [deliver_pending]
  split
  · next h => simp [h.1, h.2]
  · rfl

theorem Owned.onReceive (h : Owned calls s) (message : List Nat) :
    Owned calls (onReceive s message) := by
  have hpc := onReceive_pc s message
  have hp : ∀ key, (DeviceLink.onReceive s message).pending key = none ↔ s.pending key = none := by
    intro key
    rcases onReceive_cases s message with ⟨offset, data, -, he⟩ | ⟨-, hpend, -⟩
    · rw [he]; exact deliver_pending_none_iff s offset data key
    · rw [hpend]
  refine ⟨fun i hi hn => h.pending i (hpc ▸ hi) ((hp _).1 hn), ?_, fun key hkey => ?_, ?_⟩
  · rw [hpc]; exact h.unique
  · rw [hpc]; exact h.owner key fun hn => hkey ((hp _).2 hn)
  · rw [hpc]; exact h.noRaise

theorem Owned.step (h : Owned calls s) {act : Act} (hex : Exclusive calls s act) :
    Owned calls (step calls retryCount s act) := by
  cases act with
  | advance i => exact h.advance hex
  | receive message => exact h.onReceive message

/-! ## Who completes -/

variable (calls retryCount deviceId) in
/-- A matching frame came in while exchange `i` was registered and had polls left. -/
def Arrived (acts : List Act) (i : Nat) : Prop :=
  ∃ pre message post data, acts = pre ++ .receive message :: post ∧
    parseDataReply (run calls retryCount (fresh deviceId) pre).deviceId message =
      some ((calls i).address, data) ∧
    0 < ((run calls retryCount (fresh deviceId) pre).pc i).pollsLeft retryCount

/-- The slot of exchange `i` is filled and it will poll it, or it is past that with data. -/
def Served (calls : Nat → Call) (retryCount : Nat) (s : Link) (i : Nat) : Prop :=
  (0 < (s.pc i).pollsLeft retryCount ∧ ∃ data, s.pending (calls i).address = some (some data)) ∨
  ∃ data, s.pc i = .removing (some data) ∨ s.pc i = .returned (some data)

/-- Steps of other exchanges leave a served exchange its filled slot. -/
theorem Served.advance_other (h : Owned calls s) {i j : Nat}
    (hex : Exclusive calls s (.advance j)) (hji : i ≠ j) (hs : Served calls retryCount s i) :
    Served calls retryCount (advance calls retryCount s j) i := by
  have hpc : (advance calls retryCount s j).pc i = s.pc i := advance_pc_other (Ne.symm hji)
  rcases hs with ⟨hpolls, data, hslot⟩ | ⟨data, hd⟩
  · refine Or.inl ⟨hpc ▸ hpolls, data, ?_⟩
    have hi := holds_of_pollsLeft hpolls
    have hk : (s.pc j).holds = true → (calls i).address ≠ (calls j).address :=
      fun hj hk => hji (h.unique i j hi hj hk)
    unfold advance
    split
    · exact hslot
    · next hpcj =>
      have hfree : s.pending (calls j).address = none := hex (by rw [hpcj]; rfl)
      have hne : (calls i).address ≠ (calls j).address := by
        intro hk; rw [hk, hfree] at hslot; cases hslot
      simpa [hne] using hslot
    · exact hslot
    · unfold poll; split <;> exact hslot
    · next hpcj =>
      have hne := hk (by rw [hpcj]; rfl)
      simpa [remove, hne] using hslot
    · exact hslot
    · exact hslot
  · exact Or.inr ⟨data, hpc ▸ hd⟩

theorem Served.advance_self (h : Owned calls s) {i : Nat} (hs : Served calls retryCount s i) :
    Served calls retryCount (advance calls retryCount s i) i := by
  rcases hs with ⟨hpolls, data, hslot⟩ | ⟨data, hd | hd⟩
  · cases hpc : s.pc i with
    | registered message =>
      have hretry : 0 < retryCount := by rw [hpc] at hpolls; exact hpolls
      refine Or.inl ⟨?_, data, by simpa [advance, hpc] using hslot⟩
      simpa [advance, hpc, waitFrom_pollsLeft] using hretry
    | polling more =>
      refine Or.inr ⟨data, Or.inl ?_⟩
      rcases h.poll_cases hpc with ⟨d, hd, he⟩ | ⟨hn, -⟩
      · obtain rfl : d = data := by simpa [hd] using hslot
        simp [advance, hpc, he]
      · rw [hn] at hslot; cases hslot
    | start | framed | removing | returned | raised => simp [hpc, Pc.pollsLeft] at hpolls
  · exact Or.inr ⟨data, Or.inr (by simp [advance, hd, remove])⟩
  · exact Or.inr ⟨data, Or.inr (by simp [advance, hd])⟩

theorem Served.onReceive {i : Nat} (hs : Served calls retryCount s i) (message : List Nat) :
    Served calls retryCount (onReceive s message) i := by
  have hpc := onReceive_pc s message
  rcases hs with ⟨hpolls, data, hslot⟩ | hd
  · refine Or.inl ⟨hpc ▸ hpolls, ?_⟩
    rcases onReceive_cases s message with ⟨offset, d, -, he⟩ | ⟨-, hp, -⟩
    · rw [he, deliver_pending]
      split
      · exact ⟨d, rfl⟩
      · exact ⟨data, hslot⟩
    · exact ⟨data, hp ▸ hslot⟩
  · exact Or.inr (hpc ▸ hd)

/-- A matching frame fills the slot of the exchange that owns the key. -/
theorem served_of_arrival (h : Owned calls s) {i : Nat} {message data : List Nat}
    (hp : parseDataReply s.deviceId message = some ((calls i).address, data))
    (hpolls : 0 < (s.pc i).pollsLeft retryCount) :
    Served calls retryCount (onReceive s message) i := by
  refine Or.inl ⟨onReceive_pc s message ▸ hpolls, data, ?_⟩
  have hkey := h.pending i (holds_of_pollsLeft hpolls)
  rw [onReceive_data hp, deliver_pending]
  simp [hkey]

theorem served_run {acts : List Act}
    (hg : Runs.Guarded (step calls retryCount) (Exclusive calls) (fresh deviceId) acts) :
    Owned calls (run calls retryCount (fresh deviceId) acts) ∧
    ∀ i, Arrived calls retryCount deviceId acts i →
      Served calls retryCount (run calls retryCount (fresh deviceId) acts) i := by
  refine Runs.invariant_history (I := fun as s => Owned calls s ∧
    ∀ i, Arrived calls retryCount deviceId as i → Served calls retryCount s i)
    ⟨owned_fresh, fun i h => ?_⟩ (fun as act hex h => ⟨h.1.step hex, fun i ha => ?_⟩) hg
  · obtain ⟨pre, message, post, _, hs, -⟩ := h
    exact absurd hs (by simp)
  · obtain ⟨pre, message, post, data, hs, hp, hpolls⟩ := ha
    rcases Runs.concat_eq_split hs with ⟨rfl, rfl, -⟩ | ⟨post', -, rfl⟩
    · exact served_of_arrival h.1 hp hpolls
    · have hserved := h.2 i ⟨pre, message, post', data, rfl, hp, hpolls⟩
      cases act with
      | advance j =>
        by_cases hji : i = j
        · subst hji; exact hserved.advance_self h.1
        · exact hserved.advance_other h.1 hex hji
      | receive m => exact hserved.onReceive m

/-- **Concurrent exchanges complete** in every run in which no exchange registers an address
that is still pending: none raises, each has returned after `retryCount + 4` steps of its own
whatever the others do, and one for which a matching frame came in between its registration and
its last poll returns the data of a matching frame. -/
theorem exchanges_complete {acts : List Act}
    (hg : Runs.Guarded (step calls retryCount) (Exclusive calls) (fresh deviceId) acts) :
    (∀ i, (run calls retryCount (fresh deviceId) acts).pc i ≠ .raised) ∧
    (∀ i, retryCount + 4 ≤ acts.count (.advance i) →
      ∃ result, (run calls retryCount (fresh deviceId) acts).pc i = .returned result) ∧
    ∀ i result, (run calls retryCount (fresh deviceId) acts).pc i = .returned result →
      Arrived calls retryCount deviceId acts i →
      ∃ data, result = some data ∧ Received calls retryCount deviceId acts i data := by
  obtain ⟨hown, hserved⟩ := served_run hg
  refine ⟨hown.noRaise, fun i hsteps => ?_, fun i result hr ha => ?_⟩
  · have hleft := @stepsLeft_run calls retryCount (fresh deviceId) acts i
    have hstart : ((fresh deviceId).pc i).stepsLeft retryCount = retryCount + 4 := rfl
    exact @stepsLeft_eq_zero retryCount _ (by omega) (hown.noRaise i)
  · rcases hserved i ha with ⟨hpolls, -⟩ | ⟨data, hd | hd⟩
    · rw [hr] at hpolls; simp [Pc.pollsLeft] at hpolls
    · rw [hr] at hd; cases hd
    · obtain rfl : result = some data := by simpa [hr] using hd
      exact ⟨data, rfl, (sound_run acts).held i data (Or.inr hd)⟩

/-- Two liveness reads (`EDITOR_MODE_ADDRESS_FETCH3`), as `KeepAlive` and `EditorSession` make. -/
def livenessReads (_ : Nat) : Call := .request [0x7F, 0, 0, 3] [0, 0, 0, 1] none

/-- The unit's answer to a liveness read, for device id `0x10`. -/
def livenessReply : List Nat :=
  [0xF0, 0x41, 0x10, 0, 0, 0, 0x4F, 0x12, 0x7F, 0, 0, 3, 0, 0x7E, 0xF7]

/-- Frame, register and send. -/
def starts (i : Nat) : List Act := [.advance i, .advance i, .advance i]

/-- Two liveness reads one after the other, each answered. -/
def inTurn : List Act :=
  starts 0 ++ [.receive livenessReply, .advance 0, .advance 0] ++
    starts 1 ++ [.receive livenessReply, .advance 1, .advance 1, .advance 1]

theorem exchanges_complete_in_turn :
    (∃ result, (run livenessReads 2 (fresh 0x10) inTurn).pc 1 = .returned result) ∧
      ∃ data, some [0] = some data ∧ Received livenessReads 2 0x10 inTurn 1 data := by
  have hg : Runs.Guarded (step livenessReads 2) (Exclusive livenessReads) (fresh 0x10) inTurn := by decide
  obtain ⟨-, hends, hdata⟩ := exchanges_complete hg
  refine ⟨hends 1 (by decide), hdata 1 (some [0]) (by decide) ?_⟩
  exact ⟨starts 0 ++ [.receive livenessReply, .advance 0, .advance 0] ++ starts 1, livenessReply,
    [.advance 1, .advance 1, .advance 1], [0], by decide, by decide, by decide⟩

/-- Two overlapping liveness reads: the first takes the reply and deletes the key, and the
second raises on its next poll. If instead the second registers after the reply came in, the
first loses it and returns `None`. -/
theorem overlap_raises :
    (run livenessReads 2 (fresh 0x10) (starts 0 ++ starts 1 ++
      [.receive livenessReply, .advance 0, .advance 0, .advance 1])).pc 1 = .raised ∧
    (run livenessReads 1 (fresh 0x10) (starts 0 ++
      [.receive livenessReply] ++ starts 1 ++ [.advance 0, .advance 0])).pc 0 = .returned none := by
  decide

/-! ## Where each frame goes -/

variable (calls retryCount) in
/-- No exchange registers a pending address, and a frame at a pending address finds the slot
empty and its owner with polls left. -/
def Lossless (s : Link) : Act → Prop
  | .advance i => Exclusive calls s (.advance i)
  | .receive message => ∀ offset data, parseDataReply s.deviceId message = some (offset, data) →
      s.pending offset ≠ none → s.pending offset = some none ∧
        ∃ i, (calls i).address = offset ∧ 0 < (s.pc i).pollsLeft retryCount

theorem lossless_advance {i : Nat} (h : Exclusive calls s (.advance i)) :
    Lossless calls retryCount s (.advance i) := h

theorem Lossless.exclusive {act : Act} (h : Lossless calls retryCount s act) :
    Exclusive calls s act := by
  cases act with
  | advance i => exact h
  | receive message => trivial

/-- The data frame a step accepts, if any. -/
def accepts (s : Link) : Act → List (List Nat × List Nat)
  | .advance _ => []
  | .receive message => (parseDataReply s.deviceId message).toList

variable (calls retryCount deviceId) in
/-- The data frames a run accepts. -/
def accepted (acts : List Act) : List (List Nat × List Nat) :=
  Runs.outputs (step calls retryCount) accepts (fresh deviceId) acts

/-- The data an exchange past its last poll carries. -/
def Pc.carried : Pc → Option (List Nat)
  | .removing data => data
  | _ => none

/-- The copy of frame `f` that sits in a slot. -/
def inSlot (s : Link) (f : List Nat × List Nat) : Nat :=
  if s.pending f.1 = some (some f.2) then 1 else 0

variable (calls retryCount) in
/-- `spent`: after its last poll an exchange carries what its slot holds. `account`: every
accepted frame was given to the callback, returned, or sits in its slot, once. -/
structure Ledger (acc : List (List Nat × List Nat)) (s : Link) : Prop where
  spent : ∀ i, (s.pc i).holds = true → (s.pc i).pollsLeft retryCount = 0 →
    s.pending (calls i).address = some (s.pc i).carried
  account : ∀ f, acc.count f = s.unsolicited.count f + s.returned.count f + inSlot s f

variable {acc : List (List Nat × List Nat)}

/-- A step that moves one exchange and nothing else. -/
theorem Ledger.setPc (h : Ledger calls retryCount acc s) {i : Nat} {pc : Pc}
    (hs : pc.holds = true → pc.pollsLeft retryCount = 0 →
      s.pending (calls i).address = some pc.carried) :
    Ledger calls retryCount acc (s.setPc i pc) := by
  refine ⟨fun j hj hp => ?_, h.account⟩
  by_cases hji : j = i
  · subst hji
    simp only [setPc_pc, Function.update_self] at hj hp ⊢
    exact hs hj hp
  · simp only [setPc_pc, Function.update_of_ne hji] at hj hp ⊢
    exact h.spent j hj hp

/-- Registering a free key: no frame is in its slot before or after. -/
theorem Ledger.register (h : Ledger calls retryCount acc s) (hown : Owned calls s) {i : Nat}
    {message : List Nat} (hfree : s.pending (calls i).address = none) :
    Ledger calls retryCount acc
      ((s.setPending (calls i).address (some none)).setPc i (.registered message)) := by
  have h' : Ledger calls retryCount acc (s.setPending (calls i).address (some none)) := by
    refine ⟨fun j hj hp => ?_, fun f => ?_⟩
    · have hne : (calls j).address ≠ (calls i).address := fun hk => hown.pending j hj (hk ▸ hfree)
      simpa [hne] using h.spent j hj hp
    · have hslot : inSlot (s.setPending (calls i).address (some none)) f = inSlot s f := by
        by_cases hk : f.1 = (calls i).address <;> simp [inSlot, hk, hfree]
      rw [hslot]; exact h.account f
  exact h'.setPc fun _ _ => by simp [Pc.carried]

/-- Removing the key hands the slot's frame, if any, to the caller. -/
theorem Ledger.remove (h : Ledger calls retryCount acc s) (hown : Owned calls s) {i : Nat}
    {data : Option (List Nat)} (hpc : s.pc i = .removing data) :
    Ledger calls retryCount acc (remove calls s i data) := by
  have hi : (s.pc i).holds = true := by rw [hpc]; rfl
  have hdata : s.pending (calls i).address = some data := by
    have := h.spent i hi (by rw [hpc]; rfl)
    rwa [hpc] at this
  refine ⟨fun j hj hp => ?_, fun f => ?_⟩
  · have hji : j ≠ i := by
      rintro rfl
      simp [DeviceLink.remove, Pc.holds] at hj
    have hj' : (s.pc j).holds = true := by simpa [DeviceLink.remove, hji] using hj
    have hp' : (s.pc j).pollsLeft retryCount = 0 := by simpa [DeviceLink.remove, hji] using hp
    have hne : (calls j).address ≠ (calls i).address := fun hk => hji (hown.unique j i hj' hi hk)
    simpa [DeviceLink.remove, hji, hne] using h.spent j hj' hp'
  · have hacc := h.account f
    obtain ⟨o, d⟩ := f
    by_cases hk : o = (calls i).address
    · subst hk
      cases data with
      | none => simpa [DeviceLink.remove, inSlot, hdata] using hacc
      | some d' =>
        by_cases hd : d' = d
        · subst hd; simp [DeviceLink.remove, inSlot, hdata] at hacc ⊢; omega
        · simpa [DeviceLink.remove, inSlot, hdata, hd] using hacc
    · have hcount : (data.toList.map fun d => ((calls i).address, d)).count (o, d) = 0 := by
        rw [List.count_eq_zero]
        simp [Ne.symm hk]
      simpa [DeviceLink.remove, inSlot, hk, List.count_append, hcount] using hacc

theorem Ledger.advance (h : Ledger calls retryCount acc s) (hown : Owned calls s) {i : Nat}
    (hex : Exclusive calls s (.advance i)) :
    Ledger calls retryCount acc (advance calls retryCount s i) := by
  unfold DeviceLink.advance
  split
  · exact h.setPc fun hh => by simp [Pc.holds] at hh
  · next message hpc => exact h.register hown (hex (by rw [hpc]; rfl))
  · next message hpc =>
    have h' : Ledger calls retryCount acc { s with sent := s.sent ++ [message] } :=
      ⟨h.spent, h.account⟩
    refine h'.setPc fun _ hp => ?_
    rw [waitFrom_pollsLeft] at hp
    have hempty := h.spent i (by rw [hpc]; rfl) (by rw [hpc]; exact hp)
    rw [hpc] at hempty
    rw [hp]; exact hempty
  · next more hpc =>
    rcases hown.poll_cases hpc with ⟨data, hslot, he⟩ | ⟨hslot, he⟩
    · rw [he]; exact h.setPc fun _ _ => hslot
    · rw [he]
      refine h.setPc fun _ hp => ?_
      rw [waitFrom_pollsLeft] at hp
      rw [hp]; exact hslot
  · next data hpc => exact h.remove hown hpc
  · exact h
  · exact h

theorem Ledger.onReceive (h : Ledger calls retryCount acc s) (hown : Owned calls s)
    {message : List Nat} (hl : Lossless calls retryCount s (.receive message)) :
    Ledger calls retryCount (acc ++ accepts s (.receive message)) (onReceive s message) := by
  rcases onReceive_cases s message with ⟨offset, data, hp, he⟩ | ⟨hp, hpend, hpc, hu, hr⟩
  · have hacc : accepts s (.receive message) = [(offset, data)] := by simp [accepts, hp]
    rw [hacc, he]
    cases hpo : s.pending offset with
    | none =>
      have hd : deliver s offset data = { s with unsolicited := s.unsolicited ++ [(offset, data)] } := by
        simp [deliver, hpo]
      rw [hd]
      refine ⟨h.spent, fun f => ?_⟩
      have := h.account f
      simp only [List.count_append, inSlot] at this ⊢
      omega
    | some slot =>
      obtain ⟨hempty, i, hi, hpolls⟩ := hl offset data hp (by simp [hpo])
      have hd : deliver s offset data = s.setPending offset (some (some data)) := by
        simp [deliver, hpo]
      rw [hd]
      refine ⟨fun j hj hpj => ?_, fun f => ?_⟩
      · -- The owner of the key still polls, so it is none of the exchanges past that.
        have hne : (calls j).address ≠ offset := by
          intro hk
          obtain rfl := hown.unique j i hj (holds_of_pollsLeft hpolls) (hk.trans hi.symm)
          exact absurd hpj (Nat.pos_iff_ne_zero.1 hpolls)
        simpa [hne] using h.spent j hj hpj
      · have := h.account f
        obtain ⟨o, d⟩ := f
        by_cases hk : o = offset
        · subst hk
          by_cases hdd : data = d
          · subst hdd; simp [inSlot, hempty] at this ⊢; omega
          · simpa [inSlot, hempty, hdd] using this
        · simpa [inSlot, hk, Ne.symm hk] using this
  · have hacc : accepts s (.receive message) = [] := by simp [accepts, hp]
    rw [hacc, List.append_nil]
    refine ⟨?_, fun f => ?_⟩
    · rw [hpc, hpend]; exact h.spent
    · rw [hu, hr]
      simpa [inSlot, hpend] using h.account f

theorem ledger_run {acts : List Act}
    (hg : Runs.Guarded (step calls retryCount) (Lossless calls retryCount) (fresh deviceId) acts) :
    Owned calls (run calls retryCount (fresh deviceId) acts) ∧
    Ledger calls retryCount (accepted calls retryCount deviceId acts)
      (run calls retryCount (fresh deviceId) acts) := by
  refine Runs.invariant_history (I := fun as s => Owned calls s ∧
    Ledger calls retryCount (accepted calls retryCount deviceId as) s)
    ⟨owned_fresh, fun i hi => by simp [fresh, Pc.holds] at hi, fun f => rfl⟩ ?_ hg
  intro as act hl h
  refine ⟨h.1.step hl.exclusive, ?_⟩
  rw [accepted, Runs.outputs_concat]
  cases act with
  | advance i =>
    rw [accepts, List.append_nil]
    exact h.2.advance h.1 hl
  | receive message => exact h.2.onReceive h.1 hl

/-- **No accepted frame disappears** in a run whose every frame finds its slot empty and its
owner polling: when all exchanges are over, the accepted data frames are those given to the
callback and those returned by an exchange at their address, each once. -/
theorem accepted_consumed_once {acts : List Act}
    (hg : Runs.Guarded (step calls retryCount) (Lossless calls retryCount) (fresh deviceId) acts)
    (hend : ∀ i, ((run calls retryCount (fresh deviceId) acts).pc i).holds = false) :
    (accepted calls retryCount deviceId acts).Perm
      ((run calls retryCount (fresh deviceId) acts).unsolicited ++
        (run calls retryCount (fresh deviceId) acts).returned) := by
  obtain ⟨hown, hledger⟩ := ledger_run hg
  rw [List.perm_iff_count]
  intro f
  have hnone : (run calls retryCount (fresh deviceId) acts).pending f.1 = none := by
    by_contra hne
    obtain ⟨i, hi, -⟩ := hown.owner f.1 hne
    simp [hend i] at hi
  have := hledger.account f
  simp only [inSlot, hnone] at this
  simpa [List.count_append] using this

/-- A change the unit announces at the address of the liveness parameter. -/
def livenessChange : List Nat :=
  [0xF0, 0x41, 0x10, 0, 0, 0, 0x4F, 0x12, 0x7F, 0, 0, 3, 1, 0x7D, 0xF7]

/-- The unit announces a change before the liveness read: it goes to the callback, and the
reply to the caller. -/
theorem accepted_consumed_once_announced :
    (accepted livenessReads 1 0x10 ([.receive livenessChange] ++ starts 0 ++
        [.receive livenessReply, .advance 0, .advance 0])).Perm
      ((run livenessReads 1 (fresh 0x10) ([.receive livenessChange] ++ starts 0 ++
          [.receive livenessReply, .advance 0, .advance 0])).unsolicited ++
        (run livenessReads 1 (fresh 0x10) ([.receive livenessChange] ++ starts 0 ++
          [.receive livenessReply, .advance 0, .advance 0])).returned) := by
  refine accepted_consumed_once ?_ ?_
  · refine ⟨fun o d _ h => absurd rfl h, lossless_advance (by decide), lossless_advance (by decide),
      lossless_advance (by decide), fun o d hp _ => ?_, lossless_advance (by decide),
      lossless_advance (by decide), trivial⟩
    cases (show some ([0x7F, 0, 0, 3], [0]) = some (o, d) from hp)
    exact ⟨by decide, 0, rfl, by decide⟩
  · intro i
    cases i with
    | zero => rfl
    | succ n => rfl

/-- The unit announces a change between the reply to a liveness read and the read's next poll:
the callback gets nothing and the caller the change, so the reply is gone. -/
theorem second_frame_swallowed :
    ∃ acts : List Act,
      (∀ i, ((run livenessReads 1 (fresh 0x10) acts).pc i).holds = false) ∧
      ¬(accepted livenessReads 1 0x10 acts).Perm
        ((run livenessReads 1 (fresh 0x10) acts).unsolicited ++
          (run livenessReads 1 (fresh 0x10) acts).returned) := by
  refine ⟨starts 0 ++ [.receive livenessReply, .receive livenessChange, .advance 0, .advance 0],
    fun i => ?_, by decide⟩
  cases i with
  | zero => rfl
  | succ n => rfl

end Pygt1000.DeviceLink
