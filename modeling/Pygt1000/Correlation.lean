import Pygt1000.DeviceLink

/-!
# Correlation is sound: a reply answers its own exchange

Whatever the interleaving of exchanges and inbound messages, data that an exchange returns came
in an accepted data frame at its own address, after it registered that address. The invariant
(`Sound`) relates a filled slot to *every* exchange waiting at its key: registering a key
empties the slot, so what a slot holds came after the latest registration, hence after each
waiting exchange's own.

The second half is a non-interference statement: an exchange at address `a` sees the device id,
the slot of `a` and its own program counter, and no frame at another address moves any of them
(`Agree`), so such frames can be deleted from a run without changing what it returns.
-/

namespace Pygt1000.DeviceLink

/-- Registered and still in `_wait`. -/
def Pc.awaiting : Pc → Bool
  | .registered _ | .polling _ => true
  | _ => false

theorem waitFrom_no_data {n : Nat} {data : List Nat} :
    ¬(waitFrom n = .removing (some data) ∨ waitFrom n = .returned (some data)) := by
  cases n <;> simp [waitFrom]

variable (calls : Nat → Call) (retryCount deviceId : Nat)

/-- A data frame with `data` at exchange `i`'s address came in while `i` was waiting. -/
def Received (acts : List Act) (i : Nat) (data : List Nat) : Prop :=
  ∃ pre message post, acts = pre ++ .receive message :: post ∧
    parseDataReply (run calls retryCount (fresh deviceId) pre).deviceId message =
      some ((calls i).address, data) ∧
    ((run calls retryCount (fresh deviceId) pre).pc i).awaiting = true

variable {calls retryCount deviceId}

theorem Received.concat {acts : List Act} {i : Nat} {data : List Nat}
    (h : Received calls retryCount deviceId acts i data) (a : Act) :
    Received calls retryCount deviceId (acts ++ [a]) i data := by
  obtain ⟨pre, message, post, rfl, hp, ha⟩ := h
  exact ⟨pre, message, post ++ [a], by simp, hp, ha⟩

/-- What slots hold and what exchanges carry away was received while they waited. -/
structure Sound (R : Nat → List Nat → Prop) (calls : Nat → Call) (s : Link) : Prop where
  slot : ∀ i data, (s.pc i).awaiting = true →
    s.pending (calls i).address = some (some data) → R i data
  held : ∀ i data, s.pc i = .removing (some data) ∨ s.pc i = .returned (some data) → R i data

variable {R : Nat → List Nat → Prop} {s : Link}

theorem Sound.mono {R' : Nat → List Nat → Prop} (h : Sound R calls s)
    (hR : ∀ i data, R i data → R' i data) : Sound R' calls s :=
  ⟨fun i data ha hp => hR i data (h.slot i data ha hp), fun i data hd => hR i data (h.held i data hd)⟩

theorem Sound.setPc (h : Sound R calls s) {i : Nat} {pc : Pc}
    (ha : pc.awaiting = true → ∀ data, s.pending (calls i).address = some (some data) → R i data)
    (hd : ∀ data, pc = .removing (some data) ∨ pc = .returned (some data) → R i data) :
    Sound R calls (s.setPc i pc) := by
  refine ⟨fun j data hj hp => ?_, fun j data hj => ?_⟩
  · rw [setPc_pc] at hj
    by_cases hji : j = i
    · subst hji
      exact ha (by simpa using hj) data hp
    · exact h.slot j data (by simpa [hji] using hj) hp
  · rw [setPc_pc] at hj
    by_cases hji : j = i
    · subst hji
      exact hd data (by simpa using hj)
    · exact h.held j data (by simpa [hji] using hj)

/-- Emptying or removing a slot takes nothing received away. -/
theorem Sound.setPending (h : Sound R calls s) {key : List Nat} {slot : Option (Option (List Nat))}
    (hs : ∀ data, slot ≠ some (some data)) : Sound R calls (s.setPending key slot) := by
  refine ⟨fun j data hj hp => ?_, h.held⟩
  rw [setPending_pending] at hp
  by_cases hk : (calls j).address = key
  · rw [hk, Function.update_self] at hp
    exact absurd hp (hs data)
  · rw [Function.update_of_ne hk] at hp
    exact h.slot j data hj hp

theorem Sound.poll (h : Sound R calls s) {i more : Nat} (hpc : s.pc i = .polling more) :
    Sound R calls (poll calls s i more) := by
  unfold DeviceLink.poll
  have hslot : ∀ data, s.pending (calls i).address = some (some data) → R i data :=
    fun data hp => h.slot i data (by rw [hpc]; rfl) hp
  split
  · exact h.setPc (fun _ => hslot) (fun data hd => by simp at hd)
  · next data hp =>
    refine h.setPc (fun _ => hslot) (fun data' hd => ?_)
    obtain rfl : data = data' := by simpa using hd
    exact hslot data hp
  · exact h.setPc (fun _ => hslot) (fun data hd => absurd hd waitFrom_no_data)

theorem Sound.remove (h : Sound R calls s) {i : Nat} {data : Option (List Nat)}
    (hpc : s.pc i = .removing data) : Sound R calls (remove calls s i data) := by
  have h' : Sound R calls (s.setPending (calls i).address none) :=
    h.setPending (fun _ => by simp)
  have hr : Sound R calls ((s.setPending (calls i).address none).setPc i (.returned data)) :=
    h'.setPc (fun ha => by simp [Pc.awaiting] at ha) (fun d hd => h.held i d (by simpa [hpc] using hd))
  exact ⟨hr.slot, hr.held⟩

theorem Sound.advance (h : Sound R calls s) (i : Nat) :
    Sound R calls (advance calls retryCount s i) := by
  unfold DeviceLink.advance
  split
  · exact h.setPc (fun ha => by simp [Pc.awaiting] at ha) (fun data hd => by simp at hd)
  · -- Registering empties the slot, also for whoever else waits at this key.
    have h' : Sound R calls (s.setPending (calls i).address (some none)) :=
      h.setPending (fun _ => by simp)
    exact h'.setPc (fun _ data hp => by simp at hp) (fun data hd => by simp at hd)
  · next message hpc =>
    have h' : Sound R calls { s with sent := s.sent ++ [message] } := ⟨h.slot, h.held⟩
    have hslot : ∀ data, s.pending (calls i).address = some (some data) → R i data :=
      fun data hp => h.slot i data (by rw [hpc]; rfl) hp
    exact h'.setPc (fun _ => hslot) (fun data hd => absurd hd waitFrom_no_data)
  · next more hpc => exact h.poll hpc
  · next data hpc => exact h.remove hpc
  · exact h
  · exact h

/-- An inbound message only adds what it received itself. -/
theorem Sound.onReceive (h : Sound R calls s) {message : List Nat}
    (hR : ∀ i data, parseDataReply s.deviceId message = some ((calls i).address, data) →
      (s.pc i).awaiting = true → R i data) : Sound R calls (onReceive s message) := by
  rcases onReceive_cases s message with ⟨offset, data, hparse, he⟩ | ⟨-, hp, hpc, -⟩
  · rw [he]
    refine ⟨fun i d hi hslot => ?_, fun i d hd => h.held i d (by rwa [deliver_pc] at hd)⟩
    rw [deliver_pc] at hi
    rw [deliver_pending] at hslot
    split at hslot
    · next hk =>
      obtain rfl : data = d := by simpa using hslot
      exact hR i data (by rw [hparse, hk.1]) hi
    · exact h.slot i d hi hslot
  · exact ⟨fun i d hi hslot => h.slot i d (hpc ▸ hi) (hp ▸ hslot),
      fun i d hd => h.held i d (hpc ▸ hd)⟩

theorem sound_run (acts : List Act) :
    Sound (Received calls retryCount deviceId acts) calls
      (run calls retryCount (fresh deviceId) acts) := by
  refine Runs.invariant_history
    (I := fun as s => Sound (Received calls retryCount deviceId as) calls s)
    ⟨fun i data ha => by simp [fresh, Pc.awaiting] at ha, fun i data hd => by simp [fresh] at hd⟩
    ?_ (Runs.guarded_always (fresh deviceId) acts)
  intro as a _ h
  have h' := h.mono fun i data hr => hr.concat a
  cases a with
  | advance i => exact h'.advance i
  | receive message =>
    exact h'.onReceive fun i data hp ha => ⟨as, message, [], rfl, hp, ha⟩

/-! ## Frames at other addresses -/

/-- What the exchanges at address `a` can see of the link. -/
structure Agree (calls : Nat → Call) (a : List Nat) (s t : Link) : Prop where
  deviceId : s.deviceId = t.deviceId
  pending : s.pending a = t.pending a
  pc : ∀ i, (calls i).address = a → s.pc i = t.pc i

/-- An accepted data frame at some other address than `a`. -/
def OtherFrame (a : List Nat) (s : Link) : Act → Prop
  | .advance _ => False
  | .receive message => ∃ offset data,
      parseDataReply s.deviceId message = some (offset, data) ∧ offset ≠ a

variable {a : List Nat} {t : Link}

theorem Agree.refl (s : Link) : Agree calls a s s := ⟨rfl, rfl, fun _ _ => rfl⟩

theorem Agree.symm (h : Agree calls a s t) : Agree calls a t s :=
  ⟨h.deviceId.symm, h.pending.symm, fun i hi => (h.pc i hi).symm⟩

theorem Agree.trans {u : Link} (h : Agree calls a s t) (h' : Agree calls a t u) :
    Agree calls a s u :=
  ⟨h.deviceId.trans h'.deviceId, h.pending.trans h'.pending,
    fun i hi => (h.pc i hi).trans (h'.pc i hi)⟩

theorem Agree.setPc (h : Agree calls a s t) (i : Nat) (pc : Pc) :
    Agree calls a (s.setPc i pc) (t.setPc i pc) := by
  refine ⟨h.deviceId, h.pending, fun j hj => ?_⟩
  by_cases hji : j = i
  · subst hji; simp
  · simpa [hji] using h.pc j hj

theorem Agree.setPending (h : Agree calls a s t) (slot : Option (Option (List Nat))) :
    Agree calls a (s.setPending a slot) (t.setPending a slot) :=
  ⟨h.deviceId, by simp, h.pc⟩

/-- An exchange at another address moves nothing that `a` sees. -/
theorem agree_setPc_other (s : Link) {i : Nat} (hi : (calls i).address ≠ a) (pc : Pc) :
    Agree calls a (s.setPc i pc) s := by
  refine ⟨rfl, rfl, fun j hj => ?_⟩
  have hji : j ≠ i := by rintro rfl; exact hi hj
  simp [hji]

theorem agree_setPending_other (s : Link) {key : List Nat} (hk : key ≠ a)
    (slot : Option (Option (List Nat))) : Agree calls a (s.setPending key slot) s :=
  ⟨rfl, by simp [Ne.symm hk], fun _ _ => rfl⟩

theorem agree_advance_other (s : Link) {i : Nat} (hi : (calls i).address ≠ a) :
    Agree calls a (advance calls retryCount s i) s := by
  unfold advance
  split
  · exact agree_setPc_other s hi _
  · exact (agree_setPc_other _ hi _).trans (agree_setPending_other s hi _)
  · next message _ =>
    have h := agree_setPc_other { s with sent := s.sent ++ [message] } hi (waitFrom retryCount)
    exact ⟨h.deviceId, h.pending, h.pc⟩
  · unfold poll; split <;> exact agree_setPc_other s hi _
  · next data _ =>
    have h := (agree_setPc_other _ hi (.returned data)).trans (agree_setPending_other s hi none)
    exact ⟨h.deviceId, h.pending, h.pc⟩
  · exact Agree.refl s
  · exact Agree.refl s

/-- Exchange `i` at address `a` does the same in two links that agree on `a`. -/
theorem Agree.advance_self (h : Agree calls a s t) {i : Nat} (hi : (calls i).address = a) :
    Agree calls a (advance calls retryCount s i) (advance calls retryCount t i) := by
  unfold DeviceLink.advance
  rw [← h.pc i hi]
  subst hi
  split
  · rw [h.deviceId]; exact h.setPc i _
  · exact (h.setPending _).setPc i _
  · next message _ =>
    have h' := h.setPc i (waitFrom retryCount)
    exact ⟨h'.deviceId, h'.pending, h'.pc⟩
  · unfold DeviceLink.poll
    rw [← h.pending]
    split <;> exact h.setPc i _
  · next data _ =>
    have h' := (h.setPending none).setPc i (.returned data)
    exact ⟨h'.deviceId, h'.pending, h'.pc⟩
  · exact h
  · exact h

theorem Agree.deliver (h : Agree calls a s t) (offset data : List Nat) :
    Agree calls a (deliver s offset data) (deliver t offset data) := by
  refine ⟨by rw [deliver_deviceId, deliver_deviceId, h.deviceId], ?_, fun i hi => ?_⟩
  · rw [deliver_pending, deliver_pending]
    by_cases hk : a = offset
    · subst hk; rw [h.pending]
    · simp [hk, h.pending]
  · rw [deliver_pc, deliver_pc]; exact h.pc i hi

theorem agree_deliver_other (s : Link) {offset : List Nat} (ho : offset ≠ a) (data : List Nat) :
    Agree calls a (deliver s offset data) s := by
  refine ⟨deliver_deviceId s offset data, ?_, fun i _ => by rw [deliver_pc]⟩
  rw [deliver_pending]; simp [Ne.symm ho]

theorem Agree.negotiate (h : Agree calls a s t) (reply : IdentityReply) :
    Agree calls a (negotiate s reply) (negotiate t reply) := ⟨rfl, h.pending, h.pc⟩

theorem Agree.receiveData (h : Agree calls a s t) (message : List Nat) :
    Agree calls a (receiveData s message) (receiveData t message) := by
  unfold DeviceLink.receiveData
  rw [h.deviceId]
  split
  · exact h
  · exact h.deliver _ _

theorem Agree.onReceive (h : Agree calls a s t) (message : List Nat) :
    Agree calls a (onReceive s message) (onReceive t message) := by
  unfold DeviceLink.onReceive
  rw [h.deviceId]
  split
  · split
    · exact h.negotiate _
    · exact h.receiveData message
  · exact h.receiveData message

theorem Agree.step (h : Agree calls a s t) (act : Act) :
    Agree calls a (step calls retryCount s act) (step calls retryCount t act) := by
  cases act with
  | advance i =>
    by_cases hi : (calls i).address = a
    · exact h.advance_self hi
    · exact ((agree_advance_other s hi).trans h).trans (agree_advance_other t hi).symm
  | receive message => exact h.onReceive message

theorem agree_otherFrame {act : Act} (ho : OtherFrame a s act) :
    Agree calls a (DeviceLink.step calls retryCount s act) s := by
  cases act with
  | advance i => exact ho.elim
  | receive message =>
    obtain ⟨offset, data, hp, hne⟩ := ho
    show Agree calls a (DeviceLink.onReceive s message) s
    rw [onReceive_data hp]
    exact agree_deliver_other s hne data

theorem agree_deletes {acts acts' : List Act}
    (h : Runs.Deletes (step calls retryCount) (OtherFrame a) s acts acts') :
    Agree calls a (run calls retryCount s acts) (run calls retryCount s acts') :=
  Runs.run_deletes (fun _ _ act hR => hR.step act)
    (fun _ _ _ ho hR => (agree_otherFrame ho).trans hR) h (Agree.refl s)

/-- **Correlation is sound**: data an exchange returns was the data part of an accepted frame
whose four-byte offset is the exchange's address, received while the exchange was waiting; and
deleting any accepted frames at other addresses from the run leaves every exchange at `a` where
it was. -/
theorem correlation_sound (acts : List Act) :
    (∀ i data, (run calls retryCount (fresh deviceId) acts).pc i = .returned (some data) →
      Received calls retryCount deviceId acts i data ∧ (calls i).address.length = 4) ∧
    ∀ a acts', Runs.Deletes (step calls retryCount) (OtherFrame a) (fresh deviceId) acts acts' →
      ∀ i, (calls i).address = a →
        (run calls retryCount (fresh deviceId) acts').pc i =
          (run calls retryCount (fresh deviceId) acts).pc i := by
  refine ⟨fun i data hr => ?_, fun a acts' hd i hi => ((agree_deletes hd).pc i hi).symm⟩
  have hrec := (sound_run acts).held i data (Or.inr hr)
  obtain ⟨_, _, _, _, hp, _⟩ := id hrec
  exact ⟨hrec, (parseDataReply_some hp).2⟩

end Pygt1000.DeviceLink
