import Pygt1000.DeviceLink

/-!
# A send that raises leaves its key behind (`device_link.py:162-170`)

`_exchange` registers the key, sends, waits and removes the key, with nothing around the send: what
it raises (`midi_out` is `None` before `open`, `transport.py:187-188`) goes past the removal. The
entry stays, empty, and as `_on_receive` asks only whether the key is there, it takes every later
frame at that address for the reply. `stepFault` adds the send that raises to the steps of
`DeviceLink`; whatever happens afterwards at other addresses and on the wire, the key is never
removed (`send_fault_strands`).
-/

namespace Pygt1000.DeviceLink

inductive FaultAct where
  | sound (a : Act)
  /-- `self._transport.send` raises in exchange `i`. -/
  | sendRaises (i : Nat)
deriving DecidableEq, Repr

section
variable (calls : Nat → Call) (retryCount : Nat)

/-- The exception leaves `_exchange`, and nothing of its rest is done. -/
def stepFault (s : Link) : FaultAct → Link
  | .sound a => step calls retryCount s a
  | .sendRaises i => match s.pc i with
    | .registered _ => s.setPc i .raised
    | _ => s

abbrev runFault (s : Link) (acts : List FaultAct) : Link :=
  Runs.run (stepFault calls retryCount) s acts

/-- Exchange `i` is the only one at its address that does anything; messages come in as they like. -/
def Undisturbed (i : Nat) (_ : Link) : FaultAct → Prop
  | .sound (.receive _) => True
  | .sound (.advance j) | .sendRaises j => j = i ∨ (calls j).address ≠ (calls i).address

instance (i : Nat) (s : Link) (a : FaultAct) : Decidable (Undisturbed calls i s a) :=
  match a with
  | .sound (.receive _) => isTrue trivial
  | .sound (.advance j) | .sendRaises j =>
    inferInstanceAs (Decidable (j = i ∨ (calls j).address ≠ (calls i).address))

end

/-- The key is pending, and a frame at it reaches nobody: it fills the slot. -/
structure Stranded (key : List Nat) (s : Link) : Prop where
  pending : s.pending key ≠ none
  swallowed : ∀ message data, parseDataReply s.deviceId message = some (key, data) →
    (onReceive s message).unsolicited = s.unsolicited

theorem stranded_of_pending {key : List Nat} {s : Link} (h : s.pending key ≠ none) :
    Stranded key s := by
  refine ⟨h, fun message data hparse => ?_⟩
  rw [onReceive_data hparse, deliver]
  cases hp : s.pending key with
  | none => exact absurd hp h
  | some slot => rfl

/-! ## What keeps the key -/

/-- From the registration to the removal. -/
def Pc.holdsKey : Pc → Bool
  | .registered _ | .polling _ | .removing _ | .raised => true
  | _ => false

/-- While exchange `i` is inside, or after it was left by an exception, its key is pending. -/
def Keyed (calls : Nat → Call) (i : Nat) (s : Link) : Prop :=
  (s.pc i).holdsKey = true → s.pending (calls i).address ≠ none

variable {calls : Nat → Call} {retryCount : Nat} {i j : Nat} {s : Link}

/-- A step of an exchange changes the entry of its own address only. -/
theorem advance_pending_other {key : List Nat} (hkey : (calls j).address ≠ key) :
    (advance calls retryCount s j).pending key = s.pending key := by
  unfold advance
  split
  · rfl
  · exact Function.update_of_ne hkey.symm _ _
  · rfl
  · unfold poll
    split <;> rfl
  · exact Function.update_of_ne hkey.symm _ _
  · rfl
  · rfl

/-- A message fills an entry or leaves it; it removes none. -/
theorem onReceive_pending_ne {key : List Nat} (h : s.pending key ≠ none) (message : List Nat) :
    (onReceive s message).pending key ≠ none := by
  rcases onReceive_cases s message with ⟨offset, data, -, heq⟩ | ⟨-, heq, -⟩
  · rw [heq, deliver_pending]
    split
    · exact Option.some_ne_none _
    · exact h
  · rwa [heq]

/-- Its own steps: the key is registered before anything else is done, and its removal is the
last step. -/
theorem Keyed.advance_self (h : Keyed calls i s) : Keyed calls i (advance calls retryCount s i) := by
  unfold advance
  cases hpc : s.pc i with
  | start => intro hk; simp [Pc.holdsKey] at hk
  | framed message => intro _; simp
  | registered message => exact fun _ => h (by rw [hpc]; rfl)
  | polling more =>
    have hpending := h (by rw [hpc]; rfl)
    intro _
    simp only [poll]
    split <;> exact hpending
  | removing data => intro hk; simp [remove, Pc.holdsKey] at hk
  | returned data => exact h
  | raised => exact h

/-- A send raises only where one is under way. -/
theorem sendRaises_cases (calls : Nat → Call) (retryCount : Nat) (s : Link) (j : Nat) :
    (∃ message, s.pc j = .registered message ∧
      stepFault calls retryCount s (.sendRaises j) = s.setPc j .raised) ∨
    stepFault calls retryCount s (.sendRaises j) = s := by
  cases hpc : s.pc j with
  | registered message => exact Or.inl ⟨message, rfl, by simp only [stepFault, hpc]⟩
  | _ => exact Or.inr (by simp only [stepFault, hpc])

theorem Keyed.stepFault (h : Keyed calls i s) {a : FaultAct} (ha : Undisturbed calls i s a) :
    Keyed calls i (stepFault calls retryCount s a) := by
  cases a with
  | sound a =>
    cases a with
    | receive message =>
      intro hk
      have hpc : (onReceive s message).pc = s.pc := onReceive_pc s message
      simp only [DeviceLink.stepFault, step, hpc] at hk
      exact onReceive_pending_ne (h hk) message
    | advance j =>
      by_cases hij : j = i
      · rw [hij]
        exact h.advance_self
      · have hkey : (calls j).address ≠ (calls i).address := ha.resolve_left hij
        intro hk
        simp only [DeviceLink.stepFault, step, advance_pc_other hij, advance_pending_other hkey] at hk ⊢
        exact h hk
  | sendRaises j =>
    rcases sendRaises_cases calls retryCount s j with ⟨message, hpc, heq⟩ | heq
    · rw [heq]
      intro hk
      by_cases hij : j = i
      · rw [hij] at hpc
        exact h (by rw [hpc]; rfl)
      · rw [setPc_pc, Function.update_of_ne (Ne.symm hij)] at hk
        exact h hk
    · rwa [heq]

/-- **A send that raises strands its key**: in every run from the start of an exchange that is the
only one at its address, once it has ended with an exception its key is pending for good, and the
frames the unit emits there are swallowed. -/
theorem send_fault_strands {calls : Nat → Call} {retryCount i : Nat} {s : Link}
    (hstart : s.pc i = .start) {acts : List FaultAct}
    (hsole : Runs.Guarded (stepFault calls retryCount) (Undisturbed calls i) s acts)
    (hraised : (runFault calls retryCount s acts).pc i = .raised) :
    Stranded (calls i).address (runFault calls retryCount s acts) := by
  have h0 : Keyed calls i s := by
    intro hk
    rw [hstart] at hk
    cases hk
  have hkeyed : Keyed calls i (runFault calls retryCount s acts) :=
    Runs.invariant h0 (fun _ _ ha h => h.stepFault ha) hsole
  exact stranded_of_pending (hkeyed (by rw [hraised]; rfl))

/-- The read of the compressor's switch. -/
def compSwitch : Nat → Call := fun _ => .request [0x10, 0, 0x12, 0] oneByte none

/-- Framed, registered, and the port is not open. -/
def compFault : List FaultAct := [.sound (.advance 0), .sound (.advance 0), .sendRaises 0]

theorem send_fault_strands_comp :
    Stranded [0x10, 0, 0x12, 0] (runFault compSwitch 100 (fresh 0x10) compFault) :=
  have hsole : Runs.Guarded (stepFault compSwitch 100) (Undisturbed compSwitch 0) (fresh 0x10) compFault := by
    decide
  have hraised : (runFault compSwitch 100 (fresh 0x10) compFault).pc 0 = .raised := by decide
  send_fault_strands rfl hsole hraised

/-- The compressor is then switched on by hand, and nobody is told. -/
theorem send_fault_swallows :
    (runFault compSwitch 100 (fresh 0x10) compFault).pc 0 = .raised ∧
      (runFault compSwitch 100 (fresh 0x10) compFault).pending [0x10, 0, 0x12, 0] ≠ none ∧
      (runFault compSwitch 100 (fresh 0x10) (compFault ++
        [.sound (.receive (encodeDt1 0x10 [0x10, 0, 0x12, 0, 1] none))])).unsolicited = [] := by
  decide

end Pygt1000.DeviceLink
