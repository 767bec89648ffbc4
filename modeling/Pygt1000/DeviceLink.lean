import Pygt1000.Basic
import Pygt1000.Lib.Runs
import Pygt1000.SysExCodec
import Mathlib.Logic.Function.Basic

/-!
# Request/response correlation (`device_link.py`)

| here | there |
| --- | --- |
| `send`, `set`      | the same (`device_link.py:91-101`) |
| `Call`             | `DeviceLink.request` / `set_and_await` up to `_exchange` (`:103-116`) |
| `advance`          | the atomic steps of `_exchange` and `_wait` (`:162-178`) |
| `onReceive`        | `_on_receive` with `_negotiate_identity` (`:120-151`) |
| `Link.pending`     | `self._pending`: an absent key, an empty slot, or the reply (`:76`) |

Any number of threads may be inside an exchange; `pc i` is where exchange `i` stands. Framing
the message, registering the key, sending, each poll and removing the key are separate steps,
and between any two of them another exchange may step or a message may come in. The sends
modelled here return. `_pending` is used as a map only, so it is a partial function; a key is
the address itself (`_key` makes a tuple of it).

`returned` and `unsolicited` are histories of what exchanges handed back and of what the
`on_unsolicited` callback was given.
-/

namespace Pygt1000.DeviceLink

/-! ## Exchanges -/

/-- The two public ways into `_exchange`. -/
inductive Call where
  | request (address length : List Nat) (overrideChecksum : Option (List Nat))
  | setAndAwait (address data : List Nat)
deriving DecidableEq, Repr

def Call.address : Call → List Nat
  | .request address _ _ => address
  | .setAndAwait address _ => address

/-- The frame sent, for the device id read when the call starts (`:106-108`, `:115`). -/
def Call.message (deviceId : Nat) : Call → List Nat
  | .request address length overrideChecksum => encodeRq1 deviceId address length overrideChecksum
  | .setAndAwait address data => encodeDt1 deviceId (address ++ data) none

/-- Where an exchange stands. -/
inductive Pc where
  | start
  /-- The message is framed, the key not registered yet. -/
  | framed (message : List Nat)
  /-- The key is registered, the message not sent yet. -/
  | registered (message : List Nat)
  /-- About to poll, with `more` polls after this one. -/
  | polling (more : Nat)
  /-- Out of `_wait` with `data`, about to remove the key. -/
  | removing (data : Option (List Nat))
  | returned (data : Option (List Nat))
  /-- `self._pending[key]` raised a `KeyError`. -/
  | raised
deriving DecidableEq, Repr

structure Link where
  deviceId : Nat
  pending : List Nat → Option (Option (List Nat))
  pc : Nat → Pc
  sent : List (List Nat)
  identities : List IdentityReply
  unsolicited : List (List Nat × List Nat)
  returned : List (List Nat × List Nat)

/-- `__init__` (`:61-80`): nothing pending, no exchange under way. -/
def fresh (deviceId : Nat) : Link := ⟨deviceId, fun _ => none, fun _ => .start, [], [], [], []⟩

def Link.setPc (s : Link) (i : Nat) (pc : Pc) : Link := { s with pc := Function.update s.pc i pc }

def Link.setPending (s : Link) (key : List Nat) (slot : Option (Option (List Nat))) : Link :=
  { s with pending := Function.update s.pending key slot }

/-- `send` (`:91-94`). -/
def send (s : Link) (message : List Nat) : Link := { s with sent := s.sent ++ [message] }

/-- `set` (`:96-101`); a DT1 cannot be framed from `None`. -/
def set (s : Link) : Option (List Nat) → Except PyErr Link
  | some addressValue => .ok (send s (encodeDt1 s.deviceId addressValue none))
  | none => .error .typeError

/-- `_wait`'s loop with `n` polls left; with none left it returns `None` (`:172-178`). -/
def waitFrom : Nat → Pc
  | 0 => .removing none
  | n + 1 => .polling n

section
variable (calls : Nat → Call) (retryCount : Nat)

/-- One locked poll (`:174-176`). -/
def poll (s : Link) (i more : Nat) : Link :=
  match s.pending (calls i).address with
  | none => s.setPc i .raised
  | some (some data) => s.setPc i (.removing (some data))
  | some none => s.setPc i (waitFrom more)

/-- `self._pending.pop(key, None)` and the return of `data` (`:168-170`). -/
def remove (s : Link) (i : Nat) (data : Option (List Nat)) : Link :=
  { s.setPending (calls i).address none with
    returned := s.returned ++ (data.toList.map fun d => ((calls i).address, d)) }.setPc i (.returned data)

/-- The next atomic step of exchange `i`. -/
def advance (s : Link) (i : Nat) : Link :=
  match s.pc i with
  | .start => s.setPc i (.framed ((calls i).message s.deviceId))
  | .framed message => (s.setPending (calls i).address (some none)).setPc i (.registered message)
  | .registered message => { s with sent := s.sent ++ [message] }.setPc i (waitFrom retryCount)
  | .polling more => poll calls s i more
  | .removing data => remove calls s i data
  | .returned _ | .raised => s

end

/-! ## Inbound messages -/

/-- The end of `_on_receive`, on a data frame `parse_data_reply` accepted (`:130-140`). -/
def deliver (s : Link) (offset data : List Nat) : Link :=
  match s.pending offset with
  | some _ => s.setPending offset (some (some data))
  | none => { s with unsolicited := s.unsolicited ++ [(offset, data)] }

def receiveData (s : Link) (message : List Nat) : Link :=
  match parseDataReply s.deviceId message with
  | none => s
  | some (offset, data) => deliver s offset data

/-- `_negotiate_identity` (`:144-151`). -/
def negotiate (s : Link) (reply : IdentityReply) : Link :=
  { s with deviceId := reply.deviceId, identities := s.identities ++ [reply] }

/-- `_on_receive` (`:120-142`). -/
def onReceive (s : Link) (message : List Nat) : Link :=
  if s.deviceId = deviceIdBcast then
    match parseIdentityReply message with
    | some reply => negotiate s reply
    | none => receiveData s message
  else receiveData s message

/-! ## Runs -/

inductive Act where
  | advance (i : Nat)
  | receive (message : List Nat)
deriving DecidableEq, Repr

section
variable (calls : Nat → Call) (retryCount : Nat)

def step (s : Link) : Act → Link
  | .advance i => advance calls retryCount s i
  | .receive message => onReceive s message

abbrev run (s : Link) (acts : List Act) : Link := Runs.run (step calls retryCount) s acts

end

/-! ## What the steps touch -/

section
variable (s : Link) (i : Nat) (pc : Pc) (key : List Nat) (slot : Option (Option (List Nat)))

@[simp] theorem setPc_pc : (s.setPc i pc).pc = Function.update s.pc i pc := rfl
@[simp] theorem setPc_pending : (s.setPc i pc).pending = s.pending := rfl
@[simp] theorem setPc_deviceId : (s.setPc i pc).deviceId = s.deviceId := rfl
@[simp] theorem setPc_unsolicited : (s.setPc i pc).unsolicited = s.unsolicited := rfl
@[simp] theorem setPc_returned : (s.setPc i pc).returned = s.returned := rfl
@[simp] theorem setPc_sent : (s.setPc i pc).sent = s.sent := rfl
@[simp] theorem setPending_pending :
    (s.setPending key slot).pending = Function.update s.pending key slot := rfl
@[simp] theorem setPending_pc : (s.setPending key slot).pc = s.pc := rfl
@[simp] theorem setPending_deviceId : (s.setPending key slot).deviceId = s.deviceId := rfl
@[simp] theorem setPending_unsolicited : (s.setPending key slot).unsolicited = s.unsolicited := rfl
@[simp] theorem setPending_sent : (s.setPending key slot).sent = s.sent := rfl
@[simp] theorem setPending_returned : (s.setPending key slot).returned = s.returned := rfl

end

theorem deliver_pc (s : Link) (offset data : List Nat) : (deliver s offset data).pc = s.pc := by
  unfold deliver; split <;> rfl

theorem deliver_deviceId (s : Link) (offset data : List Nat) :
    (deliver s offset data).deviceId = s.deviceId := by
  unfold deliver; split <;> rfl

/-- A data frame fills the slot of its own address, if that is pending, and no other. -/
theorem deliver_pending (s : Link) (offset data key : List Nat) :
    (deliver s offset data).pending key =
      if key = offset ∧ s.pending offset ≠ none then some (some data) else s.pending key := by
  unfold deliver
  cases hp : s.pending offset with
  | none => simp
  | some slot =>
    by_cases hk : key = offset
    · subst hk; simp
    · simp [hk]

/-! ## The three kinds of inbound message -/

theorem onReceive_data {s : Link} {message offset data : List Nat}
    (h : parseDataReply s.deviceId message = some (offset, data)) :
    onReceive s message = deliver s offset data := by
  have hr : receiveData s message = deliver s offset data := by simp [receiveData, h]
  simp [onReceive, parseIdentityReply_of_data h, hr]

/-- What is not an accepted data frame reaches neither a slot nor the callback. -/
theorem onReceive_other {s : Link} {message : List Nat}
    (h : parseDataReply s.deviceId message = none) :
    onReceive s message = s ∨ ∃ reply, onReceive s message = negotiate s reply := by
  have hr : receiveData s message = s := by simp [receiveData, h]
  unfold onReceive
  split
  · cases parseIdentityReply message with
    | none => exact Or.inl hr
    | some reply => exact Or.inr ⟨reply, rfl⟩
  · exact Or.inl hr

/-- The state after an inbound message: a delivered frame, or only the device id moves. -/
theorem onReceive_cases (s : Link) (message : List Nat) :
    (∃ offset data, parseDataReply s.deviceId message = some (offset, data) ∧
      onReceive s message = deliver s offset data) ∨
    (parseDataReply s.deviceId message = none ∧ (onReceive s message).pending = s.pending ∧
      (onReceive s message).pc = s.pc ∧ (onReceive s message).unsolicited = s.unsolicited ∧
      (onReceive s message).returned = s.returned) := by
  cases h : parseDataReply s.deviceId message with
  | some f => exact Or.inl ⟨f.1, f.2, rfl, onReceive_data h⟩
  | none =>
    rcases onReceive_other h with he | ⟨reply, he⟩
    · exact Or.inr ⟨rfl, by rw [he], by rw [he], by rw [he], by rw [he]⟩
    · exact Or.inr ⟨rfl, by rw [he]; rfl, by rw [he]; rfl, by rw [he]; rfl, by rw [he]; rfl⟩

theorem onReceive_pc (s : Link) (message : List Nat) : (onReceive s message).pc = s.pc := by
  rcases onReceive_cases s message with ⟨o, d, -, he⟩ | ⟨-, -, hpc, -⟩
  · rw [he, deliver_pc]
  · exact hpc

/-! ## The end of an exchange -/

/-- Steps an exchange still takes. -/
def Pc.stepsLeft (retryCount : Nat) : Pc → Nat
  | .start => retryCount + 4
  | .framed _ => retryCount + 3
  | .registered _ => retryCount + 2
  | .polling more => more + 2
  | .removing _ => 1
  | .returned _ | .raised => 0

theorem waitFrom_stepsLeft (retryCount n : Nat) : (waitFrom n).stepsLeft retryCount = n + 1 := by
  cases n <;> rfl

theorem stepsLeft_eq_zero {retryCount : Nat} {pc : Pc} (h : pc.stepsLeft retryCount = 0)
    (hraise : pc ≠ .raised) : ∃ result, pc = .returned result := by
  cases pc with
  | returned result => exact ⟨result, rfl⟩
  | raised => exact absurd rfl hraise
  | start | framed | registered | polling | removing => simp [Pc.stepsLeft] at h

section
variable {calls : Nat → Call} {retryCount : Nat}

/-- A step of another exchange leaves exchange `i` where it is. -/
theorem advance_pc_other {s : Link} {i j : Nat} (hij : j ≠ i) :
    (advance calls retryCount s j).pc i = s.pc i := by
  have hother (s' : Link) (pc : Pc) : (s'.setPc j pc).pc i = s'.pc i := by
    rw [setPc_pc, Function.update_of_ne hij.symm]
  unfold advance
  split
  · rw [hother]
  · rw [hother]; rfl
  · rw [hother]
  · unfold poll
    split <;> rw [hother]
  · rw [remove, hother]; rfl
  · rfl
  · rfl

/-- Each step of an exchange is one towards its end. -/
theorem stepsLeft_advance (s : Link) (i : Nat) :
    ((advance calls retryCount s i).pc i).stepsLeft retryCount ≤
      (s.pc i).stepsLeft retryCount - 1 := by
  unfold advance
  cases hpc : s.pc i with
  | start => simp [Pc.stepsLeft]
  | framed message => simp [Pc.stepsLeft]
  | registered message =>
    rw [setPc_pc, Function.update_self, waitFrom_stepsLeft]
    exact Nat.le_refl _
  | polling more =>
    simp only [poll]
    split
    · simp [Pc.stepsLeft]
    · simp [Pc.stepsLeft]
    · rw [setPc_pc, Function.update_self, waitFrom_stepsLeft]
      exact Nat.le_refl _
  | removing data => simp [remove, Pc.stepsLeft]
  | returned data => simp [hpc, Pc.stepsLeft]
  | raised => simp [hpc, Pc.stepsLeft]

/-- Nothing else holds an exchange up. -/
theorem stepsLeft_run (s : Link) (acts : List Act) (i : Nat) :
    ((run calls retryCount s acts).pc i).stepsLeft retryCount ≤
      (s.pc i).stepsLeft retryCount - acts.count (.advance i) := by
  let left (t : Link) := (t.pc i).stepsLeft retryCount
  have hown (t : Link) : left (step calls retryCount t (.advance i)) ≤ left t - 1 := stepsLeft_advance t i
  refine Runs.measure_run (m := left) (.advance i) hown (fun t act hact => ?_) s acts
  have hsame : (step calls retryCount t act).pc i = t.pc i := by
    cases act with
    | advance j => exact advance_pc_other fun hij => hact (hij ▸ rfl)
    | receive message => exact congrFun (onReceive_pc t message) i
  exact (congrArg (Pc.stepsLeft retryCount) hsame).le

end

end Pygt1000.DeviceLink
