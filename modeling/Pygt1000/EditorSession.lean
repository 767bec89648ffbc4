import Pygt1000.Exchanges
import Pygt1000.Negotiation

/-!
# Bringing the unit up (`editor_session.py`)

| here | there |
| --- | --- |
| `advance`          | the atomic steps of `EditorSession.open` (`editor_session.py:63-68`) |
| `Stage.requesting`, `Stage.checking` | the two halves of a pass of `request_identity` (`:94-103`) |
| `await`            | `set_and_await` / `request` and the comparison after it (`:121-130`) |
| `identifyFrom`     | the loop of `request_identity`, then `if not self.request_identity()` (`:117-118`) |

`open` runs three loops one after another on a link that keeps receiving: identity requests until
the device id is negotiated, then two exchanges of `device_link.py`, numbered 0 and 1 here. A
message may come in between any two steps; while the caller sleeps it stands at `checking` or at
a poll. Whether the transport opens is a parameter.

What holds of one exchange on a link that has an id is `Underway`; `Handshake.lean` puts the
three loops together.
-/

namespace Pygt1000.EditorSession

open DeviceLink (Link Call Pc Sound onReceive waitFrom)

/-- The editor-mode set and the liveness fetch (`:121-127`). -/
def calls : Nat → Call
  | 0 => .setAndAwait editorModeAddressSet2 editorModeAddessValue2
  | _ => .request editorModeAddressFetch3 editorModeAddressLen3 none

inductive Stage where
  | opening
  /-- About to send an identity request, with `more` passes after this one. -/
  | requesting (more : Nat)
  /-- Asleep after it, about to read the device id. -/
  | checking (more : Nat)
  | settingMode
  | fetching
  | returned (up : Bool)
  /-- An exchange raised. -/
  | raised
deriving DecidableEq, Repr

structure Session where
  link : Link
  stage : Stage

/-- Whether `transport.open` returns True, and how often the session and the link poll. -/
structure Setup where
  transportOpens : Bool
  retryCount : Nat
  linkRetryCount : Nat
deriving DecidableEq, Repr

/-- Calling `open` on a link with no exchange under way; 0 and 1 are the two this call makes. -/
def start (link : Link) : Session := ⟨{ link with pc := fun _ => .start }, .opening⟩

/-- `request_identity` with `n` passes left; with none left `open` returns False. -/
def identifyFrom : Nat → Stage
  | 0 => .returned false
  | n + 1 => .requesting n

section
variable (c : Setup)

/-- A step of exchange `i`, or, once it has returned, the comparison of its data. -/
def await (s : Session) (i : Nat) (reply : List Nat) (next : Stage) : Session :=
  match s.link.pc i with
  | .returned data => { s with stage := if data ≠ some reply then .returned false else next }
  | .raised => { s with stage := .raised }
  | _ => { s with link := DeviceLink.advance calls c.linkRetryCount s.link i }

/-- The next atomic step of the caller. -/
def advance (s : Session) : Session :=
  match s.stage with
  | .opening =>
    { s with stage := if c.transportOpens then identifyFrom c.retryCount else .returned false }
  | .requesting more =>
    ⟨{ s.link with sent := s.link.sent ++ [identityRequestMsg] }, .checking more⟩
  | .checking more =>
    { s with stage := if s.link.deviceId ≠ deviceIdBcast then .settingMode else identifyFrom more }
  | .settingMode => await c s 0 editorReply2 .fetching
  | .fetching => await c s 1 editorReply3 (.returned true)
  | .returned _ | .raised => s

end

inductive Act where
  | own
  | receive (message : List Nat)
deriving DecidableEq, Repr

def ownSteps (acts : List Act) : Nat := acts.count .own

section
variable (c : Setup)

def step (s : Session) : Act → Session
  | .own => advance c s
  | .receive message => { s with link := onReceive s.link message }

abbrev run (s : Session) (acts : List Act) : Session := Runs.run (step c) s acts

end

/-! ## One exchange on a negotiated link -/

/-- The message is on the wire. -/
def transmitted : Pc → Bool
  | .start | .framed _ | .registered _ => false
  | _ => true

/-- Exchange `i` somewhere between its start and its end: it has sent its own message after
`base` or nothing yet, its key is there while it waits, and data it got satisfies `R`. -/
structure Underway (deviceId i : Nat) (base : List (List Nat)) (R : List Nat → Prop) (s : Link) :
    Prop where
  negotiated : s.deviceId = deviceId
  message : ∀ m, s.pc i = .framed m ∨ s.pc i = .registered m → m = (calls i).message deviceId
  sent : s.sent = base ++ if transmitted (s.pc i) then [(calls i).message deviceId] else []
  slot : (s.pc i).holds = true → s.pending (calls i).address ≠ none
  noRaise : s.pc i ≠ .raised
  sound : Sound (fun j data => j = i → R data) calls s

variable {deviceId i linkRetryCount : Nat} {base : List (List Nat)} {R : List Nat → Prop} {s : Link}

/-- An exchange that has not started has sent and got nothing. -/
theorem underway_start (hpc : s.pc i = .start) (hid : s.deviceId = deviceId) :
    Underway deviceId i s.sent R s := by
  refine ⟨hid, fun m hm => by simp [hpc] at hm, by simp [hpc, transmitted],
    fun hh => by simp [hpc, Pc.holds] at hh, by simp [hpc], ⟨?_, ?_⟩⟩
  · rintro j data ha - rfl
    simp [hpc, Pc.awaiting] at ha
  · rintro j data hd rfl
    simp [hpc] at hd

theorem Underway.sent_of_transmitted (h : Underway deviceId i base R s)
    (ht : transmitted (s.pc i) = true) : s.sent = base ++ [(calls i).message deviceId] := by
  rw [h.sent, if_pos ht]

theorem Underway.mono {R' : List Nat → Prop} (h : Underway deviceId i base R s)
    (hR : ∀ data, R data → R' data) : Underway deviceId i base R' s :=
  ⟨h.negotiated, h.message, h.sent, h.slot, h.noRaise,
    h.sound.mono fun _ data hd hj => hR data (hd hj)⟩

theorem transmitted_waitFrom (n : Nat) : transmitted (waitFrom n) = true := by cases n <;> rfl

theorem waitFrom_message (n : Nat) (m : List Nat) :
    ¬(waitFrom n = .framed m ∨ waitFrom n = .registered m) := by
  cases n <;> simp [waitFrom]

/-- A step inside the exchange that keeps its key where it is. -/
theorem Underway.setPc (h : Underway deviceId i base R s) {pc : Pc}
    (hsent : transmitted pc = transmitted (s.pc i))
    (hmessage : ∀ m, pc = .framed m ∨ pc = .registered m → m = (calls i).message deviceId)
    (hslot : pc.holds = true → (s.pc i).holds = true) (hraise : pc ≠ .raised)
    (hsound : Sound (fun j data => j = i → R data) calls (s.setPc i pc)) :
    Underway deviceId i base R (s.setPc i pc) := by
  refine ⟨h.negotiated, fun m hm => hmessage m (by simpa using hm), ?_, fun hh => ?_,
    by simpa using hraise, hsound⟩
  · show s.sent = _
    rw [h.sent, DeviceLink.setPc_pc, Function.update_self, hsent]
  · exact h.slot (hslot (by simpa using hh))

theorem Underway.advance (h : Underway deviceId i base R s) :
    Underway deviceId i base R (DeviceLink.advance calls linkRetryCount s i) := by
  have hsound : Sound (fun j data => j = i → R data) calls
      (DeviceLink.advance calls linkRetryCount s i) := h.sound.advance i
  unfold DeviceLink.advance at hsound ⊢
  cases hpc : s.pc i with
  | start =>
    simp only [hpc] at hsound ⊢
    refine h.setPc (by rw [hpc]; rfl) (fun m hm => ?_) (by simp [Pc.holds]) (by simp) hsound
    have hframed : (calls i).message s.deviceId = m := by simpa using hm
    rw [← hframed, h.negotiated]
  | framed m =>
    simp only [hpc] at hsound ⊢
    have hm : m = (calls i).message deviceId := h.message m (Or.inl hpc)
    refine ⟨h.negotiated, fun m' hm' => ?_, ?_, fun _ => by simp, by simp, hsound⟩
    · obtain rfl : m = m' := by simpa using hm'
      exact hm
    · simpa [hpc, transmitted] using h.sent
  | registered m =>
    simp only [hpc] at hsound ⊢
    have hm : m = (calls i).message deviceId := h.message m (Or.inr hpc)
    refine ⟨h.negotiated, fun m' hm' => ?_, ?_, fun _ => ?_, ?_, hsound⟩
    · exact absurd (by simpa using hm') (waitFrom_message linkRetryCount m')
    · have hsent : s.sent = base := by simpa [hpc, transmitted] using h.sent
      show s.sent ++ [m] = _
      rw [hsent, hm]
      simp [transmitted_waitFrom]
    · exact h.slot (by rw [hpc]; rfl)
    · simpa using DeviceLink.waitFrom_ne_raised linkRetryCount
  | polling more =>
    simp only [hpc, DeviceLink.poll] at hsound ⊢
    have hheld : (s.pc i).holds = true := by rw [hpc]; rfl
    cases hp : s.pending (calls i).address with
    | none => exact absurd hp (h.slot hheld)
    | some slot =>
      cases slot with
      | some data =>
        simp only [hp] at hsound ⊢
        exact h.setPc (by rw [hpc]; rfl) (by simp) (fun _ => hheld) (by simp) hsound
      | none =>
        simp only [hp] at hsound ⊢
        exact h.setPc (by rw [hpc, transmitted_waitFrom]; rfl)
          (fun m hm => absurd hm (waitFrom_message more m)) (fun _ => hheld)
          (DeviceLink.waitFrom_ne_raised more) hsound
  | removing data =>
    simp only [hpc] at hsound ⊢
    refine ⟨h.negotiated, by simp [DeviceLink.remove], ?_, by simp [DeviceLink.remove, Pc.holds],
      by simp [DeviceLink.remove], hsound⟩
    simpa [hpc, transmitted, DeviceLink.remove] using h.sent
  | returned data => exact h
  | raised => exact h

theorem onReceive_sent (s : Link) (message : List Nat) : (onReceive s message).sent = s.sent := by
  have hdata : (DeviceLink.receiveData s message).sent = s.sent := by
    unfold DeviceLink.receiveData
    split
    · rfl
    · unfold DeviceLink.deliver; split <;> rfl
  unfold DeviceLink.onReceive
  split
  · split
    · rfl
    · exact hdata
  · exact hdata

/-- On a negotiated link no message changes the id. -/
theorem onReceive_deviceId (h : s.deviceId ≠ deviceIdBcast) (message : List Nat) :
    (onReceive s message).deviceId = s.deviceId := by
  unfold DeviceLink.onReceive
  rw [if_neg h]
  exact (DeviceLink.receiveData_identity s message).1

theorem onReceive_keeps {key : List Nat} (h : s.pending key ≠ none) (message : List Nat) :
    (onReceive s message).pending key ≠ none := by
  rcases DeviceLink.onReceive_cases s message with ⟨offset, data, -, he⟩ | ⟨-, hp, -⟩
  · rw [he, Ne, DeviceLink.deliver_pending_none_iff]
    exact h
  · rwa [hp]

theorem Underway.onReceive (h : Underway deviceId i base R s) (hid : deviceId ≠ deviceIdBcast)
    {message : List Nat}
    (hR : ∀ data, parseDataReply deviceId message = some ((calls i).address, data) →
      (s.pc i).awaiting = true → R data) :
    Underway deviceId i base R (onReceive s message) := by
  have hpc := DeviceLink.onReceive_pc s message
  refine ⟨?_, fun m hm => h.message m (by rwa [hpc] at hm), ?_, fun hh => ?_, ?_, ?_⟩
  · rw [onReceive_deviceId (h.negotiated ▸ hid), h.negotiated]
  · rw [onReceive_sent, hpc, h.sent]
  · exact onReceive_keeps (h.slot (by rwa [hpc] at hh)) message
  · rw [hpc]; exact h.noRaise
  · refine h.sound.onReceive fun j data hp ha hj => ?_
    subst hj
    exact hR data (h.negotiated ▸ hp) ha

end Pygt1000.EditorSession
