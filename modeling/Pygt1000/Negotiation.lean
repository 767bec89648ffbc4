import Pygt1000.DeviceLink

/-!
# Device-id negotiation is one-shot

`_on_receive` tries a message as an identity reply only while the device id is the broadcast id
(`device_link.py:125`), and the reply it then finds sets the id. Replies that carry the broadcast
id itself leave negotiation open, so the id in force is a function of the messages alone
(`negotiatedId`): the id of the first reply that carries another one.

The same id decides which data frames get past `parse_data_reply`. A frame whose header carries
another id reaches neither a waiter's slot nor the `on_unsolicited` callback, also when it comes
in just before the reply that would have made it ours.
-/

namespace Pygt1000.DeviceLink

/-- The well-formed identity replies among the messages of a run. -/
def replies (acts : List Act) : List IdentityReply :=
  acts.filterMap fun
    | .receive message => parseIdentityReply message
    | .advance _ => none

/-- The id of the first reply that carries another id than the broadcast id. -/
def negotiatedId (acts : List Act) : Nat :=
  ((replies acts).find? (·.deviceId ≠ deviceIdBcast)).elim deviceIdBcast (·.deviceId)

/-- The identity reply an action brings in while the id is still the broadcast id. -/
def announced (s : Link) : Act → List IdentityReply
  | .receive message => if s.deviceId = deviceIdBcast then (parseIdentityReply message).toList else []
  | .advance _ => []

variable {calls : Nat → Call} {retryCount : Nat}

/-! ## What one step does to the id and to the callback's history -/

/-- Exchanges read the id and never write it. -/
theorem advance_deviceId (s : Link) (i : Nat) :
    (advance calls retryCount s i).deviceId = s.deviceId := by
  unfold advance
  split
  case h_4 => unfold poll; split <;> rfl
  all_goals rfl

theorem advance_identities (s : Link) (i : Nat) :
    (advance calls retryCount s i).identities = s.identities := by
  unfold advance
  split
  case h_4 => unfold poll; split <;> rfl
  all_goals rfl

theorem deliver_identities (s : Link) (offset data : List Nat) :
    (deliver s offset data).identities = s.identities := by
  unfold deliver; split <;> rfl

theorem receiveData_identity (s : Link) (message : List Nat) :
    (receiveData s message).deviceId = s.deviceId ∧
      (receiveData s message).identities = s.identities := by
  unfold receiveData
  split
  · exact ⟨rfl, rfl⟩
  · exact ⟨deliver_deviceId _ _ _, deliver_identities _ _ _⟩

/-- An identity reply counts only in the broadcast state, and there it always does. -/
theorem onReceive_identity (s : Link) (message : List Nat) :
    (onReceive s message).deviceId =
      (announced s (.receive message)).foldl (fun _ reply => reply.deviceId) s.deviceId ∧
    (onReceive s message).identities = s.identities ++ announced s (.receive message) := by
  obtain ⟨hid, hids⟩ := receiveData_identity s message
  by_cases hb : s.deviceId = deviceIdBcast
  · cases hp : parseIdentityReply message with
    | some reply => simp [onReceive, announced, hb, hp, negotiate]
    | none => simp [onReceive, announced, hb, hp, hids, hid.trans hb]
  · simp [onReceive, announced, hb, hid, hids]

theorem step_identities (s : Link) (act : Act) :
    (step calls retryCount s act).identities = s.identities ++ announced s act := by
  cases act with
  | advance i => simpa [announced, step] using advance_identities s i
  | receive message => exact (onReceive_identity s message).2

/-! ## The id after a run -/

theorem replies_append (as bs : List Act) : replies (as ++ bs) = replies as ++ replies bs :=
  List.filterMap_append

/-- A negotiated id outlives whatever follows; until there is one, only what follows counts. -/
theorem negotiatedId_append (as bs : List Act) :
    negotiatedId (as ++ bs) =
      if negotiatedId as = deviceIdBcast then negotiatedId bs else negotiatedId as := by
  unfold negotiatedId
  rw [replies_append, List.find?_append]
  cases hf : (replies as).find? (·.deviceId ≠ deviceIdBcast) with
  | none => simp
  | some reply =>
    have hne : reply.deviceId ≠ deviceIdBcast := by simpa using List.find?_some hf
    simp [hne]

/-- In the broadcast state a reply decides the id, whichever id it carries. -/
theorem negotiatedId_receive (message : List Nat) :
    negotiatedId [.receive message] =
      (parseIdentityReply message).elim deviceIdBcast (·.deviceId) := by
  unfold negotiatedId replies
  cases hp : parseIdentityReply message with
  | none => simp [hp]
  | some reply =>
    by_cases hb : reply.deviceId = deviceIdBcast <;> simp [hp, hb]

theorem deviceId_run (acts : List Act) :
    (run calls retryCount (fresh deviceIdBcast) acts).deviceId = negotiatedId acts := by
  induction acts using List.reverseRecOn with
  | nil => rfl
  | append_singleton acts act ih =>
    rw [run, Runs.run_concat, negotiatedId_append]
    rw [run] at ih
    cases act with
    | advance i =>
      show (advance calls retryCount _ i).deviceId = _
      rw [advance_deviceId, ih]
      split
      · next hb => simpa [negotiatedId, replies] using hb
      · rfl
    | receive message =>
      show (onReceive _ message).deviceId = _
      rw [(onReceive_identity _ message).1, announced, negotiatedId_receive, ih]
      split
      · next hb => cases parseIdentityReply message <;> simp [hb]
      · rfl

theorem identities_run (acts : List Act) (s : Link) :
    (run calls retryCount s acts).identities =
      s.identities ++ Runs.outputs (step calls retryCount) announced s acts := by
  induction acts using List.reverseRecOn with
  | nil => simp [Runs.outputs]
  | append_singleton acts act ih =>
    rw [run, Runs.run_concat, step_identities, Runs.outputs_concat, ← List.append_assoc, ← ih]

/-! ## Frames of other devices -/

/-- The id an accepted data frame carries in its header is the id it was accepted for. -/
theorem header_of_data {deviceId : Nat} {message offset data : List Nat}
    (h : parseDataReply deviceId message = some (offset, data)) : message.getD 2 0 = deviceId := by
  obtain ⟨hhead, -⟩ := parseDataReply_some h
  have h2 : (message.take 8).getD 2 0 = deviceId := by rw [hhead]; rfl
  simpa [List.getD_eq_getElem?_getD, List.getElem?_take] using h2

/-- A message whose header carries another id is not taken for data, and neither the slots nor
the callback see it. -/
theorem onReceive_stranger {s : Link} {message : List Nat} (h : message.getD 2 0 ≠ s.deviceId) :
    parseDataReply s.deviceId message = none ∧ (onReceive s message).pending = s.pending ∧
      (onReceive s message).unsolicited = s.unsolicited := by
  rcases onReceive_cases s message with ⟨offset, data, hp, -⟩ | ⟨hp, hpending, -, huns, -⟩
  · exact absurd (header_of_data hp) h
  · exact ⟨hp, hpending, huns⟩

variable (calls retryCount) in
/-- `data` at `offset` came in a frame that carried the id in force. -/
def Heard (acts : List Act) (offset data : List Nat) : Prop :=
  ∃ pre message post, acts = pre ++ .receive message :: post ∧
    parseDataReply (run calls retryCount (fresh deviceIdBcast) pre).deviceId message =
      some (offset, data) ∧
    message.getD 2 0 = (run calls retryCount (fresh deviceIdBcast) pre).deviceId

theorem Heard.concat {acts : List Act} {offset data : List Nat}
    (h : Heard calls retryCount acts offset data) (act : Act) :
    Heard calls retryCount (acts ++ [act]) offset data := by
  obtain ⟨pre, message, post, rfl, hp, hid⟩ := h
  exact ⟨pre, message, post ++ [act], by simp, hp, hid⟩

/-- Whatever data a slot holds, and whatever the callback was given, satisfies `P`. -/
def AllData (P : List Nat → List Nat → Prop) (s : Link) : Prop :=
  (∀ offset data, s.pending offset = some (some data) → P offset data) ∧
  ∀ frame ∈ s.unsolicited, P frame.1 frame.2

variable {P : List Nat → List Nat → Prop}

/-- Registering a key and removing it store no data. -/
theorem AllData.setPending {s : Link} (h : AllData P s) (key : List Nat)
    {slot : Option (Option (List Nat))} (hs : ∀ data, slot ≠ some (some data)) :
    AllData P (s.setPending key slot) := by
  refine ⟨fun offset data hp => ?_, h.2⟩
  rw [setPending_pending] at hp
  by_cases hk : offset = key
  · rw [hk, Function.update_self] at hp
    exact absurd hp (hs data)
  · rw [Function.update_of_ne hk] at hp
    exact h.1 offset data hp

theorem AllData.advance {s : Link} (h : AllData P s) (i : Nat) :
    AllData P (advance calls retryCount s i) := by
  unfold DeviceLink.advance
  split
  · exact h
  · exact h.setPending _ (fun _ => by simp)
  · exact h
  · unfold poll; split <;> exact h
  · have h' : AllData P (s.setPending (calls i).address none) := h.setPending _ (fun _ => by simp)
    exact h'
  · exact h
  · exact h

theorem AllData.deliver {s : Link} (h : AllData P s) {offset data : List Nat} (hP : P offset data) :
    AllData P (deliver s offset data) := by
  refine ⟨fun key d hp => ?_, fun frame hf => ?_⟩
  · rw [deliver_pending] at hp
    split at hp
    · next hk =>
      obtain rfl : data = d := by simpa using hp
      exact hk.1 ▸ hP
    · exact h.1 key d hp
  · unfold DeviceLink.deliver at hf
    split at hf
    · exact h.2 frame hf
    · rcases List.mem_append.1 hf with hf | hf
      · exact h.2 frame hf
      · obtain rfl : frame = (offset, data) := by simpa using hf
        exact hP

theorem heard_run (acts : List Act) :
    AllData (Heard calls retryCount acts) (run calls retryCount (fresh deviceIdBcast) acts) := by
  refine Runs.invariant_history (I := fun as s => AllData (Heard calls retryCount as) s)
    ⟨fun _ _ hp => by simp [fresh] at hp, fun _ hf => by simp [fresh] at hf⟩ ?_
    (Runs.guarded_always (fresh deviceIdBcast) acts)
  intro as act _ h
  have h' : AllData (Heard calls retryCount (as ++ [act])) (Runs.run (step calls retryCount) _ as) :=
    ⟨fun o d hp => (h.1 o d hp).concat act, fun f hf => (h.2 f hf).concat act⟩
  cases act with
  | advance i => exact h'.advance i
  | receive message =>
    rcases onReceive_cases (run calls retryCount (fresh deviceIdBcast) as) message with
      ⟨offset, data, hp, he⟩ | ⟨-, hpending, -, huns, -⟩
    · show AllData _ (onReceive _ message)
      rw [he]
      exact h'.deliver ⟨as, message, [], rfl, hp, header_of_data hp⟩
    · exact ⟨fun o d hd => h'.1 o d (hpending ▸ hd), fun f hf => h'.2 f (huns ▸ hf)⟩

/-! ## The law -/

/-- **Negotiation is one-shot**: along every run of a link created with the broadcast id, the id
is the one the first reply with another id carries; `on_identity` is called once with each reply
that comes in before, that one included, and never again; and no frame is stored or passed on
unless its header carries the id in force when it arrives. -/
theorem negotiation_one_shot (acts : List Act) :
    (run calls retryCount (fresh deviceIdBcast) acts).deviceId = negotiatedId acts ∧
    (run calls retryCount (fresh deviceIdBcast) acts).identities =
      Runs.outputs (step calls retryCount) announced (fresh deviceIdBcast) acts ∧
    AllData (Heard calls retryCount acts) (run calls retryCount (fresh deviceIdBcast) acts) ∧
    ∀ pre message post, acts = pre ++ .receive message :: post →
      message.getD 2 0 ≠ (run calls retryCount (fresh deviceIdBcast) pre).deviceId →
      (onReceive (run calls retryCount (fresh deviceIdBcast) pre) message).pending =
          (run calls retryCount (fresh deviceIdBcast) pre).pending ∧
        (onReceive (run calls retryCount (fresh deviceIdBcast) pre) message).unsolicited =
          (run calls retryCount (fresh deviceIdBcast) pre).unsolicited := by
  refine ⟨deviceId_run acts, ?_, heard_run acts, fun pre message post _ hne => ?_⟩
  · rw [identities_run]
    exact List.nil_append _
  · exact (onReceive_stranger hne).2

/-- A reply with the broadcast id leaves negotiation open, the next one closes it. -/
example :
    let reply (id : Nat) := Act.receive [0xF0, 0x7E, id, 6, 2, 0x41, 0x4F, 3, 0, 0, 0, 0, 1, 0, 0xF7]
    negotiatedId [reply 0x7F, reply 0x10, reply 0x20] = 0x10 := by decide

end Pygt1000.DeviceLink
