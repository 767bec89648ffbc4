import Pygt1000.SysExCodec

/-!
# What the two parsers accept (`sysex_codec.py:79-136`)

The link tries both parsers on every inbound message (`device_link.py:125-127`).

* `parse_data_reply` asks for the header and four bytes after it (`:87`), and then cuts two more
  bytes off the end, for the checksum and the `F7` (`:95`). That these two are there it does not
  ask, so a frame cut short is taken as well: `parseDataReply_accepts_iff` says exactly which
  messages are split as the data format has them.
* What is built as one kind of frame is never read as another: `frames_separate`.
-/

namespace Pygt1000

/-! ## The data format -/

/-- A data reply to `deviceId`, with four address bytes, any data and any checksum. -/
def IsDataReply (deviceId : Nat) (message offset data : List Nat) : Prop :=
  offset.length = 4 ∧ ∃ c, message = dataReplyHeader deviceId ++ offset ++ data ++ [c, 0xF7]

/-- It starts as a data reply to `deviceId` does: the header, and four more bytes. -/
def Addressed (deviceId : Nat) (message : List Nat) : Prop :=
  12 ≤ message.length ∧ message.take 8 = dataReplyHeader deviceId

/-- Two more bytes follow, and the last one is the end of the frame. -/
def Terminated (message : List Nat) : Prop :=
  14 ≤ message.length ∧ message.getLast? = some 0xF7

variable {deviceId : Nat} {message offset data : List Nat}

/-- The slices the parser takes, of any message that is addressed. -/
theorem parseDataReply_of_addressed (h : Addressed deviceId message) :
    parseDataReply deviceId message =
      some ((message.drop 8).take 4, (message.take (message.length - 2)).drop 12) := by
  obtain ⟨hlen, hhead⟩ := h
  simp only [parseDataReply, show (dataReplyHeader deviceId).length = 8 from rfl]
  rw [if_neg (by omega), if_neg (not_not.2 hhead)]

theorem parseDataReply_of_not_addressed (h : ¬ Addressed deviceId message) :
    parseDataReply deviceId message = none := by
  simp only [parseDataReply, show (dataReplyHeader deviceId).length = 8 from rfl]
  split
  · rfl
  · next hlen => rw [if_pos fun hhead => h ⟨by omega, hhead⟩]

theorem IsDataReply.terminated (h : IsDataReply deviceId message offset data) :
    Terminated message := by
  obtain ⟨hoffset, c, rfl⟩ := h
  constructor
  · simp [dataReplyHeader, sysexStart, manufacturerId, modelId, dt1CommandId, hoffset]
    omega
  · rw [List.getLast?_append]
    rfl

theorem IsDataReply.parse (h : IsDataReply deviceId message offset data) :
    parseDataReply deviceId message = some (offset, data) := by
  obtain ⟨hoffset, c, rfl⟩ := h
  rw [List.append_assoc, List.append_assoc]
  exact parseDataReply_reply deviceId data c hoffset

/-- With both ends in place, the slices are the parts of the message. -/
theorem isDataReply_of_terminated (ha : Addressed deviceId message) (ht : Terminated message) :
    IsDataReply deviceId message ((message.drop 8).take 4)
      ((message.take (message.length - 2)).drop 12) := by
  obtain ⟨-, hhead⟩ := ha
  obtain ⟨hlen, hlast⟩ := ht
  have hfront : message.take 12 = dataReplyHeader deviceId ++ (message.drop 8).take 4 := by
    rw [← hhead, ← List.take_add]
  have hbody : message.take (message.length - 2) =
      message.take 12 ++ (message.take (message.length - 2)).drop 12 := by
    conv_lhs => rw [← List.take_append_drop 12 (message.take (message.length - 2))]
    rw [List.take_take, Nat.min_eq_left (by omega)]
  obtain ⟨c, e, hend⟩ : ∃ c e, message.drop (message.length - 2) = [c, e] :=
    List.length_eq_two.1 (by rw [List.length_drop]; omega)
  have hmessage : message = message.take 12 ++ (message.take (message.length - 2)).drop 12 ++ [c, e] := by
    rw [← hbody, ← hend, List.take_append_drop]
  have hbyte : e = 0xF7 := by
    rw [hmessage, List.getLast?_append] at hlast
    simpa using hlast
  refine ⟨by rw [List.length_take, List.length_drop]; omega, c, ?_⟩
  rw [← hfront, ← hbyte]
  exact hmessage

/-- **The data format, exactly**: a message is split as the format has it, and one that is no data
reply refused, unless it starts as one and then stops short of its checksum and its `F7`. -/
theorem parseDataReply_accepts_iff {deviceId : Nat} {message : List Nat} :
    (∀ offset data, parseDataReply deviceId message = some (offset, data) ↔
        IsDataReply deviceId message offset data) ↔
      (Addressed deviceId message → Terminated message) := by
  constructor
  · intro h ha
    exact ((h _ _).1 (parseDataReply_of_addressed ha)).terminated
  · intro h offset data
    refine ⟨fun hparse => ?_, IsDataReply.parse⟩
    by_cases ha : Addressed deviceId message
    · rw [parseDataReply_of_addressed ha, Option.some.injEq, Prod.mk.injEq] at hparse
      rw [← hparse.1, ← hparse.2]
      exact isDataReply_of_terminated ha (h ha)
    · rw [parseDataReply_of_not_addressed ha] at hparse
      cases hparse

/-- A reply that carries the byte 5 and lost its `F7`: the 5 is taken for the checksum. -/
theorem parseDataReply_cut_short :
    parseDataReply 0x10 [0xF0, 0x41, 0x10, 0, 0, 0, 0x4F, 0x12, 0x10, 0, 0x23, 1, 5, 0x47] =
        some ([0x10, 0, 0x23, 1], []) ∧
      ¬ IsDataReply 0x10 [0xF0, 0x41, 0x10, 0, 0, 0, 0x4F, 0x12, 0x10, 0, 0x23, 1, 5, 0x47]
        [0x10, 0, 0x23, 1] [] := by
  refine ⟨by decide, fun h => ?_⟩
  exact absurd h.terminated.2 (by decide)

/-! ## Kinds of frames -/

section

variable (header payload : List Nat) (overrideChecksum : Option (List Nat))

/-- Byte by byte, the start of every frame the codec builds. -/
theorem take_encodeDt1 : (encodeDt1 deviceId payload overrideChecksum).take 8 =
    dataReplyHeader deviceId := rfl

theorem getD_encodeDt1 : (encodeDt1 deviceId payload overrideChecksum).getD 1 0 = 0x41 := rfl

theorem getD_encodeRq1 (address length : List Nat) :
    (encodeRq1 deviceId address length overrideChecksum).getD 1 0 = 0x41 := rfl

theorem take_encodeRq1 (address length : List Nat) :
    (encodeRq1 deviceId address length overrideChecksum).take 8 =
      [0xF0, 0x41, deviceId, 0, 0, 0, 0x4F, 0x11] := rfl

end

/-- A reply is read by one device only. -/
theorem parseDataReply_encodeDt1_other {deviceId deviceId' : Nat} (hne : deviceId' ≠ deviceId)
    (payload : List Nat) (overrideChecksum : Option (List Nat)) :
    parseDataReply deviceId' (encodeDt1 deviceId payload overrideChecksum) = none := by
  refine parseDataReply_of_not_addressed fun h => hne ?_
  have hheads : dataReplyHeader deviceId = dataReplyHeader deviceId' :=
    (take_encodeDt1 payload overrideChecksum).symm.trans h.2
  exact (by simpa [dataReplyHeader] using hheads : deviceId = deviceId').symm

/-- The eighth byte tells a request from a reply. -/
theorem parseDataReply_encodeRq1 (deviceId deviceId' : Nat) (address length : List Nat)
    (overrideChecksum : Option (List Nat)) :
    parseDataReply deviceId' (encodeRq1 deviceId address length overrideChecksum) = none := by
  refine parseDataReply_of_not_addressed fun h => ?_
  have hheads : [0xF0, 0x41, deviceId, 0, 0, 0, 0x4F, 0x11] = dataReplyHeader deviceId' :=
    (take_encodeRq1 overrideChecksum address length).symm.trans h.2
  simp [dataReplyHeader, dt1CommandId, modelId, manufacturerId, sysexStart] at hheads

theorem parseDataReply_of_identity {reply : IdentityReply}
    (h : parseIdentityReply message = some reply) (deviceId : Nat) :
    parseDataReply deviceId message = none := by
  cases hparse : parseDataReply deviceId message with
  | none => rfl
  | some found =>
    obtain ⟨offset, data⟩ := found
    rw [parseIdentityReply_of_data hparse] at h
    cases h

/-- **No frame is read as another kind**: a DT1 comes back as its address and its data, to its own
device alone; a request never does; neither is an identity reply, and no identity reply is data. -/
theorem frames_separate {offset : List Nat} (hoffset : offset.length = 4)
    (deviceId deviceId' : Nat) (data payload address length message : List Nat)
    (overrideChecksum : Option (List Nat)) :
    parseDataReply deviceId' (encodeDt1 deviceId (offset ++ data) none) =
        (if deviceId' = deviceId then some (offset, data) else none) ∧
      parseDataReply deviceId' (encodeRq1 deviceId address length overrideChecksum) = none ∧
      parseIdentityReply (encodeDt1 deviceId payload overrideChecksum) = none ∧
      parseIdentityReply (encodeRq1 deviceId address length overrideChecksum) = none ∧
      ∀ reply, parseIdentityReply message = some reply → parseDataReply deviceId' message = none := by
  refine ⟨?_, parseDataReply_encodeRq1 .., ?_, ?_, fun reply h => parseDataReply_of_identity h deviceId'⟩
  · split
    · next heq => rw [heq, parseDataReply_encodeDt1 deviceId data hoffset]
    · next hne => exact parseDataReply_encodeDt1_other hne _ _
  · exact parseIdentityReply_eq_none (by rw [getD_encodeDt1]; decide)
  · exact parseIdentityReply_eq_none (by rw [getD_encodeRq1]; decide)

/-- A DT1 of one data byte to fx 1, exactly as long as an identity reply. -/
theorem frames_separate_fx1 :
    parseDataReply 0x10 (encodeDt1 0x10 ([0x10, 0, 0x23, 1] ++ [5]) none) =
        (if 0x10 = 0x10 then some ([0x10, 0, 0x23, 1], [5]) else none) ∧
      parseDataReply 0x10 (encodeRq1 0x10 [0x10, 0, 0x23, 1] oneByte none) = none ∧
      parseIdentityReply (encodeDt1 0x10 [0x10, 0, 0x23, 1, 5] none) = none ∧
      parseIdentityReply (encodeRq1 0x10 [0x10, 0, 0x23, 1] oneByte none) = none ∧
      ∀ reply, parseIdentityReply [0xF0, 0x7E, 0x10, 6, 2, 0x41, 0x4F, 3, 0, 0, 0, 0, 1, 0, 0xF7] =
        some reply → parseDataReply 0x10
          [0xF0, 0x7E, 0x10, 6, 2, 0x41, 0x4F, 3, 0, 0, 0, 0, 1, 0, 0xF7] = none :=
  frames_separate (by decide) 0x10 0x10 [5] [0x10, 0, 0x23, 1, 5] [0x10, 0, 0x23, 1] oneByte _ none

end Pygt1000
