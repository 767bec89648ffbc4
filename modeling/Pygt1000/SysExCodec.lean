import Pygt1000.Constants
import Mathlib.Algebra.BigOperators.Group.List.Basic
import Mathlib.Algebra.Order.Ring.Nat

/-!
# The SysEx wire format (`sysex_codec.py`)

| here | there |
| --- | --- |
| `calculateChecksum`, `frame` | `SysExCodec.calculate_checksum` / `_frame` (`sysex_codec.py:54-67`) |
| `encodeDt1`, `encodeRq1`     | `encode_dt1` / `encode_rq1` (`:69-77`) |
| `parseDataReply`             | `parse_data_reply` (`:79-96`) |
| `parseIdentityReply`         | `parse_identity_reply` (`:98-136`) |

A SysEx message may carry only 7-bit bytes between its `F0` and its `F7`. The checksum is the
one byte the codec computes, `128 - (sum % 128)`, and it is `128` exactly when the payload
already sums to a multiple of 128: `encode_legal_iff`. The frame quoted beside
`EDITOR_MODE_ADDRESS_FETCH1` carries `0` there (`constants.py:30-31`).
-/

namespace Pygt1000

/-! ## Framing -/

/-- `calculate_checksum` (`:54-57`). -/
def calculateChecksum (data : List Nat) : List Nat := [128 - data.sum % 128]

/-- `_frame` (`:59-67`): the negotiated device id replaces the header's second byte. -/
def frame (deviceId : Nat) (header payload : List Nat) (overrideChecksum : Option (List Nat)) :
    List Nat :=
  let checksum := overrideChecksum.getD (calculateChecksum payload)
  let header := header.take 1 ++ [deviceId] ++ header.drop 2
  sysexStart ++ header ++ payload ++ checksum ++ sysexEnd

/-- `encode_dt1` (`:69-71`). -/
def encodeDt1 (deviceId : Nat) (payload : List Nat) (overrideChecksum : Option (List Nat)) :
    List Nat :=
  frame deviceId dt1SysexHeader payload overrideChecksum

/-- `encode_rq1` (`:73-77`). -/
def encodeRq1 (deviceId : Nat) (address length : List Nat)
    (overrideChecksum : Option (List Nat)) : List Nat :=
  frame deviceId rq1SysexHeader (address ++ length) overrideChecksum

/-! ## Reading a frame back -/

/-- Header of the data replies addressed to `deviceId` (`:84-86`). -/
def dataReplyHeader (deviceId : Nat) : List Nat :=
  sysexStart ++ manufacturerId ++ [deviceId] ++ modelId ++ dt1CommandId

/-- `parse_data_reply` (`:79-96`). The byte-by-byte header loop is a prefix test, and the
slices are Python's: `[len(header)+4 : -2]` is empty when fewer than two bytes are left. -/
def parseDataReply (deviceId : Nat) (message : List Nat) : Option (List Nat × List Nat) :=
  let header := dataReplyHeader deviceId
  if message.length < header.length + 4 then none
  else if message.take header.length ≠ header then none
  else
    let offset := (message.drop header.length).take 4
    let data := (message.take (message.length - 2)).drop (header.length + 4)
    some (offset, data)

/-- `IdentityReply` (`:43-49`). -/
structure IdentityReply where
  deviceId : Nat
  model : Option String
deriving DecidableEq, Repr

/-- The model named by the software revision bytes (`:123-135`). -/
def modelOfRevision (softwareRev1 softwareRev2 : Nat) : Option String :=
  if softwareRev1 = 0x00 ∧ softwareRev2 = 0x01 then some "GT-1000"
  else if softwareRev1 = 0x01 ∧ softwareRev2 = 0x01 then some "GT-1000L"
  else if softwareRev1 = 0x02 ∧ softwareRev2 = 0x00 then some "GT-1000CORE"
  else none

/-- `parse_identity_reply` (`:98-136`). The length test comes first, so every index is in
range and the default of `getD` is never read. -/
def parseIdentityReply (message : List Nat) : Option IdentityReply :=
  let at_ (i : Nat) := message.getD i 0
  if message.length ≠ 15 then none
  else if ¬(at_ 0 = sysexStart.getD 0 0 ∧ at_ 1 = nonRtMsg.getD 0 0 ∧ at_ 3 = genInfo.getD 0 0 ∧
      at_ 4 = identityReply.getD 0 0 ∧ at_ 5 = manufacturerId.getD 0 0 ∧
      at_ 6 = gt1000Family.getD 0 0 ∧ at_ 7 = gt1000Family.getD 1 0) then none
  else some ⟨at_ 2, modelOfRevision (at_ 10) (at_ 12)⟩

/-- A data reply is split into its address and its data, whatever its checksum. -/
theorem parseDataReply_reply (deviceId : Nat) {offset : List Nat} (data : List Nat) (c : Nat)
    (h : offset.length = 4) :
    parseDataReply deviceId (dataReplyHeader deviceId ++ (offset ++ (data ++ [c, 0xF7]))) =
      some (offset, data) := by
  generalize hmsg : dataReplyHeader deviceId ++ (offset ++ (data ++ [c, 0xF7])) = message
  have hhead : (dataReplyHeader deviceId).length = 8 := rfl
  have hlen : message.length = 8 + (4 + (data.length + 2)) := by
    rw [← hmsg]; simp [hhead, h]
  have hdata : message.take (12 + data.length) = dataReplyHeader deviceId ++ (offset ++ data) := by
    rw [← hmsg, ← List.append_assoc offset, ← List.append_assoc (dataReplyHeader deviceId)]
    exact List.take_left' (by simp [hhead, h]; omega)
  have htake : message.take 8 = dataReplyHeader deviceId := by
    rw [← hmsg]; exact List.take_left' hhead
  have hdrop : (message.drop 8).take 4 = offset := by
    rw [← hmsg, List.drop_left' hhead]; exact List.take_left' h
  have hlast : (message.take (message.length - 2)).drop 12 = data := by
    rw [hlen, show 8 + (4 + (data.length + 2)) - 2 = 12 + data.length by omega, hdata,
      ← List.append_assoc]
    exact List.drop_left' (by simp [hhead, h])
  simp only [parseDataReply, hhead, htake, hdrop, hlast]
  rw [if_neg (by omega), if_neg (by simp)]

/-- A framed DT1 is a data reply, with the address and the data it was built from. -/
theorem parseDataReply_encodeDt1 (deviceId : Nat) {offset : List Nat} (data : List Nat)
    (h : offset.length = 4) :
    parseDataReply deviceId (encodeDt1 deviceId (offset ++ data) none) = some (offset, data) := by
  have hmsg : encodeDt1 deviceId (offset ++ data) none =
      dataReplyHeader deviceId ++
        (offset ++ (data ++ [128 - (offset ++ data).sum % 128, 0xF7])) := by
    simp [encodeDt1, frame, dataReplyHeader, dt1SysexHeader, manufacturerId, sysexEnd,
      calculateChecksum]
  rw [hmsg, parseDataReply_reply deviceId data _ h]

/-- An accepted data frame starts with the header of a reply to this device id. -/
theorem parseDataReply_some {deviceId : Nat} {message offset data : List Nat}
    (h : parseDataReply deviceId message = some (offset, data)) :
    message.take 8 = dataReplyHeader deviceId ∧ offset.length = 4 := by
  simp only [parseDataReply, show (dataReplyHeader deviceId).length = 8 from rfl] at h
  split at h
  · cases h
  · split at h
    · cases h
    · next hlen hhead =>
      cases h
      exact ⟨not_not.1 hhead, by simp; omega⟩

/-- The second byte tells an identity reply from the frames of the data protocol. -/
theorem parseIdentityReply_eq_none {message : List Nat} (h : message.getD 1 0 ≠ 0x7E) :
    parseIdentityReply message = none := by
  have hsecond : ¬ message.getD 1 0 = nonRtMsg.getD 0 0 := h
  unfold parseIdentityReply
  simp only [hsecond, false_and, and_false, not_false_eq_true, if_true, ite_self]

/-- No message is both an identity reply and an accepted data frame. -/
theorem parseIdentityReply_of_data {deviceId : Nat} {message offset data : List Nat}
    (h : parseDataReply deviceId message = some (offset, data)) :
    parseIdentityReply message = none := by
  obtain ⟨hhead, -⟩ := parseDataReply_some h
  have h1 : message.getD 1 0 = 0x41 := by
    have : (message.take 8).getD 1 0 = 0x41 := by rw [hhead]; rfl
    simpa [List.getD_eq_getElem?_getD, List.getElem?_take] using this
  exact parseIdentityReply_eq_none (by rw [h1]; decide)

/-! ## Legal SysEx -/

/-- A frame the MIDI wire may carry: delimited by `F0` and `F7`, only 7-bit bytes between them,
and the byte before the `F7` completes the payload's sum to a multiple of 128. -/
structure LegalFrame (payload message : List Nat) : Prop where
  start : message.head? = some 0xF0
  stop : message.getLast? = some 0xF7
  sevenBit : ∀ b ∈ message.tail.dropLast, b < 0x80
  checksum : ∃ c, message.dropLast.getLast? = some c ∧ (payload.sum + c) % 128 = 0

/-- The seven bytes between `F0` and the payload. -/
def frameHeader (deviceId : Nat) (command : List Nat) : List Nat :=
  manufacturerId ++ [deviceId] ++ modelId ++ command

theorem encodeDt1_eq (deviceId : Nat) (payload : List Nat) :
    encodeDt1 deviceId payload none =
      0xF0 :: (frameHeader deviceId dt1CommandId ++ payload ++ calculateChecksum payload ++ [0xF7]) := rfl

theorem encodeRq1_eq (deviceId : Nat) (address length : List Nat) :
    encodeRq1 deviceId address length none =
      0xF0 :: (frameHeader deviceId rq1CommandId ++ (address ++ length) ++
        calculateChecksum (address ++ length) ++ [0xF7]) := rfl

/-- The modular law holds whatever the payload is. -/
theorem checksum_completes (payload : List Nat) : (payload.sum + (128 - payload.sum % 128)) % 128 = 0 := by
  omega

/-- With 7-bit header and payload, only the checksum byte can break a frame: it is `128` on a
payload that sums to a multiple of 128. -/
theorem legalFrame_iff {header payload : List Nat} (hh : ∀ b ∈ header, b < 0x80)
    (hp : ∀ b ∈ payload, b < 0x80) :
    LegalFrame payload (0xF0 :: (header ++ payload ++ calculateChecksum payload ++ [0xF7])) ↔
      payload.sum % 128 ≠ 0 := by
  have hbody : ((header ++ payload ++ calculateChecksum payload ++ [0xF7])).dropLast =
      header ++ payload ++ calculateChecksum payload := List.dropLast_concat
  constructor
  · intro hl hz
    have hc : 128 - payload.sum % 128 < 0x80 := by
      apply hl.sevenBit
      rw [List.tail_cons, hbody]
      simp [calculateChecksum]
    omega
  · intro hnz
    refine ⟨rfl, ?_, ?_, ?_⟩
    · rw [List.getLast?_cons, List.getLast?_append]; rfl
    · rw [List.tail_cons, hbody]
      intro b hb
      simp only [calculateChecksum, List.mem_append, List.mem_singleton] at hb
      rcases hb with (hb | hb) | rfl
      · exact hh b hb
      · exact hp b hb
      · omega
    · refine ⟨128 - payload.sum % 128, ?_, checksum_completes payload⟩
      rw [List.dropLast_cons_of_ne_nil (by simp), hbody, calculateChecksum, ← List.cons_append,
        List.getLast?_concat]

theorem frameHeader_sevenBit {deviceId : Nat} (hid : deviceId < 0x80) {command : List Nat}
    (hc : ∀ b ∈ command, b < 0x80) : ∀ b ∈ frameHeader deviceId command, b < 0x80 := by
  intro b hb
  simp only [frameHeader, manufacturerId, modelId, List.mem_append, List.mem_cons,
    List.not_mem_nil, or_false] at hb
  rcases hb with ((rfl | rfl) | hb) | hb
  · omega
  · exact hid
  · omega
  · exact hc b hb

/-- **Legal SysEx, exactly**: a DT1 or an RQ1 built without a checksum override is a legal frame
if and only if its payload does not already sum to a multiple of 128. -/
theorem encode_legal_iff {deviceId : Nat} {payload address length : List Nat}
    (hid : deviceId < 0x80) (hp : ∀ b ∈ payload, b < 0x80) (ha : ∀ b ∈ address, b < 0x80)
    (hl : ∀ b ∈ length, b < 0x80) :
    (LegalFrame payload (encodeDt1 deviceId payload none) ↔ payload.sum % 128 ≠ 0) ∧
    (LegalFrame (address ++ length) (encodeRq1 deviceId address length none) ↔
      (address ++ length).sum % 128 ≠ 0) := by
  have hal : ∀ b ∈ address ++ length, b < 0x80 := by
    intro b hb
    rcases List.mem_append.1 hb with h | h
    · exact ha b h
    · exact hl b h
  have hdt : ∀ b ∈ frameHeader deviceId dt1CommandId, b < 0x80 :=
    frameHeader_sevenBit hid (by decide)
  have hrq : ∀ b ∈ frameHeader deviceId rq1CommandId, b < 0x80 :=
    frameHeader_sevenBit hid (by decide)
  rw [encodeDt1_eq, encodeRq1_eq]
  exact ⟨legalFrame_iff hdt hp, legalFrame_iff hrq hal⟩

/-- Reading one byte at `comp` SUSTAIN, and writing 71 there. -/
theorem encode_legal_sustain :
    LegalFrame [0x10, 0, 0x12, 2, 71] (encodeDt1 0x10 [0x10, 0, 0x12, 2, 71] none) ∧
    LegalFrame ([0x10, 0, 0x12, 2] ++ [0, 0, 0, 1]) (encodeRq1 0x10 [0x10, 0, 0x12, 2] [0, 0, 0, 1] none) :=
  have hpayload : ∀ b ∈ [0x10, 0, 0x12, 2, 71], b < 0x80 := by decide
  have haddress : ∀ b ∈ [0x10, 0, 0x12, 2], b < 0x80 := by decide
  have hlength : ∀ b ∈ [0, 0, 0, 1], b < 0x80 := by decide
  have h := encode_legal_iff (by decide : 0x10 < 0x80) hpayload haddress hlength
  ⟨h.1.2 (by decide), h.2.2 (by decide)⟩

/-- Writing 92 to `comp` SUSTAIN, a value of its range, puts `80` on the wire as a data byte. -/
theorem encode_sustain_92_illegal :
    (∀ b ∈ [0x10, 0, 0x12, 2, 92], b < 0x80) ∧
    ¬ LegalFrame [0x10, 0, 0x12, 2, 92] (encodeDt1 0x10 [0x10, 0, 0x12, 2, 92] none) := by
  refine ⟨by decide, fun h => ?_⟩
  have := h.sevenBit 0x80 (by decide)
  omega

end Pygt1000
