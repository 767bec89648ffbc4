import Pygt1000.BlockReads

/-!
# Replies that are too short (`address_map.py:354-361`, `block_reader.py:79-88`)

A data reply may carry fewer bytes than were asked for, or none (`sysex_codec.py:95`). Neither
`decode` nor `_fetch_value` looks at how many there are: a parameter of one byte takes `data[0]`,
which raises on the empty list, and a wider one puts together the nibbles that came, to a number
that is smaller than the one sent (`rawInt_short`, `fetchValue_short`). Neither returns the `None`
that stands for a value that is not there: a short reply is refused only where no read goes to the
setting and `decode` finds nothing at its address (`short_reply_refused_iff`).
-/

namespace Pygt1000

open Specs

/-- What a reader makes of a reply shorter than `width`. -/
def shortValue (width : Nat) (data : List Nat) : Except PyErr Nat :=
  if 1 < width then .ok (unpackNibbles data) else .error .indexError

theorem rawInt_short {e : Param} {data : List Nat} (h : data.length < e.bytes) :
    rawInt e (.list data) = shortValue e.bytes data := by
  simp only [rawInt, shortValue]
  split
  · rw [List.take_of_length_le (Nat.le_of_lt h)]
  · next hw =>
    obtain rfl : data = [] := List.length_eq_zero_iff.1 (by omega)
    rfl

theorem fetchValue_short {fetch : Fetch} {address data : List Nat} {e : Param}
    (hreply : fetch address [0, 0, 0, e.bytes] = some data) (h : data.length < e.bytes) :
    BlockReader.fetchValue fetch (some address) e.bytes = (shortValue e.bytes data).map some := by
  rw [fetchValue_rawInt hreply, rawInt_short h]

/-- `decode` returns `None` where it finds no setting, whatever the value. -/
theorem decode_eq_none_iff {m : AddressMap} {address : List Nat} {value : RawValue} :
    m.decode address value = .ok none ↔ m.locate address = none := by
  unfold AddressMap.decode
  cases m.locate address with
  | none => simp
  | some l =>
    simp only [reduceCtorEq, iff_false]
    cases m.decodeAt l value with
    | error err => exact nofun
    | ok d => exact nofun

/-! ## The three readers -/

/-- A reply `data` to a read of the setting is refused by every reader that gets it: by `decode` at
the setting's address, and by `read` and `read_fx` of a block whose setting it is. -/
structure Refused (m : AddressMap) (sectionName option setting : String) (address : List Nat)
    (width : Nat) (data : List Nat) : Prop where
  decode : m.decode address (.list data) = .ok none
  read : ∀ fxType fxId justRange fetch,
    m.blockSectionOption fxType fxId none = .ok (sectionName, option) →
    fetch address [0, 0, 0, width] = some data →
    BlockReader.read m fetch fxType fxId setting justRange = .ok none
  readFx : ∀ s fxType fxId fxName fetch, PatchState.fxName s fxId = .ok fxName →
    m.blockSectionOption fxType fxId fxName = .ok (sectionName, option) →
    fetch address [0, 0, 0, width] = some data →
    BlockReader.readFx m fetch s fxType fxId setting = .ok none

/-- No read goes to the setting: `decode` finds nothing at its address, and no block and effect are
routed to it. -/
structure Unread (m : AddressMap) (sectionName option : String) (address : List Nat) : Prop where
  unlocated : m.locate address = none
  unrouted : ∀ fxType fxId fxName, m.blockSectionOption fxType fxId fxName ≠ .ok (sectionName, option)

section

variable {m : AddressMap} {sectionName option setting : String} {address : List Nat} {e : Param}

/-- Where the route goes to the setting, `read_fx` makes a number of a short reply, or raises. -/
theorem readFx_short (ha : m.addressFor sectionName option setting none = .ok (some address))
    (he : m.settingEntry sectionName option setting = .ok (some (.param e))) {s : PatchState}
    {fxType : String} {fxId : StrOrInt} {fxName : Option StrOrInt}
    (hname : s.fxName fxId = .ok fxName)
    (hroute : m.blockSectionOption fxType fxId fxName = .ok (sectionName, option)) {fetch : Fetch}
    {data : List Nat} (hreply : fetch address [0, 0, 0, e.bytes] = some data)
    (hshort : data.length < e.bytes) :
    BlockReader.readFx m fetch s fxType fxId setting ≠ .ok none := by
  have haddress : m.addressForBlock fxType fxId setting none fxName = .ok (some address) := by
    rw [AddressMap.addressForBlock_routed hroute, ha]
  have hwidth := AddressMap.blockSettingBytes_routed hroute he
  simp only [BlockReader.readFx, hname, haddress, hwidth, ok_bind, fetchValue_short hreply hshort]
  intro h
  cases hraw : shortValue e.bytes data with
  | error err =>
    rw [hraw] at h
    cases h
  | ok raw =>
    simp only [hraw, map_ok, ok_bind] at h
    -- A value is read; what follows returns one, or raises.
    obtain ⟨name, -, h⟩ := bind_eq_ok h
    obtain ⟨suffix, -, h⟩ := bind_eq_ok h
    obtain ⟨table, -, h⟩ := bind_eq_ok h
    obtain ⟨label, -, h⟩ := bind_eq_ok h
    cases h

end

/-- **A short reply is refused, exactly** where nothing reads the setting. -/
theorem short_reply_refused_iff {m : AddressMap} {sectionName option setting : String}
    {address data : List Nat} {e : Param}
    (ha : m.addressFor sectionName option setting none = .ok (some address))
    (he : m.settingEntry sectionName option setting = .ok (some (.param e)))
    (hshort : data.length < e.bytes) :
    Refused m sectionName option setting address e.bytes data ↔
      Unread m sectionName option address := by
  constructor
  · intro h
    refine ⟨decode_eq_none_iff.1 h.decode, fun fxType fxId fxName hroute => ?_⟩
    let s := (PatchState.fresh []).setFxName fxId fxName
    have hname : s.fxName fxId = .ok fxName := PatchState.fxName_setFxName _ fxId fxName
    let fetch : Fetch := fun _ _ => some data
    exact readFx_short ha he hname hroute rfl hshort
      (h.readFx s fxType fxId fxName fetch hname hroute rfl)
  · intro h
    exact ⟨decode_eq_none_iff.2 h.unlocated,
      fun fxType fxId _ _ hroute => absurd hroute (h.unrouted fxType fxId none),
      fun _ fxType fxId fxName _ _ hroute => absurd hroute (h.unrouted fxType fxId fxName)⟩

/-- No byte at all for the compressor's SUSTAIN. -/
theorem short_reply_refused_sustain :
    Refused addressMap AddressMap.patchSection "comp" "SUSTAIN" [0x10, 0, 0x12, 2] 1 [] ↔
      Unread addressMap AddressMap.patchSection "comp" [0x10, 0, 0x12, 2] :=
  short_reply_refused_iff (e := ⟨[0, 2], [0, 100], 1, []⟩) (by decide) (by decide) (by decide)

/-- The empty reply to SUSTAIN raises, and one byte of the four of a delay TIME is a value. -/
theorem short_reply_read :
    addressMap.decode [0x10, 0, 0x12, 2] (.list []) = .error .indexError ∧
    (addressMap.decode [0x10, 0, 0x1D, 1] (.list [5])).map (Option.map (·.intValue)) = .ok (some 5) ∧
    ¬ Refused addressMap AddressMap.patchSection "comp" "SUSTAIN" [0x10, 0, 0x12, 2] 1 [] ∧
    ¬ Refused addressMap AddressMap.patchSection "delay1" "TIME" [0x10, 0, 0x1D, 1] 4 [5] := by
  have hempty : addressMap.decode [0x10, 0, 0x12, 2] (.list []) = .error .indexError := by decide
  have hone : (addressMap.decode [0x10, 0, 0x1D, 1] (.list [5])).map (Option.map (·.intValue)) =
      .ok (some 5) := by decide
  refine ⟨hempty, hone, fun h => ?_, fun h => ?_⟩
  · have := h.decode
    rw [hempty] at this
    cases this
  · have := h.decode
    rw [this] at hone
    cases hone

end Pygt1000
