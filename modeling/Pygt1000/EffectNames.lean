import Pygt1000.Echo
import Pygt1000.Lib.Runs

/-!
# The recorded effect names

The scan records for every fx block the label its selector has for the byte read, and a frame at
a selector records the label of the new byte: either way the name of an effect. Several effects
have a parameter of their own that is called TYPE, and a frame at one of those is taken for a
change of the effect as well, so a name such as `MONO` gets recorded that no table is known for.
The names stay real along every run without such frames (`names_real_run`).
-/

namespace Pygt1000

open Specs

/-- A label of the selector of an fx block, and one whose table is known. -/
def RealEffect (name : Option StrOrInt) : Prop :=
  ∃ l ∈ fxTypeLabels, name = some (.str l) ∧ ∃ suffix, AddressMap.tableSuffix (.str l) = .ok suffix

theorem realEffect_str {l : String} (hl : l ∈ fxTypeLabels) : RealEffect (some (.str l)) := by
  obtain ⟨suffix, hsuffix⟩ := Option.isSome_iff_exists.1 (fxTypeLabels_suffix l hl)
  exact ⟨l, hl, rfl, suffix, by simp [AddressMap.tableSuffix, hsuffix]⟩

/-- Every recorded name is one of an effect. -/
def NamesReal (s : PatchState) : Prop :=
  ∀ fxId name, s.fxName fxId = .ok name → RealEffect name

/-- `value_range`: two bounds, or the one fixed value. -/
def within (e : Param) (raw : Nat) : Bool :=
  match e.valueRange with
  | [lo, hi] => lo ≤ raw ∧ raw ≤ hi
  | range => range.contains raw

/-- A byte in the range of the selector has a label. -/
theorem realEffect_of_within {raw : Nat} (h : within fxType raw = true) :
    RealEffect ((labelForRaw fxType.values raw).map .str) ∧
      RealEffect (some (presented fxType raw)) := by
  have hlabels : ∀ raw < 34, ∃ l, labelForRaw fxType.values raw = some l := by
    have h : ∀ raw < 34, (labelForRaw fxType.values raw).isSome = true := by decide
    exact fun raw hraw => Option.isSome_iff_exists.1 (h raw hraw)
  have hraw : raw ≤ 33 := by simpa [within, fxType] using h
  obtain ⟨l, hl⟩ := hlabels raw (by omega)
  have hmem : l ∈ fxTypeLabels := (fxType_labels _ (mem_of_labelForRaw hl)).1
  simpa [presented, hl] using realEffect_str hmem

/-! ## After a scan -/

section

variable {m : AddressMap} {fetch : Fetch} {s s' : PatchState} {t : String}

theorem namesReal_setFxName (h : NamesReal s) {fxId : StrOrInt} {name : Option StrOrInt}
    (hname : RealEffect name) : NamesReal (s.setFxName fxId name) := by
  intro fxId' name' h'
  simp only [PatchState.fxName, PatchState.setFxName_fxNames] at h'
  by_cases hid : fxId'.toStr = fxId.toStr
  · rw [hid, AList.lookup_insert, subscript_some, Except.ok.injEq] at h'
    exact h' ▸ hname
  · rw [AList.lookup_insert_ne hid] at h'
    exact h fxId' name' h'

/-- The unit answers the read of the selector of an fx block with a byte in its range. -/
def SelectorAnswered (m : AddressMap) (fetch : Fetch) (fxId : StrOrInt) : Prop :=
  ∃ address raw, m.addressForBlock "fx" fxId "TYPE" none none = .ok (some address) ∧
    fetch address [0, 0, 0, 1] = some [raw] ∧ within fxType raw = true

theorem realEffect_of_blockName {b : TopBlock} (hb : HasBlock m b) (hf : Exact fetch)
    (hfx : b.fxType = "fx") (hsel : SelectorAnswered m fetch b.fxId) {name : Option StrOrInt}
    (h : BlockSnapshot.blockName m fetch b.fxType b.fxId = .ok name) : RealEffect name := by
  obtain ⟨address, raw, haddress, hreply, hraw⟩ := hsel
  have he := fxType_selector _ (TopBlock.mem_valueTables hb.mem) hfx
  have ha := hb.addressForBlock_eq he
  rw [hfx, haddress, Except.ok.injEq, Option.some.injEq] at ha
  have hanswer := (answer_eq_some hf).2 (ha ▸ hreply)
  have hns : ¬ (b.fxType = "ns" ∨ b.fxType = "delay") := by simp [hfx]
  rw [BlockSnapshot.blockName, if_neg hns, hb.read_label hf he, Except.ok.injEq] at h
  rw [← h, show fxType.bytes = 1 from rfl, hanswer]
  exact (realEffect_of_within hraw).2

/-- The reads of all selectors are answered so. -/
def SelectorsAnswered (m : AddressMap) (fetch : Fetch) : Prop :=
  ∀ n, m.fxBlockCount "fx" = .ok n → ∀ i < n, SelectorAnswered m fetch (.int (i + 1))

theorem namesReal_snapshotFrom (hm : Loaded m) (hf : Exact fetch) (ht : t ∈ fxTypes)
    (hsel : SelectorsAnswered m fetch) {n : Nat} (hc : m.fxBlockCount t = .ok n) {is : List Nat}
    (his : ∀ i ∈ is, i < n) {out : List FxBlock} (h0 : NamesReal s)
    (h : BlockSnapshot.snapshotFrom m fetch t s is = .ok (s', out)) : NamesReal s' := by
  induction is generalizing s out with
  | nil => cases h; exact h0
  | cons i is ih =>
    obtain ⟨s1, fx, rest, hfx, hrest, rfl⟩ := BlockSnapshot.snapshotFrom_cons hc h
    obtain ⟨state, name, slider1, slider2, -, hname, rfl, -, -⟩ := BlockSnapshot.snapshot_eq_ok hfx
    refine ih (fun j hj => his j (List.mem_cons_of_mem i hj)) ?_ hrest
    unfold BlockSnapshot.named
    split
    · next htype =>
      refine namesReal_setFxName h0 ?_
      subst htype
      have hi := his i List.mem_cons_self
      obtain ⟨b, hb, hfx, hid⟩ := hm.block ht hc hi
      rw [hid, ← hfx] at hname
      refine realEffect_of_blockName hb hf hfx ?_ hname
      rw [← hid, hm.normalId_fx hc]
      exact hsel n hc i hi
    · exact h0

theorem namesReal_refreshFrom (hm : Loaded m) (hf : Exact fetch) (hsel : SelectorsAnswered m fetch)
    {clock : String → Nat} {ts : List String} (hts : ∀ t ∈ ts, t ∈ fxTypes) (h0 : NamesReal s)
    (h : Gt1000.refreshFrom m fetch false clock s ts = .ok s') : NamesReal s' := by
  induction ts generalizing s with
  | nil => cases h; exact h0
  | cons t ts ih =>
    simp only [Gt1000.refreshFrom, Bool.false_eq_true, if_false] at h
    obtain ⟨⟨s1, states⟩, hsnap, h⟩ := bind_eq_ok h
    obtain ⟨n, hc, hsnap⟩ := bind_eq_ok hsnap
    have hs1 : NamesReal s1 := namesReal_snapshotFrom hm hf (hts t List.mem_cons_self) hsel hc
      (fun i hi => List.mem_range.1 hi) h0 hsnap
    have hrecorded : NamesReal (s1.recordScan t states (clock t)) :=
      fun fxId name hname => hs1 fxId name hname
    exact ih (fun t ht => hts t (List.mem_cons_of_mem _ ht)) hrecorded h

/-- The names a full scan records are real. -/
theorem namesReal_refreshState (hm : Loaded m) (hf : Exact fetch) (hsel : SelectorsAnswered m fetch)
    {clock : String → Nat} (h : Gt1000.refreshState m fetch false clock (.fresh fxTypes) = .ok s) :
    NamesReal s :=
  namesReal_refreshFrom hm hf hsel (fun _ ht => ht)
    (fun fxId name h => by simp [PatchState.fxName, PatchState.fresh] at h) h

end

/-- The TYPE of the chorus effect. -/
def chorusType : Param := ⟨[0, 0], [0, 6], 1, numbered 0
  ["MONO", "STEREO 1", "STEREO 2", "DUAL", "PRIME", "CE-1 CHORUS", "CE-1 VIBRATO"]⟩

/-! ## After a frame -/

/-- The values of a frame lie in the range of the parameter they address. -/
def InRange (m : AddressMap) (offset data : List Nat) : Prop :=
  ∀ l raw, m.locate offset = some l → rawInt l.entry (.list data) = .ok raw →
    within l.entry raw = true

theorem inRange_of_locate {m : AddressMap} {offset data : List Nat} {l : Located} {v : Nat}
    (hl : m.locate offset = some l) (hv : rawInt l.entry (.list data) = .ok v)
    (hw : within l.entry v = true) : InRange m offset data := by
  intro l' raw hl' hraw
  obtain rfl : l = l' := Option.some.inj (hl.symm.trans hl')
  obtain rfl : v = raw := Except.ok.inj (hv.symm.trans hraw)
  exact hw

/-- A frame at a parameter of an effect that is called TYPE. -/
def AtEffectType (m : AddressMap) (offset data : List Nat) : Prop :=
  ∃ d, m.decode offset (.list data) = .ok (some d) ∧ d.fxType = some "fx" ∧ d.valueName = "TYPE" ∧
    d.fxTableSuffix ≠ none

/-- An fx option's name is short for the block itself, and long for an effect in it. -/
theorem fxOptions_short : ∀ c ∈ containers, ∀ x ∈ c.2,
    x.2.table = "PatchFx" ∨ 3 < x.1.length ∨ startsWith x.1 "fx" = false := by decide +kernel

theorem patchFx_type : ∀ f ∈ params, f.1 = "PatchFx" → ∀ x ∈ f.2, x.1 = "TYPE" → x.2 = fxType := by
  decide

theorem fxOf_short {types : List String} {name : String} {fxId : Option String}
    (h : fxOf types name = .ok (some "fx", fxId, none)) :
    startsWith name "fx" = true ∧ ¬ 3 < name.length := by
  obtain ⟨hstarts, -⟩ := fxTypePrefix_spec types name
  unfold fxOf at h
  split at h
  · cases h
  · next fxType found heq =>
    obtain ⟨id, -, h⟩ := bind_eq_ok h
    simp only [pure_eq_ok, Except.ok.injEq, Prod.mk.injEq, Option.some.injEq] at h
    obtain ⟨rfl, -, hsuffix⟩ := h
    rw [heq] at hstarts
    exact ⟨(hstarts "fx" rfl).2, fun hlong => by simp [hlong] at hsuffix⟩

section

variable {m : AddressMap} {offset data : List Nat}

/-- What a frame at the selector of an fx block records is the name of an effect. -/
theorem realEffect_of_decode (hm : Loaded m) {d : DecodedValue}
    (hd : m.decode offset (.list data) = .ok (some d)) (hfx : d.fxType = some "fx")
    (htype : d.valueName = "TYPE") (hrange : InRange m offset data)
    (hnot : ¬ AtEffectType m offset data) : RealEffect (d.strValue.map .str) := by
  have hsuffix : d.fxTableSuffix = none := by
    by_contra hsuffix
    exact hnot ⟨d, hd, hfx, htype, hsuffix⟩
  rw [hm.decode_eq] at hd
  obtain ⟨l, hl, hraw, hfxOf, hfields⟩ := decode_eq_some hd
  rw [hfx, hsuffix] at hfxOf
  obtain ⟨hst, hshort⟩ := fxOf_short hfxOf
  obtain ⟨⟨container, r, hcontainer, hr, hrtable⟩, table, htable, hentry⟩ := mem_of_locate hl
  have hpatch : l.patchTable = "PatchFx" := by
    rcases fxOptions_short _ hcontainer _ hr with h | h | h
    · exact hrtable.symm.trans h
    · exact absurd h hshort
    · rw [hst] at h
      cases h
  have hvalueName : l.valueName = "TYPE" := by rw [← htype, hfields]
  have hentry : l.entry = fxType := patchFx_type _ htable hpatch _ hentry hvalueName
  have hwithin := hrange l d.intValue (hm.locate_eq ▸ hl) hraw
  have hstr : d.strValue = labelForRaw fxType.values d.intValue := by rw [← hentry, hfields]
  rw [hentry] at hwithin
  rw [hstr]
  exact (realEffect_of_within hwithin).1

/-- One frame: the recorded names stay real. -/
theorem namesReal_frame (hm : Loaded m) {g : Gt1000} (h0 : NamesReal g.state) (now : Nat)
    (hrange : InRange m offset data) (hnot : ¬ AtEffectType m offset data) :
    NamesReal (g.processDataFromUnit m now offset data).1.state := by
  rcases Gt1000.processDataFromUnit_cases m g now offset data with
    hsame | ⟨d, s', r, -, hd, happly, hstate⟩
  · exact hsame ▸ h0
  rw [hstate]
  intro fxId name hname
  rcases PatchState.fxName_apply happly fxId with hsame | ⟨hfx, htype, -, hnew⟩
  · exact h0 fxId name (hsame ▸ hname)
  · obtain rfl : d.strValue.map .str = name := Except.ok.inj (hnew.symm.trans hname)
    exact realEffect_of_decode hm hd hfx htype hrange hnot

end

/-! ## Runs -/

/-- A message arrives at the link, at a time. -/
def inbound (m : AddressMap) (st : DeviceLink.Link × Gt1000) (a : Nat × List Nat) :
    DeviceLink.Link × Gt1000 := Gt1000.receive m a.1 st.1 st.2 a.2

/-- The frame of the message, if it is one, is in range and not at a TYPE of an effect. -/
def Harmless (m : AddressMap) (st : DeviceLink.Link × Gt1000) (a : Nat × List Nat) : Prop :=
  ∀ offset data, parseDataReply st.1.deviceId a.2 = some (offset, data) →
    InRange m offset data ∧ ¬ AtEffectType m offset data

/-- **The recorded effect names are real**, from a full scan on and along every run of inbound
messages that are in range and none at a parameter of an effect that is called TYPE. -/
theorem names_real_run {m : AddressMap} (hm : Loaded m) {fetch : Fetch} (hf : Exact fetch)
    (hsel : SelectorsAnswered m fetch) {clock : String → Nat} {s : PatchState}
    (hscan : Gt1000.refreshState m fetch false clock (.fresh fxTypes) = .ok s)
    {link : DeviceLink.Link} {queue : List Task} {messages : List (Nat × List Nat)}
    (hrun : Runs.Guarded (inbound m) (Harmless m) (link, ⟨s, queue⟩) messages) :
    NamesReal (Runs.run (inbound m) (link, ⟨s, queue⟩) messages).2.state := by
  refine Runs.invariant (I := fun st => NamesReal st.2.state)
    (namesReal_refreshState hm hf hsel hscan) (fun st a hok hI => ?_) hrun
  rcases Gt1000.receive_cases m a.1 st.1 st.2 a.2 with hsame | ⟨offset, data, hparse, hframe⟩
  · exact hsame ▸ hI
  · obtain ⟨hrange, hnot⟩ := hok offset data hparse
    rw [inbound, hframe]
    exact namesReal_frame hm hI a.1 hrange hnot

theorem selectorsAnswered_zeros : SelectorsAnswered addressMap zeros := by
  intro n hc i hi
  obtain ⟨b, hb, hfx, hid⟩ := Loaded.block (m := addressMap) (Or.inl rfl) (t := "fx") (by decide) hc hi
  have ha := hb.addressForBlock_eq (fxType_selector _ (TopBlock.mem_valueTables hb.mem) hfx)
  rw [hfx, ← hid, Loaded.normalId_fx (Or.inl rfl) hc] at ha
  exact ⟨_, 0, ha, rfl, rfl⟩

/-- Fx 1 changes to the effect numbered 5. -/
theorem names_real_compressor : ∃ s,
    Gt1000.refreshState addressMap zeros false (fun _ => 0) (.fresh fxTypes) = .ok s ∧
    NamesReal (Runs.run (inbound addressMap) (DeviceLink.fresh 0x10, ⟨s, []⟩)
      [(0, encodeDt1 0x10 [0x10, 0, 0x23, 1, 5] none)]).2.state := by
  obtain ⟨s, hscan, -⟩ := scanned_zeros
  refine ⟨s, hscan, names_real_run (Or.inl rfl) exact_zeros selectorsAnswered_zeros hscan ⟨?_, trivial⟩⟩
  have hb : HasBlock addressMap ⟨"fx", .int 1, 0, 0x23, "1"⟩ := hasBlock_shipped (by decide)
  have he := fxType_selector _ (TopBlock.mem_valueTables hb.mem) rfl
  have hlocate : addressMap.locate [0x10, 0, 0x23, 1] =
      some ⟨AddressMap.patchSection, "Patch", "fx1", "PatchFx", "TYPE", fxType⟩ := by decide +kernel
  have hframe := parseDataReply_encodeDt1 0x10 [5] (show [0x10, 0, 0x23, 1].length = 4 from rfl)
  intro offset data hparse
  obtain ⟨rfl, rfl⟩ := Prod.mk.inj (Option.some.inj (hframe.symm.trans hparse))
  refine ⟨inRange_of_locate hlocate rfl rfl, ?_⟩
  rintro ⟨d, hd, -, -, hsuffix⟩
  have hraw : rawInt fxType (.list [5]) = .ok 5 := rfl
  obtain ⟨d', hd', -, -, -, -, -, hnone⟩ := hb.decode_eq he hraw
  obtain rfl : d = d' := Option.some.inj (Except.ok.inj (hd.symm.trans hd'))
  exact hsuffix hnone

/-- The chorus in fx 1 changes to `MONO`, which is then recorded as the effect in fx 1. -/
theorem fx1Chorus_recorded : ∃ s, (∀ address length, (zeros address length).isSome = true) ∧
    Gt1000.refreshState addressMap zeros false (fun _ => 0) (.fresh fxTypes) = .ok s ∧
    InRange addressMap [0x10, 0, 0x27, 0] [0] ∧
    (Runs.run (inbound addressMap) (DeviceLink.fresh 0x10, ⟨s, []⟩)
        [(0, encodeDt1 0x10 [0x10, 0, 0x27, 0, 0] none)]).2.state.fxName (.int 1) =
      .ok (some (.str "MONO")) ∧ "MONO" ∉ fxTypeLabels := by
  obtain ⟨s, hscan, hs, hblocks⟩ := scanned_zeros
  obtain ⟨blocks, i, fx, hl, hi, hid, -⟩ := hblocks ⟨"fx", .int 1, 0, 0x23, "1"⟩ (by decide)
  have hlocate : addressMap.locate [0x10, 0, 0x27, 0] =
      some ⟨AddressMap.patchSection, "Patch", "fx1Chorus", "PatchFxChorus", "TYPE", chorusType⟩ := by
    decide +kernel
  have hdecode : addressMap.decode [0x10, 0, 0x27, 0] (.list [0]) =
      .ok (some ⟨AddressMap.patchSection, "Patch", "fx1Chorus", "PatchFxChorus", "TYPE", some "MONO",
        0, some "fx", some "1", some "Chorus", some "CHORUS"⟩) := by decide +kernel
  have hparse := parseDataReply_encodeDt1 0x10 [0] (show [0x10, 0, 0x27, 0].length = 4 from rfl)
  have hstr : fx.fxId.toStr = "1" := by rw [hid]; decide
  have happly := hs.apply_block (Or.inl rfl) (t := "fx") (by decide) hl hi
    (d := ⟨AddressMap.patchSection, "Patch", "fx1Chorus", "PatchFxChorus", "TYPE", some "MONO",
      0, some "fx", some "1", some "Chorus", some "CHORUS"⟩) rfl hstr 0
  refine ⟨s, fun _ _ => rfl, hscan, inRange_of_locate hlocate rfl rfl, ?_, by decide⟩
  rw [Runs.run_cons, Runs.run_nil, inbound, Gt1000.receive_unsolicited hparse rfl,
    Gt1000.processDataFromUnit_state (by decide) hdecode happly]
  rfl

end Pygt1000
