import Pygt1000.Echo
import Pygt1000.Landing

/-!
# The slider re-read against a full scan (`gt1000.py:174-178`, `block_snapshot.py:110-135`)

A frame at the TYPE of a block queues a re-read of its two sliders. Both the re-read and a scan go
through `sliders_for`: the scan with the name it just read, the re-read with `None` in its place.
Only `eq` looks at that argument, and shows LEVEL1 for `PARAMETRIC` and LEVEL for anything else, so
the re-read of a block that became `PARAMETRIC` records another slider than a scan. For every other
TYPE of every block the two agree (`refresh_agrees_iff`): an fx block's policy goes by the recorded
name, which the frame has set to what the scan reads. Where the sliders cannot be read
(`MASTERING FX`), both raise and neither records any.
-/

namespace Pygt1000

open Specs

/-! ## What the sliders depend on -/

section

variable {m : AddressMap} {fetch : Fetch} {s s' : PatchState} {fxType : String} {fxId : StrOrInt}

namespace BlockSnapshot

/-- Of the state only the name recorded for the block matters, and that for fx blocks only. -/
theorem resolve_congr (hname : fxType = "fx" → s.fxName fxId = s'.fxName fxId)
    (param : Option String) : resolve m fetch s fxType fxId param = resolve m fetch s' fxType fxId param := by
  cases param with
  | none => rfl
  | some option =>
    by_cases hfx : fxType = "fx"
    · simp only [resolve, valueRange, BlockReader.readValue, BlockReader.readFx, if_pos hfx, hname hfx]
    · simp only [resolve, valueRange, BlockReader.readValue, if_neg hfx]

theorem sliderParams_congr (hname : fxType = "fx" → s.fxName fxId = s'.fxName fxId) :
    sliderParams s fxType fxId = sliderParams s' fxType fxId := by
  by_cases hfx : fxType = "fx"
  · simp only [sliderParams, if_pos hfx, hname hfx]
  · simp only [sliderParams, if_neg hfx]

/-- Of the name passed along only whether it is `PARAMETRIC`, and that for `eq` only. -/
theorem slidersFor_congr (hname : fxType = "fx" → s.fxName fxId = s'.fxName fxId)
    {name name' : Option StrOrInt}
    (hparam : fxType = "eq" → (name = some (.str "PARAMETRIC") ↔ name' = some (.str "PARAMETRIC"))) :
    slidersFor m fetch s fxType fxId name = slidersFor m fetch s' fxType fxId name' := by
  by_cases heq : fxType = "eq"
  · simp only [slidersFor, if_pos heq, hparam heq, resolve_congr hname]
  · simp only [slidersFor, if_neg heq, sliderParams_congr hname, resolve_congr hname]

/-- A block whose name is no effect's shows no sliders. -/
theorem slidersFor_unnamed {name : Option StrOrInt} (hs : s.fxName fxId = .ok name)
    (hname : ∀ l, name ≠ some (.str l)) (param : Option StrOrInt) :
    slidersFor m fetch s "fx" fxId param = .ok (none, none) := by
  have hparams : sliderParams s "fx" fxId = .ok (none, none) := by
    rcases name with _ | l | n
    · simp [sliderParams, hs]
    · exact absurd rfl (hname l)
    · simp [sliderParams, hs]
  rw [slidersFor_eq_resolve (by decide) hparams]
  rfl

/-- A slider bears the name of its parameter. -/
theorem resolve_label (hne : fxType ≠ "fx") {option : String} {r : Option SliderValue}
    (h : resolve m fetch s fxType fxId (some option) = .ok r) : r.map (·.label) = some option := by
  obtain ⟨range, -, h⟩ := bind_eq_ok h
  obtain ⟨value, -, h⟩ := bind_eq_ok h
  rw [if_neg fun hc => hne hc.1] at h
  obtain ⟨v, hv, h⟩ := bind_eq_ok h
  cases h
  exact congrArg some (slider_eq_ok hv).1

/-- The slider of an `eq` block. -/
theorem slidersFor_eq_label {name : Option StrOrInt} {r : Option SliderValue × Option SliderValue}
    (h : slidersFor m fetch s "eq" fxId name = .ok r) :
    r.1.map (·.label) =
      some (if name = some (.str "PARAMETRIC") then "LEVEL1" else "LEVEL") := by
  obtain ⟨slider1, hslider, h⟩ := bind_eq_ok h
  cases h
  exact resolve_label (by decide) hslider

end BlockSnapshot

end

/-! ## The frame -/

/-- The id a re-read is queued under is the scan's, where a block is found under its decoded id. -/
theorem taskId_decodedId : ∀ b ∈ topBlocks, b.fxId.toStr = b.decodedId →
    Gt1000.taskId (some b.decodedId) = .ok b.fxId := by decide

theorem type_oneByte {b : TopBlock} (hb : b ∈ topBlocks) {e : Param}
    (he : b.table.lookup "TYPE" = some e) : e.bytes = 1 := by
  simpa [he] using selectors_oneByte _ (TopBlock.mem_valueTables hb) "TYPE" (by simp)

section

variable {m : AddressMap} {b : TopBlock} {e : Param} {g : Gt1000} {fx : FxBlock}

/-- A frame at the TYPE of a recorded block queues a re-read of its sliders under the id it is
recorded with, and for an fx block records the new name. -/
theorem HasBlock.frame_type (h : HasBlock m b) (he : b.table.lookup "TYPE" = some e)
    (hready : g.state.isReady = true) (hblock : g.state.block b.fxType b.decodedId = some fx)
    (hid : fx.fxId = b.fxId) (now v : Nat) (rest : List Nat) :
    let g' := (g.processDataFromUnit m now [0x10, b.second, b.third, e.offsetByte 1] (v :: rest)).1
    b.fxId.toStr = b.decodedId ∧ g'.queue = g.queue ++ [.sliders b.fxType b.fxId] ∧
      (∃ fx', g'.state.block b.fxType b.decodedId = some fx') ∧
      (b.fxType = "fx" → g'.state.fxName b.fxId = .ok ((labelForRaw e.values v).map .str)) := by
  intro g'
  have hne : [0x10, b.second, b.third, e.offsetByte 1] ≠ programChangeOffset := by
    simp [programChangeOffset]
  have hstr : b.fxId.toStr = b.decodedId := by
    obtain ⟨entries, -, hfind⟩ := Option.bind_eq_some_iff.1 hblock
    simpa [hid] using List.find?_some hfind
  have hraw : rawInt e (.list (v :: rest)) = .ok v := by
    simp [rawInt, type_oneByte h.mem he]
  obtain ⟨d, hd, ht, hdid, hset, hlabel, -, -⟩ := h.decode_eq he hraw
  have hdblock : g.state.block b.fxType (PatchState.idStr d.fxId) = some fx := by rw [hdid]; exact hblock
  obtain ⟨entries, happly⟩ := PatchState.apply_of_block hready ht hdblock now
  have hchanged : (PatchState.blockResult d fx).typeChanged = true := by
    simp [PatchState.blockResult, hset]
  have hg' : g' = ({ g with state := g.state.fold now d b.fxType fx entries } : Gt1000).submit
      (.sliders b.fxType b.fxId) := by
    simp only [g', Gt1000.processDataFromUnit, if_neg hne, hd, happly, hchanged, if_true, ht, hdid,
      taskId_decodedId b h.mem hstr]
  have hblock' := Gt1000.block_processDataFromUnit hready hne hd ht now
  rw [hdid, PatchState.idStr, hblock] at hblock'
  refine ⟨hstr, by rw [hg']; rfl, ⟨_, hblock'⟩, fun hfx => ?_⟩
  have hnames : g'.state.fxNames = g.state.fxNames.insert b.decodedId (d.strValue.map .str) := by
    rw [hg']
    simp only [Gt1000.submit, PatchState.fold, hfx, hset, hdid, PatchState.idStr, and_self, if_true]
  rw [PatchState.fxName, hnames, hstr, AList.lookup_insert, hlabel, subscript_some]

end

/-! ## The two readings -/

/-- What the re-read records for the block, if it records anything. -/
def refreshedSliders (m : AddressMap) (fetch : Fetch) (g : Gt1000) (fxType : String) (fxId : StrOrInt) :
    Option (Option SliderValue × Option SliderValue) :=
  ((g.refreshSliders m fetch fxType fxId).toOption.bind fun g =>
    g.state.block fxType fxId.toStr).map fun fx => (fx.slider1, fx.slider2)

/-- What a scan records. -/
def scannedSliders (m : AddressMap) (fetch : Fetch) (s : PatchState) (fxType : String)
    (fxId : StrOrInt) : Option (Option SliderValue × Option SliderValue) :=
  (BlockSnapshot.snapshot m fetch s fxType fxId true).toOption.map fun r => (r.2.slider1, r.2.slider2)

section

variable {m : AddressMap} {fetch : Fetch} {g : Gt1000} {fxType : String} {fxId : StrOrInt}

theorem refreshedSliders_eq {fx : FxBlock} (hblock : g.state.block fxType fxId.toStr = some fx) :
    refreshedSliders m fetch g fxType fxId =
      (BlockSnapshot.slidersFor m fetch g.state fxType fxId none).toOption := by
  cases hs : BlockSnapshot.slidersFor m fetch g.state fxType fxId none with
  | error err => simp [refreshedSliders, Gt1000.refreshSliders, hs, Except.toOption]
  | ok r =>
    obtain ⟨slider1, slider2⟩ := r
    obtain ⟨s', hset, hblock'⟩ := PatchState.block_setSliders hblock slider1 slider2
    simp [refreshedSliders, Gt1000.refreshSliders, hs, hset, Except.toOption, hblock']

theorem scannedSliders_eq {s : PatchState} {state name : Option StrOrInt}
    (hstate : BlockReader.read m fetch fxType fxId "SW" false = .ok state)
    (hname : BlockSnapshot.blockName m fetch fxType fxId = .ok name) :
    scannedSliders m fetch s fxType fxId =
      (BlockSnapshot.slidersFor m fetch (BlockSnapshot.named s fxType fxId name) fxType fxId
        name).toOption := by
  cases hs : BlockSnapshot.slidersFor m fetch (BlockSnapshot.named s fxType fxId name) fxType fxId name with
  | error err =>
    rw [BlockSnapshot.named] at hs
    simp [scannedSliders, BlockSnapshot.snapshot, hstate, hname, hs, Except.toOption]
  | ok r =>
    obtain ⟨slider1, slider2⟩ := r
    simp [scannedSliders, BlockSnapshot.snapshot_ok hstate hname hs, Except.toOption]

end

/-- `ns` and `delay` have no TYPE. -/
theorem type_untyped : ∀ t ∈ valueTables, t.1 = "ns" ∨ t.1 = "delay" → t.2.2.lookup "TYPE" = none := by
  decide

theorem presented_eq_str {e : Param} {v : Nat} {l : String} :
    some (presented e v) = some (.str l) ↔ labelForRaw e.values v = some l := by
  cases hlabel : labelForRaw e.values v with
  | none => simp [presented, hlabel]
  | some l' => simp [presented, hlabel]

section

variable {m : AddressMap} {b : TopBlock} {e : Param} {fetch : Fetch} {v : Nat} {s s' : PatchState}

/-- The name a scan reads in a memory that holds the byte. -/
theorem HasBlock.blockName_held (h : HasBlock m b) (hf : Exact fetch)
    (he : b.table.lookup "TYPE" = some e)
    (hv : fetch [0x10, b.second, b.third, e.offsetByte 1] [0, 0, 0, 1] = some [v]) :
    BlockSnapshot.blockName m fetch b.fxType b.fxId = .ok (some (presented e v)) := by
  have hns : ¬ (b.fxType = "ns" ∨ b.fxType = "delay") := by
    intro hns
    have hnone := type_untyped _ (TopBlock.mem_valueTables h.mem) hns
    rw [he] at hnone
    cases hnone
  have hanswer : answer fetch [0x10, b.second, b.third, e.offsetByte 1] e.bytes = some v := by
    rw [type_oneByte h.mem he]
    exact (answer_eq_some hf).2 hv
  rw [BlockSnapshot.blockName, if_neg hns, h.read_label hf he, hanswer]
  rfl

/-- An fx block, with the name of the byte's label and with the one a scan reads: the two differ
for a byte without a label, and then neither is an effect's. -/
theorem slidersFor_fx_held {fxId : StrOrInt}
    (hs : s.fxName fxId = .ok ((labelForRaw e.values v).map .str))
    (hs' : s'.fxName fxId = .ok (some (presented e v))) :
    BlockSnapshot.slidersFor m fetch s "fx" fxId none =
      BlockSnapshot.slidersFor m fetch s' "fx" fxId (some (presented e v)) := by
  cases hlabel : labelForRaw e.values v with
  | some l =>
    refine BlockSnapshot.slidersFor_congr (fun _ => ?_) fun heq => absurd heq (by decide)
    rw [hs, hs', hlabel, presented_eq_str.2 hlabel]
    rfl
  | none =>
    have hno : ∀ l, some (presented e v) ≠ some (.str l) := fun l hl => by
      rw [presented_eq_str.1 hl] at hlabel
      cases hlabel
    rw [BlockSnapshot.slidersFor_unnamed hs' hno]
    exact BlockSnapshot.slidersFor_unnamed hs (by simp [hlabel]) none

/-- An `eq` block shows LEVEL to the re-read, and LEVEL1 to a scan that finds it `PARAMETRIC`. -/
theorem HasBlock.slidersFor_eq_held (h : HasBlock m b) (hf : Exact fetch) (heq : b.fxType = "eq") :
    (BlockSnapshot.slidersFor m fetch s b.fxType b.fxId none).toOption =
        (BlockSnapshot.slidersFor m fetch s' b.fxType b.fxId (some (presented e v))).toOption ↔
      labelForRaw e.values v ≠ some "PARAMETRIC" := by
  have hne : b.fxType ≠ "fx" := by rw [heq]; decide
  constructor
  · intro hsame hlabel
    obtain ⟨r, hr⟩ := h.slidersFor_ok hf hne s none
    obtain ⟨r', hr'⟩ := h.slidersFor_ok hf hne s' (some (presented e v))
    rw [hr, hr'] at hsame
    obtain rfl : r = r' := Option.some.inj hsame
    rw [heq] at hr hr'
    have h1 := BlockSnapshot.slidersFor_eq_label hr
    rw [BlockSnapshot.slidersFor_eq_label hr', if_pos (presented_eq_str.2 hlabel)] at h1
    revert h1
    decide
  · intro hlabel
    have hiff : none = some (StrOrInt.str "PARAMETRIC") ↔
        some (presented e v) = some (.str "PARAMETRIC") := by
      simpa using fun hp => hlabel (presented_eq_str.1 (congrArg some hp))
    rw [BlockSnapshot.slidersFor_congr (fun hfx => absurd hfx hne) fun _ => hiff]

end

/-- **The re-read agrees with a scan, exactly** unless an `eq` block became `PARAMETRIC`: for every
block with a TYPE that is recorded under its scan's id, every byte in the frame and every memory
that holds it, the queued task records the two sliders a scan would record. -/
theorem refresh_agrees_iff {m : AddressMap} {b : TopBlock} (h : HasBlock m b) {e : Param}
    (he : b.table.lookup "TYPE" = some e) {g : Gt1000} (hready : g.state.isReady = true)
    {fx : FxBlock} (hblock : g.state.block b.fxType b.decodedId = some fx) (hid : fx.fxId = b.fxId)
    {fetch : Fetch} (hf : Exact fetch) {v : Nat}
    (hv : fetch [0x10, b.second, b.third, e.offsetByte 1] [0, 0, 0, 1] = some [v]) (rest : List Nat)
    (now : Nat) (s : PatchState) :
    let g' := (g.processDataFromUnit m now [0x10, b.second, b.third, e.offsetByte 1] (v :: rest)).1
    g'.queue = g.queue ++ [.sliders b.fxType b.fxId] ∧
      (refreshedSliders m fetch g' b.fxType b.fxId = scannedSliders m fetch s b.fxType b.fxId ↔
        ¬ (b.fxType = "eq" ∧ labelForRaw e.values v = some "PARAMETRIC")) := by
  intro g'
  obtain ⟨hstr, hqueue, ⟨fx', hblock'⟩, hrecorded⟩ := h.frame_type he hready hblock hid now v rest
  refine ⟨hqueue, ?_⟩
  have hstate := h.read_label hf (switch_labels _ (TopBlock.mem_valueTables h.mem))
  rw [← hstr] at hblock'
  rw [refreshedSliders_eq hblock', scannedSliders_eq hstate (h.blockName_held hf he hv)]
  by_cases heq : b.fxType = "eq"
  · rw [h.slidersFor_eq_held hf heq]
    simp [heq]
  refine iff_of_true (congrArg Except.toOption ?_) fun hc => heq hc.1
  by_cases hfx : b.fxType = "fx"
  · rw [hfx]
    exact slidersFor_fx_held (hrecorded hfx) (PatchState.fxName_setFxName s b.fxId _)
  · exact BlockSnapshot.slidersFor_congr (fun hc => absurd hc hfx) fun hc => absurd hc heq

/-- The compressor, whose TYPE goes to the first one. -/
theorem refresh_agrees_comp :
    let g' := (compOff.processDataFromUnit addressMap 1 [0x10, 0, 0x12, 1] [0]).1
    g'.queue = compOff.queue ++ [.sliders "comp" (.str "")] ∧
      (refreshedSliders addressMap zeros g' "comp" (.str "") =
          scannedSliders addressMap zeros compOff.state "comp" (.str "") ↔
        ¬ ("comp" = "eq" ∧ labelForRaw (numbered 0 compTypes) 0 = some "PARAMETRIC")) :=
  have hb : HasBlock addressMap ⟨"comp", .str "", 0, 0x12, ""⟩ := hasBlock_shipped (by decide)
  have he : patchComp.lookup "TYPE" = some ⟨[0, 1], [0, 5], 1, numbered 0 compTypes⟩ := rfl
  have hblock : compOff.state.block "comp" "" =
      some ⟨.str "", some (.str "OFF"), none, none, none⟩ := by decide
  refresh_agrees_iff hb he compOff_ready hblock rfl exact_zeros rfl [] 1 compOff.state

/-- Every type scanned; `eq` 1 is graphic. -/
def eq1Graphic : Gt1000 :=
  ⟨((PatchState.fresh fxTypes).run emptyScans).recordScan "eq" [⟨.int 1, some (.str "ON"),
      some (.str "GRAPHIC"), some ⟨some (.int 32), "LEVEL", 12, 52⟩, none⟩] 0, []⟩

/-- `eq` 1 becomes `PARAMETRIC`: a scan shows LEVEL1, the re-read LEVEL. -/
theorem refresh_disagrees_eq :
    eq1Graphic.state.isReady = true ∧ zeros [0x10, 0, 0x19, 1] [0, 0, 0, 1] = some [0] ∧
      (let g' := (eq1Graphic.processDataFromUnit addressMap 1 [0x10, 0, 0x19, 1] [0]).1
      g'.queue = [.sliders "eq" (.int 1)] ∧
      ∃ r r', refreshedSliders addressMap zeros g' "eq" (.int 1) = some r ∧
        scannedSliders addressMap zeros g'.state "eq" (.int 1) = some r' ∧
        r.1.map (·.label) = some "LEVEL" ∧ r'.1.map (·.label) = some "LEVEL1") := by
  have hready : eq1Graphic.state.isReady = true := by decide
  refine ⟨hready, rfl, ?_⟩
  intro g'
  have hb : HasBlock addressMap ⟨"eq", .int 1, 0, 0x19, "1"⟩ := hasBlock_shipped (by decide)
  have he : patchEq.lookup "TYPE" = some ⟨[0, 1], [0, 1], 1, numbered 0 ["PARAMETRIC", "GRAPHIC"]⟩ := rfl
  have hblock : eq1Graphic.state.block "eq" "1" = some ⟨.int 1, some (.str "ON"),
      some (.str "GRAPHIC"), some ⟨some (.int 32), "LEVEL", 12, 52⟩, none⟩ := by decide
  obtain ⟨-, hqueue, ⟨fx', hblock'⟩, -⟩ := hb.frame_type he hready hblock rfl 1 0 []
  have hstate := hb.read_label exact_zeros (switch_labels _ (TopBlock.mem_valueTables hb.mem))
  have hname := hb.blockName_held exact_zeros he (v := 0) rfl
  obtain ⟨r, hr⟩ := hb.slidersFor_ok exact_zeros (by decide) g'.state none
  obtain ⟨r', hr'⟩ := hb.slidersFor_ok exact_zeros (by decide)
    (BlockSnapshot.named g'.state "eq" (.int 1) (some (.str "PARAMETRIC"))) (some (.str "PARAMETRIC"))
  refine ⟨hqueue, r, r', ?_, ?_, BlockSnapshot.slidersFor_eq_label hr,
    BlockSnapshot.slidersFor_eq_label hr'⟩
  · rw [refreshedSliders_eq hblock', hr]
    rfl
  · exact (scannedSliders_eq hstate hname).trans (congrArg Except.toOption hr')

end Pygt1000
