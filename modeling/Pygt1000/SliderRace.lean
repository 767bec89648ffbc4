import Mathlib.Data.List.ReduceOption
import Pygt1000.LiveSliders
import Pygt1000.SubEffects
import Pygt1000.Scan

/-!
# Reading sliders while the effect changes (`block_snapshot.py:160-206`, `patch_state.py:168-221`)

While `sliders_for` goes from one reading to the next, frames come in on the MIDI thread, and one at
the TYPE of the block changes the name the next reading gets. The policy is then one effect's and
the ranges and addresses are another's, or the parameter is not in the other's table at all and the
lookup raises (`mixed_effects_raise`). Where every reading of the name returns what the first one
returned (`Steady`), the call ends with two sliders of one effect that was recorded for the block
meanwhile (`one_effect_run`); frames that repeat the block's effect are among the runs where it does
(`steady_of_unchanging`).
-/

namespace Pygt1000.Live

open Specs

/-! ## The parties -/

/-- What the call and the MIDI thread share, and the unit. -/
structure Shared where
  state : PatchState
  fetch : Fetch

/-- A frame is folded in, or the unit answers otherwise from now on. -/
inductive Other where
  | apply (now : Nat) (d : DecodedValue)
  | device (fetch : Fetch)

def Shared.answer (w : Shared) : ∀ q, Answer q := oracle w.state w.fetch

def Shared.act (w : Shared) : Other → Shared
  | .apply now d => { w with state := match w.state.apply now d with
      | .ok (state, _) => state
      | .error _ => w.state }
  | .device fetch => { w with fetch }

abbrev Call := Asking.Config Answer PyErr (Option SliderValue × Option SliderValue) Shared

/-- `sliders_for("fx", fx_id, ..)` is called. -/
def call (m : AddressMap) (fxId : StrOrInt) (w : Shared) : Call := ⟨w, slidersFor m fxId, []⟩

def step : Call → Asking.Move Other → Call := Asking.step Shared.answer Shared.act

abbrev run : Call → List (Asking.Move Other) → Call := Runs.run step

/-- The names that were read for the block, in order. -/
def namesRead (fxId : StrOrInt) (log : List (Sigma Answer)) : List (Except PyErr (Option StrOrInt)) :=
  log.filterMap fun
    | ⟨.fxName fxId', name⟩ => if fxId' = fxId then some name else none
    | ⟨.fetch _ _, _⟩ => none

/-- The addresses that were read, in order. -/
def fetched (log : List (Sigma Answer)) : List (List Nat) :=
  log.filterMap fun
    | ⟨.fxName _, _⟩ => none
    | ⟨.fetch address _, _⟩ => some address

/-! ## What is expected -/

/-- An effect that can be chosen, has sliders, and has a value table that is loaded. -/
structure Selectable (m : AddressMap) (l : String) : Prop where
  listed : ∃ labels, m.typesFor "fx" = .ok (some labels) ∧ l ∈ labels
  sliders : ∃ sliders, BlockSnapshot.fxNameSliderParams.lookup l = some sliders ∧ sliders ≠ (none, none)
  loaded : ∃ suffix table, AddressMap.tableSuffix (.str l) = .ok suffix ∧
    m.fxNameValueTable suffix = .ok table

/-- The block's effect is one of these, and the unit answers with the length asked for. -/
structure Sound (m : AddressMap) (fxId : StrOrInt) (w : Shared) : Prop where
  name : ∃ l, Selectable m l ∧ w.state.fxName fxId = .ok (some (.str l))
  exact : Exact w.fetch

/-- A frame at the TYPE of the block chooses one of these; other frames are free. -/
def Offered (m : AddressMap) (fxId : StrOrInt) : Asking.Move Other → Prop
  | .own => True
  | .other (.apply _ d) => d.fxType = some "fx" → d.valueName = "TYPE" →
      PatchState.idStr d.fxId = fxId.toStr → ∃ l, Selectable m l ∧ d.strValue = some l
  | .other (.device fetch) => Exact fetch

/-- Where the call reads the name again, it is still the one read before. -/
def Steady (fxId : StrOrInt) (c : Call) : Asking.Move Other → Prop
  | .own => c.prog.next? = some (.fxName fxId) →
      ∀ name ∈ namesRead fxId c.log, name = c.world.state.fxName fxId
  | .other _ => True

/-- The address of a setting of effect `l` in the block. -/
def effectAddress (m : AddressMap) (fxId : StrOrInt) (l setting : String) : Option (List Nat) :=
  (m.addressForBlock "fx" fxId setting none (some (.str l))).toOption.join

/-- The range of a setting of effect `l` in the block. -/
def effectRange (m : AddressMap) (fxId : StrOrInt) (l setting : String) : Option (List Nat) :=
  (do
    let suffix ← AddressMap.tableSuffix (.str l)
    m.valueRange (AddressMap.fxStartSection fxId suffix) ("fx" ++ fxId.toStr ++ suffix) setting :
      Except PyErr (Option (List Nat))).toOption.join

/-- The slider of parameter `param` of effect `l`, if there is one: its label and range are that
parameter's. -/
def SliderOf (m : AddressMap) (fxId : StrOrInt) (l : String) (param : Option String)
    (slider : Option SliderValue) : Prop :=
  ∀ v, slider = some v → param = some v.label ∧
    ∃ rest, effectRange m fxId l v.label = some (v.min :: v.max :: rest)

/-- The two sliders, and the addresses that were read for them, are effect `l`'s. -/
structure OneEffect (m : AddressMap) (fxId : StrOrInt) (l : String) (addresses : List (List Nat))
    (sliders : Option SliderValue × Option SliderValue) : Prop where
  first : SliderOf m fxId l (policy (some (.str l))).1 sliders.1
  second : SliderOf m fxId l (policy (some (.str l))).2 sliders.2
  read : addresses.map some = ([(policy (some (.str l))).1, (policy (some (.str l))).2].reduceOption).map
    (effectAddress m fxId l)

/-- The call was under way when `l` was the effect recorded for the block. -/
def RecordedDuring (fxId : StrOrInt) (c : Call) (acts : List (Asking.Move Other)) (l : String) : Prop :=
  ∃ pre post, acts = pre ++ post ∧ (run c pre).prog.result? = none ∧
    (run c pre).world.state.fxName fxId = .ok (some (.str l))

/-! ## Selectable effects -/

theorem effects_sliders : ∀ l ∈ fxTypeLabels, l ∉ bassVariants →
    (BlockSnapshot.fxNameSliderParams.lookup l).any (· ≠ (none, none)) = true := by decide

section

variable {m : AddressMap} {b : TopBlock} {l suffix setting : String}

/-- The effects that can be chosen are those of the selector that have an option. -/
theorem typesFor_fx (hm : Loaded m) :
    m.typesFor "fx" = .ok (some (fxTypeLabels.filter fun l => l ∉ bassVariants)) := by
  have hmem : ("fx", "PatchFx", patchFx) ∈ valueTables := by decide
  have htable : m.tables (fxTypeTableName "fx") = some (.params patchFx) := by
    rw [fxTypeTableName_shipped _ hmem, hm.tables_eq]
    exact tables_params (valueTables_shipped _ hmem)
  have hvalues : fxType.values.map Prod.fst = fxTypeLabels := List.zipIdx_map_fst ..
  simp only [AddressMap.typesFor, htable, find?_params, fxType_selector _ hmem rfl, Option.map_some,
    subscript_some, param?_param, ok_bind, hvalues]
  rfl

/-- An effect with an option has a value table under its suffix, unless it is `MASTERING FX`. -/
theorem fxNameValueTable_iff (hm : Loaded m) (hl : fxToTableSuffix.lookup l = some suffix)
    (hlisted : l ∉ bassVariants) :
    (∃ table, m.fxNameValueTable suffix = .ok table) ↔ l ≠ "MASTERING FX" := by
  have hmem := mem_of_lookup hl
  have hsuffix : suffix = "MasterFx" ↔ l = "MASTERING FX" := masterFx_suffix _ hmem
  rw [hm.fxNameValueTable_eq, AddressMap.fxNameValueTable, AddressMap.valueTable]
  constructor
  · rintro ⟨table, htable⟩ hmaster
    rw [hsuffix.2 hmaster, show "PatchFx" ++ "MasterFx" = "PatchFxMasterFx" from rfl,
      masterFx_missing] at htable
    cases htable
  · intro hne
    obtain ⟨table, htable, -⟩ := (Option.any_eq_true _ _).1 (effects_slidable _ hmem hlisted)
    rw [effectTable, if_neg fun hs => hne (hsuffix.1 hs)] at htable
    exact ⟨.params table, by rw [tables_params (mem_of_lookup htable), subscript_some]⟩

/-- The domain is not small: every effect of the selector but five. -/
theorem selectable_iff (hm : Loaded m) :
    Selectable m l ↔ l ∈ fxTypeLabels ∧ l ∉ bassVariants ∧ l ≠ "MASTERING FX" := by
  constructor
  · intro h
    obtain ⟨labels, hlabels, hl⟩ := h.listed
    rw [typesFor_fx hm, Except.ok.injEq, Option.some.injEq] at hlabels
    simp only [← hlabels, List.mem_filter, decide_eq_true_eq] at hl
    obtain ⟨suffix, table, hsuffix, htable⟩ := h.loaded
    exact ⟨hl.1, hl.2, (fxNameValueTable_iff hm (subscript_eq_ok.1 hsuffix) hl.2).1 ⟨table, htable⟩⟩
  · rintro ⟨hl, hlisted, hne⟩
    obtain ⟨suffix, hsuffix⟩ := Option.isSome_iff_exists.1 (fxTypeLabels_suffix l hl)
    obtain ⟨sliders, hsliders, hsome⟩ := (Option.any_eq_true _ _).1 (effects_sliders l hl hlisted)
    obtain ⟨table, htable⟩ := (fxNameValueTable_iff hm hsuffix hlisted).2 hne
    refine ⟨⟨_, typesFor_fx hm, by simp [hl, hlisted]⟩, ⟨sliders, hsliders, by simpa using hsome⟩,
      suffix, table, ?_, htable⟩
    simp only [AddressMap.tableSuffix, hsuffix, subscript_some]

/-- The lookups of a slider's parameter, all of which succeed. -/
theorem Selectable.exists_slot (h : Selectable m l) (hb : HasBlock m b) (hfx : b.fxType = "fx")
    (hs : EffectSlider l setting) :
    ∃ suffix, fxToTableSuffix.lookup l = some suffix ∧
      ∃ slot : Slot addressMap (AddressMap.fxStartSection b.fxId suffix)
          ("fx" ++ b.fxId.toStr ++ suffix) setting,
        m.fxNameValueTable suffix = .ok (.params slot.table) ∧ 2 ≤ slot.param.valueRange.length := by
  obtain ⟨-, hlisted, hne⟩ := (selectable_iff hb.1).1 h
  obtain ⟨suffix, -, hsuffix, -⟩ := h.loaded
  have hl : fxToTableSuffix.lookup l = some suffix := subscript_eq_ok.1 hsuffix
  refine ⟨suffix, hl, ?_⟩
  rcases exists_effectSlot hb.mem hfx hl hs with ⟨hunlisted, -⟩ | ⟨slot, hslot, hrange⟩
  · exact absurd hunlisted hlisted
  · refine ⟨slot, ?_, hrange⟩
    rw [effectTable, if_neg fun hs => hne ((masterFx_suffix _ (mem_of_lookup hl)).1 hs)] at hslot
    rw [hb.1.fxNameValueTable_eq, AddressMap.fxNameValueTable, AddressMap.valueTable, hslot,
      subscript_some]

end

/-! ## What the readings come to -/

/-- What the guard and the unit allow as answers: a selectable effect, the same at every reading,
and replies of the length asked for. -/
def Fair (m : AddressMap) (fxId : StrOrInt) (log : List (Sigma Answer)) : ∀ q, Answer q → Prop
  | .fxName fxId', name => fxId' = fxId →
      (∃ l, Selectable m l ∧ name = .ok (some (.str l))) ∧ ∀ name' ∈ namesRead fxId log, name' = name
  | .fetch _ length, reply => ∀ width data, length = [0, 0, 0, width] → reply = some data →
      data.length = width

/-- The block's name was read, and was `l` every time. -/
structure Named (fxId : StrOrInt) (l : String) (log : List (Sigma Answer)) : Prop where
  read : ⟨.fxName fxId, .ok (some (.str l))⟩ ∈ log
  all : ∀ name ∈ namesRead fxId log, name = .ok (some (.str l))

section

variable {m : AddressMap} {fxId : StrOrInt} {l : String} {log : List (Sigma Answer)} {α : Type}
  {post : List (Sigma Answer) → Except PyErr α → Prop}

theorem named_fxName (hlog : ∀ name ∈ namesRead fxId log, name = .ok (some (.str l))) :
    Named fxId l (log ++ [⟨.fxName fxId, .ok (some (.str l))⟩]) := by
  refine ⟨by simp, fun name hname => ?_⟩
  simp only [namesRead, List.filterMap_append, List.mem_append] at hname
  rcases hname with hname | hname
  · exact hlog name hname
  · simpa using hname

theorem Named.fetch (h : Named fxId l log) (address length : List Nat) (reply : Option (List Nat)) :
    Named fxId l (log ++ [⟨.fetch address length, reply⟩]) := by
  have hsame : namesRead fxId (log ++ [⟨.fetch address length, reply⟩]) = namesRead fxId log := by
    simp [namesRead]
  exact ⟨List.mem_append_left _ h.read, hsame ▸ h.all⟩

theorem fetched_fxName (name : Except PyErr (Option StrOrInt)) :
    fetched (log ++ [⟨.fxName fxId, name⟩]) = fetched log := by
  simp [fetched]

theorem fetched_fetch (address length : List Nat) (reply : Option (List Nat)) :
    fetched (log ++ [⟨.fetch address length, reply⟩]) = fetched log ++ [address] := by
  simp [fetched]

/-- Once the name was read, it reads the same. -/
theorem ensures_fxNameFor (hlog : Named fxId l log) {f : Option StrOrInt → Reading α}
    (hf : ∀ log', Named fxId l log' → fetched log' = fetched log →
      Asking.Ensures (Fair m fxId) post log' (f (some (.str l)))) :
    Asking.Ensures (Fair m fxId) post log (fxNameFor fxId >>= f) := by
  intro name hfair
  have hbefore : .ok (some (.str l)) ∈ namesRead fxId log := List.mem_filterMap.2 ⟨_, hlog.read, if_pos rfl⟩
  obtain rfl : .ok (some (.str l)) = name := (hfair rfl).2 _ hbefore
  exact hf _ (named_fxName hlog.all) (fetched_fxName _)

/-- The first reading decides. -/
theorem ensures_first {f : Option StrOrInt → Reading α}
    (hf : ∀ l, Selectable m l → ∀ log, Named fxId l log → fetched log = [] →
      Asking.Ensures (Fair m fxId) post log (f (some (.str l)))) :
    Asking.Ensures (Fair m fxId) post [] (fxNameFor fxId >>= f) := by
  intro name hfair
  obtain ⟨⟨l, hl, rfl⟩, -⟩ := hfair rfl
  exact hf l hl _ (named_fxName nofun) rfl

/-- A reply of the right length has a value. -/
theorem ensures_fetchValue {address : List Nat} {width : Nat} (hw : 0 < width)
    {f : Option Nat → Reading α}
    (hf : ∀ reply raw, Asking.Ensures (Fair m fxId) post
      (log ++ [⟨.fetch address [0, 0, 0, width], reply⟩]) (f raw)) :
    Asking.Ensures (Fair m fxId) post log (fetchValue address width >>= f) := by
  intro reply hfair
  have hvalue : ∃ raw, BlockReader.fetchValue (fun _ _ => reply) (some address) width = .ok raw := by
    cases reply with
    | none => exact ⟨none, rfl⟩
    | some data =>
      have hlen : data.length = width := hfair width data rfl rfl
      cases data with
      | nil => exact absurd hlen.symm (by simpa using hw.ne')
      | cons byte rest =>
        simp only [BlockReader.fetchValue]
        split
        · exact ⟨_, rfl⟩
        · exact ⟨_, rfl⟩
  obtain ⟨raw, hraw⟩ := hvalue
  change Asking.Ensures _ _ _ ((liftM (BlockReader.fetchValue (fun _ _ => reply) (some address) width) : Reading _) >>= f)
  rw [hraw]
  exact hf reply raw

end

/-- A slider of effect `l` came out, and the addresses read for it are the effect's too. -/
def Resolved (m : AddressMap) (fxId : StrOrInt) (l : String) (param : Option String)
    (before after : List (Sigma Answer)) : Except PyErr (Option SliderValue) → Prop
  | .error _ => False
  | .ok slider => Named fxId l after ∧ SliderOf m fxId l param slider ∧
      (fetched after).map some =
        (fetched before).map some ++ [param].reduceOption.map (effectAddress m fxId l)

/-- One slider, once the name was read. -/
theorem ensures_resolve {m : AddressMap} {b : TopBlock} (hb : HasBlock m b) (hfx : b.fxType = "fx")
    {l : String} (hl : Selectable m l) {param : Option String}
    (hparam : ∀ setting, param = some setting → EffectSlider l setting) {log : List (Sigma Answer)}
    (hlog : Named b.fxId l log) :
    Asking.Ensures (Fair m b.fxId) (Resolved m b.fxId l param log) log (resolve m b.fxId param) := by
  cases param with
  | none => exact ⟨hlog, nofun, by simp [List.reduceOption]⟩
  | some setting =>
    obtain ⟨suffix, hsuffix, slot, htable, hrange⟩ := hl.exists_slot hb hfx (hparam setting rfl)
    have hts : AddressMap.tableSuffix (.str l) = .ok suffix := by simp [AddressMap.tableSuffix, hsuffix]
    have haddress := hb.addressForBlock_effect hsuffix hfx slot
    have hwidth := hb.blockSettingBytes_effect hsuffix hfx slot
    have hvalueRange : m.valueRange (AddressMap.fxStartSection b.fxId suffix)
        ("fx" ++ b.fxId.toStr ++ suffix) setting = .ok (some slot.param.valueRange) := by
      rw [hb.1.valueRange_eq, slot.valueRange_eq]
    have hpos : 0 < slot.param.bytes := params_bytes _ slot.mem_table _ slot.mem_param
    simp only [resolve, valueRange, readFx, bind_assoc]
    refine ensures_fxNameFor hlog fun log1 h1 hf1 => ?_
    simp only [subscript_some, Asking.ok_bind, hts, hvalueRange]
    refine ensures_fxNameFor h1 fun log2 h2 hf2 => ?_
    simp only [haddress, hwidth, Asking.ok_bind, bind_assoc]
    refine ensures_fetchValue hpos fun reply raw => ?_
    have hnamed := h2.fetch slot.address [0, 0, 0, slot.param.bytes] reply
    have hfetched : (fetched (log2 ++ [⟨.fetch slot.address [0, 0, 0, slot.param.bytes], reply⟩])).map some =
        (fetched log).map some ++ [some setting].reduceOption.map (effectAddress m b.fxId l) := by
      simp [fetched_fetch, hf2, hf1, List.reduceOption, effectAddress, haddress, Except.toOption]
    cases raw with
    | none => exact ⟨hnamed, nofun, hfetched⟩
    | some raw =>
      obtain ⟨v, hv⟩ := slider_ok (some (presented slot.param raw)) setting hrange
      simp only [subscript_some, Asking.ok_bind, hts, htable, readLabel_eq slot.param_lookup, pure_bind, hv]
      obtain ⟨hlabel, rest, hends⟩ := BlockSnapshot.slider_eq_ok hv
      refine ⟨hnamed, fun v' heq => ?_, hfetched⟩
      obtain rfl : v = v' := Option.some.inj heq
      refine ⟨congrArg some hlabel.symm, rest, ?_⟩
      simp [effectRange, hts, hlabel, hvalueRange, hends, Except.toOption]

theorem policy_sliders {l setting : String}
    (h : (policy (some (.str l))).1 = some setting ∨ (policy (some (.str l))).2 = some setting) :
    EffectSlider l setting := by
  cases hl : BlockSnapshot.fxNameSliderParams.lookup l with
  | none => simp [policy, hl] at h
  | some sliders => exact ⟨sliders, hl, by simpa [policy, hl] using h⟩

/-- The call returned two sliders of the effect it read. -/
def Returned (m : AddressMap) (fxId : StrOrInt) (log : List (Sigma Answer)) :
    Except PyErr (Option SliderValue × Option SliderValue) → Prop
  | .error _ => False
  | .ok sliders => ∃ l, Named fxId l log ∧ OneEffect m fxId l (fetched log) sliders

theorem ensures_slidersFor {m : AddressMap} {b : TopBlock} (hb : HasBlock m b) (hfx : b.fxType = "fx") :
    Asking.Ensures (Fair m b.fxId) (Returned m b.fxId) [] (slidersFor m b.fxId) := by
  refine ensures_first fun l hl log hlog hnone => ?_
  have hfirst := ensures_resolve hb hfx hl (fun _ h => policy_sliders (Or.inl h)) hlog
  refine Asking.ensures_bind hfirst (fun _ _ h => h.elim) fun log1 slider1 h1 => ?_
  obtain ⟨hlog1, hslider1, hfetched1⟩ := h1
  have hsecond := ensures_resolve hb hfx hl (fun _ h => policy_sliders (Or.inr h)) hlog1
  refine Asking.ensures_bind hsecond (fun _ _ h => h.elim) fun log2 slider2 h2 => ?_
  obtain ⟨hlog2, hslider2, hfetched2⟩ := h2
  refine ⟨l, hlog2, hslider1, hslider2, ?_⟩
  rw [hfetched2, hfetched1, hnone, List.map_nil, List.nil_append, ← List.map_append,
    ← List.reduceOption_append]
  rfl

/-! ## How many there are -/

section

variable (m : AddressMap) (fxId : StrOrInt)

theorem within_fxNameFor : Asking.Within 1 (fxNameFor fxId) := fun name => Asking.within_ret 0 name

theorem within_fetchValue (offset : List Nat) (width : Nat) :
    Asking.Within 1 (fetchValue offset width) := fun _ => Asking.within_ret 0 _

theorem within_valueRange (option : String) : Asking.Within 1 (valueRange m fxId option) := by
  refine Asking.within_bind 1 0 (within_fxNameFor fxId) fun name => ?_
  refine Asking.within_lift_bind _ fun name => Asking.within_lift_bind _ fun suffix => ?_
  exact Asking.within_ret 0 _

theorem within_readFx (setting : String) : Asking.Within 2 (readFx m fxId setting) := by
  refine Asking.within_bind 1 1 (within_fxNameFor fxId) fun fxName => ?_
  refine Asking.within_lift_bind _ fun offset => ?_
  cases offset with
  | none => exact Asking.within_ret 1 _
  | some offset =>
    refine Asking.within_lift_bind _ fun width => ?_
    refine Asking.within_bind 1 0 (within_fetchValue offset width) fun raw => ?_
    cases raw with
    | none => exact Asking.within_ret 0 _
    | some raw =>
      refine Asking.within_lift_bind _ fun name => Asking.within_lift_bind _ fun suffix => ?_
      refine Asking.within_lift_bind _ fun table => Asking.within_lift_bind _ fun label => ?_
      exact Asking.within_ret 0 _

theorem within_resolve (param : Option String) : Asking.Within 3 (resolve m fxId param) := by
  cases param with
  | none => exact Asking.within_ret 3 _
  | some option =>
    refine Asking.within_bind 1 2 (within_valueRange m fxId option) fun range => ?_
    refine Asking.within_bind 2 0 (within_readFx m fxId option) fun value => ?_
    split
    · exact Asking.within_ret 0 _
    · exact Asking.within_lift_bind _ fun slider => Asking.within_ret 0 _

/-- One reading for the policy, and for each slider two of the name and one of the unit. -/
theorem within_slidersFor : Asking.Within 7 (slidersFor m fxId) := by
  refine Asking.within_bind 1 6 (within_fxNameFor fxId) fun name => ?_
  refine Asking.within_bind 3 3 (within_resolve m fxId (policy name).1) fun slider1 => ?_
  refine Asking.within_bind 3 0 (within_resolve m fxId (policy name).2) fun slider2 => ?_
  exact Asking.within_ret 0 _

end

/-! ## Runs -/

/-- The others change the block's name by a frame at its TYPE only. -/
theorem fxName_act (w : Shared) (e : Other) (fxId : StrOrInt) :
    (w.act e).state.fxName fxId = w.state.fxName fxId ∨
      ∃ now d, e = .apply now d ∧ d.fxType = some "fx" ∧ d.valueName = "TYPE" ∧
        PatchState.idStr d.fxId = fxId.toStr ∧
        (w.act e).state.fxName fxId = .ok (d.strValue.map .str) := by
  cases e with
  | device fetch => exact Or.inl rfl
  | apply now d =>
    cases ha : w.state.apply now d with
    | error err => exact Or.inl (by simp only [Shared.act, ha])
    | ok r =>
      obtain ⟨s', r⟩ := r
      have hact : w.act (.apply now d) = { w with state := s' } := by simp only [Shared.act, ha]
      rw [hact]
      rcases PatchState.fxName_apply ha fxId with hsame | ⟨hfx, htype, hid, hnew⟩
      · exact Or.inl hsame
      · exact Or.inr ⟨now, d, rfl, hfx, htype, hid, hnew⟩

theorem sound_act {m : AddressMap} {fxId : StrOrInt} {w : Shared} (h : Sound m fxId w) {e : Other}
    (he : Offered m fxId (.other e)) : Sound m fxId (w.act e) := by
  have hexact : Exact (w.act e).fetch := by
    cases e with
    | device fetch => exact he
    | apply now d => exact h.exact
  refine ⟨?_, hexact⟩
  rcases fxName_act w e fxId with hsame | ⟨now, d, rfl, hfx, htype, hid, hnew⟩
  · rw [hsame]
    exact h.name
  · obtain ⟨l, hl, hstr⟩ := he hfx htype hid
    exact ⟨l, hl, by rw [hnew, hstr]; rfl⟩

theorem allowed_of_steady {m : AddressMap} {fxId : StrOrInt} {c : Call} (h : Sound m fxId c.world)
    {a : Asking.Move Other} (ha : Steady fxId c a) : Asking.Allowed Shared.answer (Fair m fxId) c a := by
  cases a with
  | other e => trivial
  | own =>
    intro q hq
    cases q with
    | fxName fxId' =>
      rintro rfl
      exact ⟨h.name, ha hq⟩
    | fetch address length =>
      rintro width data rfl hreply
      exact h.exact address width data hreply

/-- What holds all along: the world is as expected, and the call is on its way to return. -/
structure OnItsWay (m : AddressMap) (fxId : StrOrInt) (c : Call) : Prop where
  sound : Sound m fxId c.world
  ends : Asking.Ensures (Fair m fxId) (Returned m fxId) c.log c.prog

theorem OnItsWay.step {m : AddressMap} {fxId : StrOrInt} {c : Call} (h : OnItsWay m fxId c)
    {a : Asking.Move Other} (ha : Offered m fxId a ∧ Steady fxId c a) : OnItsWay m fxId (step c a) := by
  refine ⟨?_, h.ends.step (allowed_of_steady h.sound ha.2)⟩
  cases a with
  | other e => exact sound_act h.sound ha.1
  | own =>
    have hworld : (Live.step c .own).world = c.world := Asking.step_own_world
    exact hworld ▸ h.sound

/-- A name in the log was recorded for the block at a moment of the call. -/
theorem recordedDuring_of_named {m : AddressMap} {fxId : StrOrInt} {w : Shared}
    {acts : List (Asking.Move Other)} {l : String}
    (h : Named fxId l (run (call m fxId w) acts).log) : RecordedDuring fxId (call m fxId w) acts l := by
  rcases Asking.asked_during h.read with hmem | ⟨pre, post, rfl, hnext, hname⟩
  · cases hmem
  · exact ⟨pre, _, rfl, Asking.result?_of_next? hnext, hname⟩

/-- **A call sees one effect**: in every run in which each reading of the block's name is what the
first one was, the call has ended after seven steps of its own, raises nothing, and returns two
sliders whose labels, ranges and addresses are those of one effect, which was recorded for the block
while the call was under way. -/
theorem one_effect_run {m : AddressMap} {b : TopBlock} (hb : HasBlock m b) (hfx : b.fxType = "fx")
    {w : Shared} (hw : Sound m b.fxId w) {acts : List (Asking.Move Other)}
    (hoffered : ∀ a ∈ acts, Offered m b.fxId a)
    (hsteady : Runs.Guarded step (Steady b.fxId) (call m b.fxId w) acts) :
    let c := run (call m b.fxId w) acts
    (7 ≤ acts.countP Asking.Move.isOwn → c.prog.result? ≠ none) ∧
      ∀ r, c.prog.result? = some r → ∃ sliders l, r = .ok sliders ∧
        OneEffect m b.fxId l (fetched c.log) sliders ∧
        RecordedDuring b.fxId (call m b.fxId w) acts l := by
  intro c
  have hstart : OnItsWay m b.fxId (call m b.fxId w) := ⟨hw, ensures_slidersFor hb hfx⟩
  have hway : OnItsWay m b.fxId c :=
    Runs.invariant hstart (fun _ _ ha h => h.step ha) (Runs.guarded_and hoffered hsteady)
  refine ⟨fun hsteps => ?_, fun r hr => ?_⟩
  · have hwithin : Asking.Within (acts.countP Asking.Move.isOwn) (call m b.fxId w).prog :=
      (within_slidersFor m b.fxId).mono hsteps
    exact Asking.ended_of_within hwithin
  · have hreturned := hway.ends.result hr
    cases r with
    | error e => exact hreturned.elim
    | ok sliders =>
      obtain ⟨l, hnamed, hone⟩ := hreturned
      exact ⟨sliders, l, rfl, hone, recordedDuring_of_named hnamed⟩

/-- A frame at the TYPE of the block repeats effect `l`; other frames are free. -/
def Unchanging (fxId : StrOrInt) (l : String) : Asking.Move Other → Prop
  | .other (.apply _ d) => d.fxType = some "fx" → d.valueName = "TYPE" →
      PatchState.idStr d.fxId = fxId.toStr → d.strValue = some l
  | _ => True

/-- A question answered now adds at most the name recorded now. -/
theorem mem_namesRead_answer {fxId : StrOrInt} {log : List (Sigma Answer)} {w : Shared} {q : Question}
    {name : Except PyErr (Option StrOrInt)} (h : name ∈ namesRead fxId (log ++ [⟨q, w.answer q⟩])) :
    name ∈ namesRead fxId log ∨ name = w.state.fxName fxId := by
  simp only [namesRead, List.filterMap_append, List.mem_append] at h
  rcases h with h | h
  · exact Or.inl h
  · right
    cases q with
    | fetch address length => cases h
    | fxName fxId' =>
      by_cases hid : fxId' = fxId
      · subst hid
        simpa [Shared.answer, oracle] using h
      · simp [hid] at h

/-- Frames that repeat the block's effect do no harm. -/
theorem steady_of_unchanging {m : AddressMap} {fxId : StrOrInt} {w : Shared} {l : String}
    (hname : w.state.fxName fxId = .ok (some (.str l))) {acts : List (Asking.Move Other)}
    (hacts : ∀ a ∈ acts, Unchanging fxId l a) :
    Runs.Guarded step (Steady fxId) (call m fxId w) acts := by
  let I (c : Call) : Prop := c.world.state.fxName fxId = .ok (some (.str l)) ∧
    ∀ name ∈ namesRead fxId c.log, name = .ok (some (.str l))
  have h0 : I (call m fxId w) := ⟨hname, nofun⟩
  refine Runs.guarded_of_invariant h0 hacts fun c a ha hI => ⟨?_, ?_⟩
  · cases a with
    | own => exact fun _ name hread => (hI.2 name hread).trans hI.1.symm
    | other e => trivial
  · obtain ⟨world, prog, log⟩ := c
    obtain ⟨hnow, hread⟩ := hI
    cases a with
    | own =>
      cases prog with
      | ret r => exact ⟨hnow, hread⟩
      | ask q k =>
        refine ⟨hnow, fun name hmem => ?_⟩
        rcases mem_namesRead_answer hmem with hmem | rfl
        · exact hread name hmem
        · exact hnow
    | other e =>
      refine ⟨?_, hread⟩
      rcases fxName_act world e fxId with hsame | ⟨now, d, rfl, hfx, htype, hid, hnew⟩
      · exact hsame.trans hnow
      · exact hnew.trans (by rw [ha hfx htype hid]; rfl)

/-! ## Two runs -/

/-- The compressor in fx 1, and a unit that answers 0 to every read. -/
def compLoaded : Shared := ⟨fx1Comp.state.setFxName (.int 1) (some (.str "COMPRESSOR")), zeros⟩

/-- What a frame at the TYPE of fx 1 decodes to. -/
def fx1Chosen (l : String) (raw : Nat) : DecodedValue :=
  ⟨AddressMap.patchSection, "Patch", "fx1", "PatchFx", "TYPE", some l, raw, some "fx", some "1", none, none⟩

theorem compLoaded_sound : Sound addressMap (.int 1) compLoaded :=
  ⟨⟨"COMPRESSOR", (selectable_iff (Or.inl rfl)).2 (by decide), by decide⟩, exact_zeros⟩

theorem offered_fx1Chosen {l : String} (hl : l ∈ fxTypeLabels ∧ l ∉ bassVariants ∧ l ≠ "MASTERING FX")
    (raw : Nat) : Offered addressMap (.int 1) (.other (.apply 1 (fx1Chosen l raw))) :=
  fun _ _ _ => ⟨l, (selectable_iff (Or.inl rfl)).2 hl, rfl⟩

/-- The compressor is announced once more after the policy was read. -/
def compAgain : List (Asking.Move Other) :=
  [.own, .other (.apply 1 (fx1Chosen "COMPRESSOR" 5)), .own, .own, .own, .own, .own, .own]

theorem one_effect_comp :
    let c := run (call addressMap (.int 1) compLoaded) compAgain
    (7 ≤ compAgain.countP Asking.Move.isOwn → c.prog.result? ≠ none) ∧
      ∀ r, c.prog.result? = some r → ∃ sliders l, r = .ok sliders ∧
        OneEffect addressMap (.int 1) l (fetched c.log) sliders ∧
        RecordedDuring (.int 1) (call addressMap (.int 1) compLoaded) compAgain l := by
  have hb : HasBlock addressMap ⟨"fx", .int 1, 0, 0x23, "1"⟩ := hasBlock_shipped (by decide)
  have hname : compLoaded.state.fxName (.int 1) = .ok (some (.str "COMPRESSOR")) := by decide
  have hoffered : ∀ a ∈ compAgain, Offered addressMap (.int 1) a := by
    intro a ha
    simp only [compAgain, List.mem_cons, List.not_mem_nil, or_false] at ha
    rcases ha with rfl | rfl | rfl | rfl | rfl | rfl | rfl | rfl
    case inr.inl => exact offered_fx1Chosen (by decide) 5
    all_goals trivial
  have hunchanging : ∀ a ∈ compAgain, Unchanging (.int 1) "COMPRESSOR" a := by
    intro a ha
    simp only [compAgain, List.mem_cons, List.not_mem_nil, or_false] at ha
    rcases ha with rfl | rfl | rfl | rfl | rfl | rfl | rfl | rfl
    case inr.inl => exact fun _ _ _ => rfl
    all_goals trivial
  exact one_effect_run hb rfl compLoaded_sound hoffered (steady_of_unchanging hname hunchanging)

/-- After the policy was read for the compressor, the chorus is chosen, which has no LEVEL. -/
theorem mixed_effects_raise :
    addressMap.decode [0x10, 0, 0x23, 1] (.list [3]) = .ok (some (fx1Chosen "CHORUS" 3)) ∧
      Sound addressMap (.int 1) compLoaded ∧
      Offered addressMap (.int 1) (.other (.apply 1 (fx1Chosen "CHORUS" 3))) ∧
      (run (call addressMap (.int 1) compLoaded)
        [.own, .other (.apply 1 (fx1Chosen "CHORUS" 3)), .own]).prog.result? = some (.error .keyError) := by
  refine ⟨by decide, compLoaded_sound, offered_fx1Chosen (by decide) 3, ?_⟩
  decide

end Pygt1000.Live
