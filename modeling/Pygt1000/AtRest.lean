import Pygt1000.Mirror

/-!
# What is recorded when nothing is under way

The copies that `Mirror.lean` speaks of follow what the unit holds, one by one. Here they are put
together: once no frame is under way and the worker is idle, the recorded blocks are those a scan of
the unit would give (`recorded_is_scan`). A block of a type that always shows the same parameters is
made up of settings that are recorded and of names and ranges that no frame changes (`eq_of_shows`).

Undisturbed, the steps of the worker are those of `refreshState` (`alone_refreshFrom`).
-/

namespace Pygt1000.Mirror

open Specs Feed Live Readings

/-! ## What a scan would give -/

section

variable {m : AddressMap} {memory : List Nat → List Nat} {b : TopBlock} {setting : String} {e : Param}
  {s s' : PatchState} {fx fx' : FxBlock}

theorem told_oracle (hmemory : Fitting m memory) (s : PatchState) (log : List (Sigma Answer)) (q : Question) :
    Told m log q (oracle s (World.reading memory) q) := by
  cases q with
  | fxName fxId => trivial
  | fetch address length => exact ⟨memory, hmemory, rfl⟩

/-- The block a scan reads shows what the unit holds. -/
theorem snapshot_shows (hb : Switched m b) (hmemory : Fitting m memory)
    (hsnap : BlockSnapshot.snapshot m (World.reading memory) s b.fxType b.fxId true = .ok (s', fx)) :
    Framed b fx ∧ ∀ setting e, Shown m b setting e →
      recordedValue setting fx = some (shownValue setting e (memory (settingAddress b e))) := by
  obtain ⟨state, name, slider1, slider2, hstate, hname, rfl, hsliders, rfl⟩ := BlockSnapshot.snapshot_eq_ok hsnap
  have hheld {log : List (Sigma Answer)} (s : PatchState)
      (hlog : ∀ x ∈ log, x.2 = oracle s (World.reading memory) x.1) {setting : String} {e : Param}
      (hs : Shown m b setting e) {data : List Nat} (hmem : reply b e data ∈ log) :
      data = memory (settingAddress b e) := by
    have hanswer : some data = World.reading memory (settingAddress b e) [0, 0, 0, e.bytes] := hlog _ hmem
    rw [reading_eq hs hmemory, Option.some.injEq] at hanswer
    exact hanswer
  have hensures : Asking.Ensures (Told m) (OnOk (LabelsRead m b)) [] (labels m b.fxType b.fxId) := ensures_labels hb
  obtain ⟨log, hlog, hlabels⟩ := hensures.answeredBy (o := oracle s (World.reading memory))
    fun log q => told_oracle hmemory s log q
  rw [labels_answeredBy, hstate, ok_bind, hname, ok_bind, List.nil_append] at hlabels
  have hread (hfx : b.fxType ≠ "fx") (heq : b.fxType ≠ "eq") : ∃ log, (∀ x ∈ log, x.2 =
      oracle (BlockSnapshot.named s b.fxType b.fxId name) (World.reading memory) x.1) ∧
        SlidersRead m b log (slider1, slider2) := by
    have hensures : Asking.Ensures (Told m) (OnOk (SlidersRead m b)) [] (slidersFor m b.fxType b.fxId name) :=
      ensures_slidersFor hb hfx heq name
    obtain ⟨log, hlog, h⟩ := hensures.answeredBy
      (o := oracle (BlockSnapshot.named s b.fxType b.fxId name) (World.reading memory))
      fun log q => told_oracle hmemory _ log q
    rw [Readings.slidersFor_answeredBy, hsliders, List.nil_append] at h
    exact ⟨log, hlog, h⟩
  refine ⟨⟨fun hfx heq => ?_, fun hfx heq => ?_, hlabels.noType⟩, fun setting e hs => ?_⟩
  · obtain ⟨_, -, h⟩ := hread hfx heq
    exact h.first
  · obtain ⟨_, -, h⟩ := hread hfx heq
    exact h.second
  · by_cases hlabel : ByLabel setting
    · rcases hlabel with rfl | rfl
      · obtain ⟨data, hmem, hvalue⟩ := hlabels.state e hs
        rw [← hheld s hlog hs hmem, ← hvalue]
        rfl
      · obtain ⟨data, hmem, hvalue⟩ := hlabels.name e hs
        rw [← hheld s hlog hs hmem, ← hvalue]
        rfl
    · obtain ⟨hfx, heq⟩ := (hs.recorded.resolve_left hlabel).ne
      obtain ⟨log', hlog', h⟩ := hread hfx heq
      obtain ⟨data, hmem, hvalue⟩ := h.value setting e hs hlabel
      rw [← hheld _ hlog' hs hmem, ← hvalue, recordedValue_slider hlabel]

theorem snapshotFrom_mem {fetch : Fetch} {t : String} {n : Nat} (hc : m.fxBlockCount t = .ok n) {is : List Nat}
    {out : List FxBlock} (h : BlockSnapshot.snapshotFrom m fetch t s is = .ok (s', out)) :
    ∀ fx ∈ out, ∃ s0 s1, BlockSnapshot.snapshot m fetch s0 t fx.fxId true = .ok (s1, fx) := by
  induction is generalizing s out with
  | nil =>
    cases h
    exact fun fx hfx => absurd hfx List.not_mem_nil
  | cons i is ih =>
    obtain ⟨s1, fx, rest, hfx, hrest, rfl⟩ := BlockSnapshot.snapshotFrom_cons hc h
    refine List.forall_mem_cons.2 ⟨⟨s, s1, ?_⟩, ih hrest⟩
    obtain ⟨_, _, _, _, -, -, -, -, rfl⟩ := BlockSnapshot.snapshot_eq_ok hfx
    exact hfx

/-- What is recorded of the block is what the unit holds. -/
def Shows (m : AddressMap) (memory : List Nat → List Nat) (b : TopBlock) (fx : FxBlock) : Prop :=
  ∀ setting e value, Shown m b setting e → recordedValue setting fx = some value →
    value = shownValue setting e (memory (settingAddress b e))

/-- A label is read as the unit has it. -/
theorem read_held (hs : Shown m b setting e) (hlabel : ByLabel setting) (hmemory : Fitting m memory) :
    BlockReader.read m (World.reading memory) b.fxType b.fxId setting false =
      .ok (shownValue setting e (memory (settingAddress b e))) := by
  obtain ⟨l, hl⟩ := Option.isSome_iff_exists.1 ((hmemory b setting e hs).label hlabel)
  have hanswer : answer (World.reading memory) [0x10, b.second, b.third, e.offsetByte 1] e.bytes =
      some (rawValue e (memory (settingAddress b e))) := by
    have hreply := reading_eq hs hmemory
    rw [settingAddress] at hreply
    rw [answer, hreply]
    rfl
  rw [hs.block.read_label (World.exact_reading memory) hs.param, hanswer]
  simp [presented, shownValue, hlabel, hl]

/-- A slider that bears the name of a parameter of the block is one of a setting that is recorded. -/
theorem slider_shown (hb : Switched m b) {param : Option String} {v : SliderValue}
    (hparam : ∀ setting, param = some setting → SliderSetting b.fxType setting)
    (hframe : sliderFrame (some v) = paramFrame b param) :
    param = some v.label ∧ ¬ ByLabel v.label ∧ ∃ e, Shown m b v.label e := by
  have hlabel : param = some v.label := param_of_frame hframe.symm
  have hsetting := hparam v.label hlabel
  subst hlabel
  obtain ⟨e, he, -⟩ := Option.bind_eq_some_iff.1 hframe.symm
  exact ⟨rfl, hsetting.not_byLabel, e, hb, he, Or.inr hsetting⟩

/-- What the first slider shows is recorded of a setting. -/
theorem Framed.recorded_first (h : Framed b fx) (hb : Switched m b) (hne : b.fxType ≠ "fx" ∧ b.fxType ≠ "eq")
    {v : SliderValue} (hv : fx.slider1 = some v) :
    (BlockSnapshot.nonFxSliderParams.lookup b.fxType).bind (·.1) = some v.label ∧
      ∃ e, Shown m b v.label e ∧ recordedValue v.label fx = some v.value := by
  have hframe := h.first hne.1 hne.2
  rw [hv] at hframe
  obtain ⟨hp, hnot, e, hs⟩ := slider_shown hb (fun _ => sliderSetting_first) hframe
  exact ⟨hp, e, hs, by rw [recordedValue_slider hnot, hv, sliderValue_first]⟩

theorem sliders_distinct : ∀ x ∈ BlockSnapshot.nonFxSliderParams, ∀ setting, x.2.1 = some setting →
    x.2.2 ≠ some setting := by
  have hdistinct : ∀ x ∈ BlockSnapshot.nonFxSliderParams, x.2.1 ≠ x.2.2 := by decide
  exact fun x hx setting h1 h2 => hdistinct x hx (h1.trans h2.symm)

/-- What the second slider shows is recorded of another one. -/
theorem Framed.recorded_second (h : Framed b fx) (hb : Switched m b) (hne : b.fxType ≠ "fx" ∧ b.fxType ≠ "eq")
    {v : SliderValue} (hv : fx.slider2 = some v) :
    ∃ e, Shown m b v.label e ∧ recordedValue v.label fx = some v.value := by
  have hframe := h.second hne.1 hne.2
  rw [hv] at hframe
  obtain ⟨hp, hnot, e, hs⟩ := slider_shown hb (fun _ => sliderSetting_second) hframe
  obtain ⟨sliders, hl, hp⟩ := Option.bind_eq_some_iff.1 hp
  have hother (v1 : SliderValue) (hv1 : fx.slider1 = some v1) : v1.label ≠ v.label := by
    intro hsame
    obtain ⟨hp1, -⟩ := h.recorded_first hb hne hv1
    rw [hl, Option.bind_some, hsame] at hp1
    exact sliders_distinct _ (mem_of_lookup hl) v.label hp1 hp
  exact ⟨e, hs, by rw [recordedValue_slider hnot, hv, sliderValue_second hother]⟩

theorem slider_eq {slider slider' : Option SliderValue} (hframe : sliderFrame slider = sliderFrame slider')
    (hvalue : ∀ v v', slider = some v → slider' = some v' → v.label = v'.label → v.value = v'.value) :
    slider = slider' := by
  cases slider with
  | none =>
    cases slider' with
    | none => rfl
    | some v' => cases hframe
  | some v =>
    cases slider' with
    | none => cases hframe
    | some v' =>
      obtain ⟨value, label, lo, hi⟩ := v
      obtain ⟨value', label', lo', hi'⟩ := v'
      obtain ⟨rfl, rfl, rfl⟩ : label = label' ∧ lo = lo' ∧ hi = hi' := by simpa [sliderFrame] using hframe
      obtain rfl : value = value' := hvalue _ _ rfl rfl rfl
      rfl

theorem eq_of_ids {xs ys : List FxBlock} (hids : xs.map (·.fxId) = ys.map (·.fxId))
    (heq : ∀ x ∈ xs, ∀ y ∈ ys, x.fxId = y.fxId → x = y) : xs = ys := by
  induction xs generalizing ys with
  | nil => exact (List.map_eq_nil_iff.1 hids.symm).symm
  | cons x xs ih =>
    cases ys with
    | nil => cases hids
    | cons y ys =>
      obtain ⟨hhead, htail⟩ := List.cons.inj hids
      rw [heq x List.mem_cons_self y List.mem_cons_self hhead]
      exact congrArg (y :: ·) (ih htail fun x hx y hy =>
        heq x (List.mem_cons_of_mem _ hx) y (List.mem_cons_of_mem _ hy))

/-- Two records of a block that show what the unit holds are the same, sliders of `fx` and `eq` apart. -/
theorem eq_of_shows (hb : Switched m b) (hne : b.fxType ≠ "fx" ∧ b.fxType ≠ "eq") (hid : fx.fxId = fx'.fxId)
    (hframed : Framed b fx) (hframed' : Framed b fx') (hshows : Shows m memory b fx)
    (hshows' : Shows m memory b fx') : fx = fx' := by
  have hmem := TopBlock.mem_valueTables hb.block.mem
  have hsame {setting : String} {e : Param} (hs : Shown m b setting e) {value value' : Option StrOrInt}
      (hv : recordedValue setting fx = some value) (hv' : recordedValue setting fx' = some value') :
      value = value' :=
    (hshows setting e value hs hv).trans (hshows' setting e value' hs hv').symm
  have hstate : fx.state = fx'.state := hsame hb.shown_sw rfl rfl
  have hname : fx.name = fx'.name := by
    by_cases hno : b.fxType = "ns" ∨ b.fxType = "delay"
    · rw [hframed.name hno, hframed'.name hno]
    · obtain ⟨e, he⟩ := hb.shown_type hno
      exact hsame he (recordedValue_type fx) (recordedValue_type fx')
  have hslider1 : fx.slider1 = fx'.slider1 := by
    have hframe := (hframed.first hne.1 hne.2).trans (hframed'.first hne.1 hne.2).symm
    refine slider_eq hframe fun v v' hv hv' hl => ?_
    obtain ⟨-, e, hs, hvalue⟩ := hframed.recorded_first hb hne hv
    obtain ⟨-, -, -, hvalue'⟩ := hframed'.recorded_first hb hne hv'
    exact hsame hs hvalue (hl ▸ hvalue')
  have hslider2 : fx.slider2 = fx'.slider2 := by
    have hframe := (hframed.second hne.1 hne.2).trans (hframed'.second hne.1 hne.2).symm
    refine slider_eq hframe fun v v' hv hv' hl => ?_
    obtain ⟨e, hs, hvalue⟩ := hframed.recorded_second hb hne hv
    obtain ⟨-, -, hvalue'⟩ := hframed'.recorded_second hb hne hv'
    exact hsame hs hvalue (hl ▸ hvalue')
  obtain ⟨fxId, state, name, slider1, slider2⟩ := fx
  obtain ⟨fxId', state', name', slider1', slider2'⟩ := fx'
  simp only at hid hstate hname hslider1 hslider2
  rw [hid, hstate, hname, hslider1, hslider2]

end

/-- Nothing is under way. -/
structure Quiet (h : Host) : Prop where
  inFlight : h.inFlight = []
  idle : h.worker = .idle

/-- What is recorded is what a scan would record now: the labels of every block but the preamps, the
names of the effects, and of the types that always show the same parameters the whole blocks. -/
structure InSync (m : AddressMap) (h : Host) : Prop where
  labels : ∀ t ∈ fxTypes, t ≠ "preamp" → ∃ n blocks, m.fxBlockCount t = .ok n ∧
    h.g.state.blocks.lookup t = some blocks ∧ blocks.length = n ∧ ∀ fx ∈ blocks,
      BlockReader.read m (World.reading h.memory) t fx.fxId "SW" false = .ok fx.state ∧
      BlockSnapshot.blockName m (World.reading h.memory) t fx.fxId = .ok fx.name
  effects : ∀ blocks, h.g.state.blocks.lookup "fx" = some blocks → ∀ fx ∈ blocks, ∀ name,
    h.g.state.fxName fx.fxId = .ok name → name = fx.name
  scans : ∀ t ∈ fxTypes, t ≠ "preamp" → t ≠ "fx" → t ≠ "eq" → ∃ blocks,
    h.g.state.blocks.lookup t = some blocks ∧
      ∀ s, ∃ s', BlockSnapshot.snapshotAll m (World.reading h.memory) s t = .ok (s', blocks)

section

variable {m : AddressMap} {h : Host} {b : TopBlock} {t : String} {blocks : List FxBlock} {fx : FxBlock}

theorem Inv.recorded (hi : Inv m h) (hq : Quiet h) (ht : t ∈ fxTypes) :
    ∃ blocks, h.g.state.blocks.lookup t = some blocks := by
  have hkey := hi.scanned_all hq.idle (by simp) rfl ht
  exact Option.isSome_iff_exists.1 (AList.lookup_isSome.2 (AList.mem_keys.2 hkey))

/-- With nothing under way, what is known is what the unit holds. -/
theorem Inv.known_held (hi : Inv m h) (hq : Quiet h) {setting : String} {e : Param} (hs : Shown m b setting e)
    {value : Option StrOrInt} (hvalue : KnownOf h b setting value) : value = heldOf h b setting e := by
  have hfollows := (hi.follows b setting e hs).known value hvalue
  rw [hq.inFlight] at hfollows
  exact follows_nil.1 hfollows

/-- Every recorded block is one of the unit's, and shows it. -/
theorem Inv.shows (hm : Loaded m) (hi : Inv m h) (hq : Quiet h) (hp : t ≠ "preamp")
    (hl : h.g.state.blocks.lookup t = some blocks) (hfx : fx ∈ blocks) :
    ∃ b, Switched m b ∧ b.fxType = t ∧ b.fxId = fx.fxId ∧ Framed b fx ∧ Shows m h.memory b fx := by
  have hcomplete := hi.state.complete t blocks hl
  obtain ⟨b, hb, rfl, hfxId⟩ := hcomplete.hasBlock hm hfx
  have hsw : Switched m b := ⟨hb, hp⟩
  have hframed := hi.state.framed _ _ hl fx hfx b hsw rfl (by rw [hfxId])
  refine ⟨b, hsw, rfl, hfxId, hframed, fun setting e value hs hv => ?_⟩
  refine hi.known_held hq hs (Or.inl ?_)
  rw [recordedOf, PatchState.block, hl, Option.bind_some, hfxId, hcomplete.find?_eq hfx, Option.bind_some, hv]

theorem Inv.labels (hm : Loaded m) (hi : Inv m h) (hq : Quiet h) (hp : t ≠ "preamp")
    (hl : h.g.state.blocks.lookup t = some blocks) (hfx : fx ∈ blocks) :
    BlockReader.read m (World.reading h.memory) t fx.fxId "SW" false = .ok fx.state ∧
      BlockSnapshot.blockName m (World.reading h.memory) t fx.fxId = .ok fx.name := by
  obtain ⟨b, hb, rfl, hfxId, hframed, hshows⟩ := hi.shows hm hq hp hl hfx
  have hmem := TopBlock.mem_valueTables hb.block.mem
  rw [← hfxId]
  constructor
  · rw [read_held hb.shown_sw (Or.inl rfl) hi.fitting, hshows "SW" _ _ hb.shown_sw rfl]
  · by_cases hno : b.fxType = "ns" ∨ b.fxType = "delay"
    · rw [BlockSnapshot.blockName, if_pos hno, hframed.name hno]
    · obtain ⟨e, he⟩ := hb.shown_type hno
      rw [BlockSnapshot.blockName, if_neg hno, read_held he (Or.inr rfl) hi.fitting, hshows "TYPE" _ _ he rfl]

/-- A scan of a type that always shows the same parameters gives the recorded blocks. -/
theorem Inv.scans (hm : Loaded m) (hi : Inv m h) (hq : Quiet h) (ht : t ∈ fxTypes) (hp : t ≠ "preamp")
    (hne : t ≠ "fx" ∧ t ≠ "eq") (hl : h.g.state.blocks.lookup t = some blocks) (s : PatchState) :
    ∃ s', BlockSnapshot.snapshotAll m (World.reading h.memory) s t = .ok (s', blocks) := by
  obtain ⟨⟨s', out⟩, hout⟩ := (snapshotAll_iff (s := s) hm (World.exact_reading h.memory) ht).2
    fun heq => absurd heq hne.1
  have hids : blocks.map (·.fxId) = out.map (·.fxId) := by
    obtain ⟨n, hc, -, hids⟩ := hi.state.complete t blocks hl
    obtain ⟨-, ⟨n', hc', -, hids'⟩, -⟩ := snapshotAll_spec hm ht hout
    obtain rfl : n = n' := Except.ok.inj (hc.symm.trans hc')
    exact hids.trans hids'.symm
  obtain ⟨n, hc, hfrom⟩ := bind_eq_ok hout
  have hsame : blocks = out := by
    refine eq_of_ids hids fun fx hfx fx' hfx' hid => ?_
    obtain ⟨b, hb, rfl, hfxId, hframed, hshows⟩ := hi.shows hm hq hp hl hfx
    obtain ⟨s0, s1, hsnap⟩ := snapshotFrom_mem hc hfrom fx' hfx'
    rw [← hid, ← hfxId] at hsnap
    obtain ⟨hframed', hheld⟩ := snapshot_shows hb hi.fitting hsnap
    refine eq_of_shows hb hne hid hframed hframed' hshows fun setting e value hs hvalue => ?_
    exact Option.some.inj (hvalue.symm.trans (hheld setting e hs))
  exact ⟨s', hsame ▸ hout⟩

end

/-- **What is recorded is what a scan would give**, once nothing is under way: in every run whose changes
keep to the settings and whose last announcements are not overtaken by older copies. -/
theorem recorded_is_scan {m : AddressMap} (hm : Loaded m) {memory : List Nat → List Nat}
    (hmemory : Fitting m memory) {acts : List Act}
    (hrun : Runs.Guarded (step m) (Undisturbed m) (start memory) acts)
    (hq : Quiet (Runs.run (step m) (start memory) acts)) :
    InSync m (Runs.run (step m) (start memory) acts) := by
  have hi : Inv m (Runs.run (step m) (start memory) acts) :=
    Runs.invariant (inv_start hmemory) (fun _ act hok hI => hI.step hm act hok) hrun
  refine ⟨fun t ht hp => ?_, fun blocks hl fx hfx name hname => ?_, fun t ht hp hfx heq => ?_⟩
  · obtain ⟨blocks, hl⟩ := hi.recorded hq ht
    obtain ⟨n, hc, hn, hids⟩ := hi.state.complete t blocks hl
    refine ⟨n, blocks, hc, hl, ?_, fun fx hfx => hi.labels hm hq hp hl hfx⟩
    rw [← length_blocksOf hn, ← List.length_map (·.fxId), hids, List.length_map]
  · obtain ⟨b, hb, ht, hfxId, -, hshows⟩ := hi.shows hm hq (by decide) hl hfx
    obtain ⟨e, he⟩ := hb.shown_type (by rw [ht]; decide)
    have hknown : KnownOf _ b "TYPE" name := Or.inr ⟨ht, rfl, subscript_eq_ok.1 (hfxId ▸ hname)⟩
    rw [hi.known_held hq he hknown, hshows "TYPE" e _ he rfl]
    rfl
  · obtain ⟨blocks, hl⟩ := hi.recorded hq ht
    exact ⟨blocks, hl, hi.scans hm hq ht hp ⟨hfx, heq⟩ hl⟩

/-! ## The worker alone -/

section

variable {m : AddressMap} {h : Host} {now : Nat} {fxType : String} {types : List String} {left : List Nat}
  {out out' : List FxBlock} {fxId : StrOrInt} {s' : PatchState} {fx : FxBlock}

@[simp] theorem setState_state (s : PatchState) : (h.setState s).g.state = s := rfl
@[simp] theorem setState_memory (s : PatchState) : (h.setState s).memory = h.memory := rfl
@[simp] theorem setState_setState (s s' : PatchState) : (h.setState s).setState s' = h.setState s' := rfl
@[simp] theorem setState_self : h.setState h.g.state = h := rfl
@[simp] theorem goTo_state (worker : Worker) : (h.goTo worker).g.state = h.g.state := rfl
@[simp] theorem goTo_memory (worker : Worker) : (h.goTo worker).memory = h.memory := rfl
@[simp] theorem goTo_goTo (worker worker' : Worker) : (h.goTo worker).goTo worker' = h.goTo worker' := rfl
@[simp] theorem goTo_setState (worker : Worker) (s : PatchState) :
    (h.goTo worker).setState s = (h.setState s).goTo worker := rfl

/-- Nothing changing, a call comes to what the unit's answers make it. -/
theorem alone_asking (now : Nat) {α : Type} (place : Reading α → Worker)
    (hask : ∀ (h : Host) q k, h.worker = place (.ask q k) →
      step m h (.work now) = h.asked q (place (k (h.answer q)))) {prog : Reading α} (hw : h.worker = place prog) :
    ∃ log, Runs.Alone (step m) (.work now) h
      { h with worker := place (.ret (prog.answeredBy (oracle h.g.state (World.reading h.memory)))), log } := by
  induction prog generalizing h with
  | ret r => exact ⟨h.log, 0, by rw [Asking.answeredBy_ret, ← hw]; rfl⟩
  | ask q k ih =>
    obtain ⟨log, hrun⟩ := ih (h.answer q) (h := h.asked q (place (k (h.answer q)))) rfl
    exact ⟨log, (hask h q k hw ▸ Runs.alone_step (step m) (.work now) h).trans hrun⟩

theorem alone_snapshot (hw : h.worker = .reading types fxType left out fxId (.labels (labels m fxType fxId)))
    (hsnap : BlockSnapshot.snapshot m (World.reading h.memory) h.g.state fxType fxId true = .ok (s', fx)) :
    Runs.Alone (step m) (.work now) h ((h.setState s').goTo (.scanning types fxType left (out ++ [fx]))) := by
  obtain ⟨state, name, slider1, slider2, hstate, hname, rfl, hsliders, rfl⟩ := BlockSnapshot.snapshot_eq_ok hsnap
  obtain ⟨log, hlabels⟩ := alone_asking now
    (fun prog => .reading types fxType left out fxId (.labels prog))
    (fun h q k hw => by simp only [step, Host.work, hw]) hw
  rw [labels_answeredBy, hstate, ok_bind, hname, ok_bind] at hlabels
  have hnamed : Runs.Alone (step m) (.work now)
      { h with worker := .reading types fxType left out fxId (.labels (.ret (pure (state, name)))), log }
      { h.setState (BlockSnapshot.named h.g.state fxType fxId name) with
        worker := .reading types fxType left out fxId (.sliders state name (slidersFor m fxType fxId name)), log } :=
    Runs.alone_step (step m) (.work now) _
  obtain ⟨log', hread⟩ := alone_asking (m := m)
    (h := { h.setState (BlockSnapshot.named h.g.state fxType fxId name) with
      worker := .reading types fxType left out fxId (.sliders state name (slidersFor m fxType fxId name)), log })
    now (fun prog => .reading types fxType left out fxId (.sliders state name prog))
    (fun h q k hw => by simp only [step, Host.work, hw]) rfl
  simp only [Host.setState] at hread
  rw [Readings.slidersFor_answeredBy, hsliders] at hread
  exact hlabels.trans (hnamed.trans (hread.trans (Runs.alone_step (step m) (.work now) _)))

/-- One after the other, the blocks that are left. -/
theorem alone_snapshotFrom {n : Nat} (hc : m.fxBlockCount fxType = .ok n)
    (hw : h.worker = .scanning types fxType left out) (hlog : h.log = [])
    (hsnap : BlockSnapshot.snapshotFrom m (World.reading h.memory) fxType h.g.state left = .ok (s', out')) :
    Runs.Alone (step m) (.work now) h ((h.setState s').goTo (.scanning types fxType [] (out ++ out'))) := by
  induction left generalizing h out out' with
  | nil =>
    cases hsnap
    refine ⟨0, ?_⟩
    obtain ⟨memory, inFlight, g, worker, log⟩ := h
    obtain rfl : worker = .scanning types fxType [] out := hw
    obtain rfl : log = [] := hlog
    simp [Host.goTo, Host.setState]
  | cons i left ih =>
    obtain ⟨s1, fx, rest, hfx, hrest, rfl⟩ := BlockSnapshot.snapshotFrom_cons hc hsnap
    have hbegin : Runs.Alone (step m) (.work now) h (h.goTo (.reading types fxType left out
        (AddressMap.normalId n fxType (.int (i + 1)))
        (.labels (labels m fxType (AddressMap.normalId n fxType (.int (i + 1))))))) := by
      have hstep := Runs.alone_step (step m) (.work now) h
      simpa only [step, Host.work, hw, BlockSnapshot.normalizeBlock_eq hc] using hstep
    have hblock := hbegin.trans (alone_snapshot rfl hfx)
    simpa using hblock.trans (ih rfl rfl hrest)

/-- **Undisturbed, the worker's steps are `refresh_state`.** -/
theorem alone_refreshFrom (hw : h.worker = .refreshing types) (hlog : h.log = [])
    (hrefresh : Gt1000.refreshFrom m (World.reading h.memory) false (fun _ => now) h.g.state types = .ok s') :
    Runs.Alone (step m) (.work now) h ((h.setState s').goTo .idle) := by
  induction types generalizing h with
  | nil =>
    cases hrefresh
    have hstep := Runs.alone_step (step m) (.work now) h
    simpa only [step, Host.work, hw, setState_self] using hstep
  | cons t types ih =>
    simp only [Gt1000.refreshFrom, Bool.false_eq_true, if_false] at hrefresh
    obtain ⟨⟨s1, blocks⟩, hsnap, hrest⟩ := bind_eq_ok hrefresh
    obtain ⟨n, hc, hfrom⟩ := bind_eq_ok hsnap
    have hbegin : Runs.Alone (step m) (.work now) h (h.goTo (.scanning types t (List.range n) [])) := by
      have hstep := Runs.alone_step (step m) (.work now) h
      simpa only [step, Host.work, hw, hc] using hstep
    have hscan := hbegin.trans (alone_snapshotFrom hc rfl rfl hfrom)
    have hrecord : Runs.Alone (step m) (.work now) h
        ((h.setState (s1.recordScan t blocks now)).goTo (.refreshing types)) :=
      hscan.trans (Runs.alone_step (step m) (.work now) _)
    simpa using hrecord.trans (ih rfl rfl hrest)

end

/-! ## The compressor's sustain -/

/-- A change of a setting that is recorded keeps to it. -/
theorem Shown.ownSetting {m : AddressMap} {b : TopBlock} {setting : String} {e : Param} (h : Shown m b setting e)
    {data : List Nat} (hdata : Fits setting e data) : OwnSetting m (settingAddress b e) data := by
  intro b' setting' e' h' habout
  have hann := h.announced_eq (h.ne_nil hdata)
  -- either way the frame is about both settings, and it is about one only
  have hsame : b.fxType = b'.fxType ∧ b.fxId.toStr = b'.fxId.toStr ∧ setting = setting' := by
    rcases habout with hsaid | haddress
    · obtain ⟨value, hvalue⟩ := Option.isSome_iff_exists.1 hsaid
      obtain ⟨x, hx, hvalue⟩ := Option.bind_eq_some_iff.1 hvalue
      rw [hann, Option.some.injEq] at hx
      subst hx
      split at hvalue
      · assumption
      · cases hvalue
    · have hann' := h'.announced_eq (h.ne_nil hdata)
      rw [← haddress, hann] at hann'
      simp only [Option.some.injEq, Prod.mk.injEq] at hann'
      exact ⟨hann'.1, hann'.2.1, hann'.2.2.1⟩
  obtain ⟨ht, hid, rfl⟩ := hsame
  obtain rfl : b = b' := World.block_eq_of_id h'.block.mem h.block.mem ht hid
  obtain rfl : e = e' := Option.some.inj (h.param.symm.trans h'.param)
  exact ⟨rfl, hdata⟩

theorem settings_zero : ∀ t ∈ valueTables, ∀ x ∈ t.2.2,
    (ByLabel x.1 → x.2.bytes = 1 ∧ (labelForRaw x.2.values 0).isSome = true) ∧
      ∀ y ∈ BlockSnapshot.nonFxSliderParams, y.1 = t.1 → y.2.1 = some x.1 ∨ y.2.2 = some x.1 → x.2.bytes = 1 := by
  decide +kernel

theorem fitting_allOff (m : AddressMap) : Fitting m World.allOff := by
  intro b setting e hs
  have hmem := TopBlock.mem_valueTables hs.block.mem
  obtain ⟨hlabel, hslider⟩ := settings_zero _ hmem (setting, e) (mem_of_lookup hs.param)
  have hbytes : e.bytes = 1 := by
    rcases hs.recorded with h | ⟨sliders, hl, h⟩
    · exact (hlabel h).1
    · exact hslider _ (mem_of_lookup hl) rfl h
  refine ⟨hbytes.symm, fun h => ?_⟩
  simpa [rawValue, hbytes, World.allOff] using (hlabel h).2

/-- The first refresh of a unit with everything at its lowest. -/
theorem alone_allOff : ∃ s, s.isReady = true ∧
    Runs.Alone (step addressMap) (.work 0) (start World.allOff) ⟨World.allOff, [], ⟨s, []⟩, .idle, []⟩ := by
  obtain ⟨s, hs⟩ : ∃ s, Gt1000.refreshState addressMap (World.reading World.allOff) false (fun _ => 0)
      (.fresh fxTypes) = .ok s := World.refresh_constant (v := 0) (by decide) PatchState.known_fresh
  exact ⟨s, (scanned_of_refreshState (Or.inl rfl) PatchState.known_fresh hs).isReady,
    alone_refreshFrom (h := start World.allOff) rfl rfl hs⟩

/-- Turned up after the first refresh. -/
theorem recorded_sustain : ∃ k, InSync addressMap (Runs.run (step addressMap) (start World.allOff)
    (List.replicate k (.work 0) ++ [.change [0x10, 0, 0x12, 2] [40], .deliver 0])) := by
  obtain ⟨s, hready, k, hrun⟩ := alone_allOff
  have hsustain : Shown addressMap World.comp "SUSTAIN" ⟨[0, 2], [0, 100], 1, []⟩ :=
    ⟨World.switched_comp, rfl, Or.inr ⟨(some "SUSTAIN", some "LEVEL"), rfl, Or.inl rfl⟩⟩
  have hfits : Fits "SUSTAIN" ⟨[0, 2], [0, 100], 1, []⟩ [40] := ⟨rfl, fun h => absurd h (by decide)⟩
  refine ⟨k, recorded_is_scan (Or.inl rfl) (fitting_allOff addressMap) (Runs.guarded_append.2 ⟨?_, ?_⟩) ?_⟩
  · exact Runs.guarded_of_forall fun act hact h => by
      rw [List.eq_of_mem_replicate hact]
      trivial
  · rw [hrun]
    refine ⟨Shown.ownSetting hsustain hfits, fun frame rest _ b setting e value _ _ _ =>
      ⟨?_, fun hnot => ?_⟩, trivial⟩
    · rintro copy (⟨data, hmem, -⟩ | ⟨fx, hfx, -⟩)
      · cases hmem
      · cases hfx
    · exact absurd (hready.symm.trans hnot) (by decide)
  · rw [Runs.run_append, hrun]
    exact ⟨rfl, rfl⟩

end Pygt1000.Mirror
