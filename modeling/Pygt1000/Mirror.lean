import Pygt1000.BlockReadings

/-!
# The known state as a mirror of the unit

The unit, the receiver, and the refresh worker with its queue, where the worker reads one setting at a
time: between any two of its reads the unit may change and frames may come in.

| here | there |
| --- | --- |
| `work`, from `idle`        | one pass of `drain` (`refresh_scheduler.py:82-93`) |
| `work`, from `refreshing`  | the loop of `refresh_state` (`gt1000.py:158-164`) |
| `work`, from `scanning`    | the loop of `snapshot_all` (`block_snapshot.py:137-143`), then `record_scan` |
| `work`, from `reading`     | `snapshot` (`:110-135`): the next reply, the name of an fx block, or the block |
| `work`, from `resolving`   | `_refresh_sliders` (`gt1000.py:174-178`): the next reply, or `set_sliders` |
| `deliver`                  | `_process_data_from_unit` on the oldest frame under way (`gt1000.py:276-298`) |

Of every setting there are then up to four copies: what is recorded, what the name of an effect says,
what the worker has been told in the block it is reading, and what it has put together of the blocks
before. As long as the last announcement of a change is not overtaken by an older copy, all of them
follow what the unit holds (`Inv.step`). `AtRest.lean` says what that comes to once nothing is under
way.
-/

namespace Pygt1000.Mirror

open Specs Feed Live Readings

/-! ## The parties -/

/-- Where `snapshot` stands in a block. -/
inductive Pass where
  | labels (prog : Reading (Option StrOrInt × Option StrOrInt))
  | sliders (state name : Option StrOrInt) (prog : Reading (Option SliderValue × Option SliderValue))

inductive Worker where
  | idle
  /-- In `refresh_state`, before the types that are left. -/
  | refreshing (types : List String)
  /-- In `snapshot_all`, before the blocks that are left, with those that were read. -/
  | scanning (types : List String) (fxType : String) (left : List Nat) (out : List FxBlock)
  /-- In `snapshot`. -/
  | reading (types : List String) (fxType : String) (left : List Nat) (out : List FxBlock)
    (fxId : StrOrInt) (pass : Pass)
  /-- In `_refresh_sliders`. -/
  | resolving (fxType : String) (fxId : StrOrInt)
    (prog : Reading (Option SliderValue × Option SliderValue))
  /-- A handler raised. -/
  | died

structure Host where
  memory : List Nat → List Nat
  inFlight : List (List Nat × List Nat)
  g : Gt1000
  worker : Worker
  /-- What the worker asked in the call it is in, and the answers. -/
  log : List (Sigma Answer)

inductive Act where
  | change (address data : List Nat)
  | deliver (now : Nat)
  | work (now : Nat)

namespace Host

variable (m : AddressMap) (h : Host)

/-- The worker gets to another place in its code. -/
def goTo (worker : Worker) : Host := { h with worker, log := [] }

def setState (state : PatchState) : Host := { h with g := { h.g with state } }

def answer : ∀ q, Answer q := oracle h.g.state (World.reading h.memory)

/-- A question is answered, and the call goes on. -/
def asked (q : Question) (worker : Worker) : Host :=
  { h with worker, log := h.log ++ [⟨q, h.answer q⟩] }

/-- `_dispatch` (`refresh_scheduler.py:88-93`), with the two handlers registered. -/
def dispatch : Task → Worker
  | .full => .refreshing fxTypes
  | .sliders fxType fxId => .resolving fxType fxId (slidersFor m fxType fxId none)

def work (now : Nat) : Host :=
  match h.worker with
  | .idle =>
    match h.g.queue with
    | [] => h
    | task :: queue => { h with g := { h.g with queue } }.goTo (dispatch m task)
  | .refreshing [] => h.goTo .idle
  | .refreshing (fxType :: types) =>
    match m.fxBlockCount fxType with
    | .ok n => h.goTo (.scanning types fxType (List.range n) [])
    | .error _ => h.goTo .died
  | .scanning types fxType (i :: left) out =>
    match m.normalizeBlock fxType (.int (i + 1)) with
    | .ok (fxType, fxId) => h.goTo (.reading types fxType left out fxId (.labels (labels m fxType fxId)))
    | .error _ => h.goTo .died
  | .scanning types fxType [] out => (h.setState (h.g.state.recordScan fxType out now)).goTo (.refreshing types)
  | .reading types fxType left out fxId (.labels prog) =>
    match prog with
    | .ask q k => h.asked q (.reading types fxType left out fxId (.labels (k (h.answer q))))
    | .ret (.ok (state, name)) =>
      { h.setState (BlockSnapshot.named h.g.state fxType fxId name) with
        worker := .reading types fxType left out fxId (.sliders state name (slidersFor m fxType fxId name)) }
    | .ret (.error _) => h.goTo .died
  | .reading types fxType left out fxId (.sliders state name prog) =>
    match prog with
    | .ask q k => h.asked q (.reading types fxType left out fxId (.sliders state name (k (h.answer q))))
    | .ret (.ok (slider1, slider2)) =>
      h.goTo (.scanning types fxType left (out ++ [⟨fxId, state, name, slider1, slider2⟩]))
    | .ret (.error _) => h.goTo .died
  | .resolving fxType fxId prog =>
    match prog with
    | .ask q k => h.asked q (.resolving fxType fxId (k (h.answer q)))
    | .ret (.ok (slider1, slider2)) =>
      match h.g.state.setSliders fxType fxId slider1 slider2 with
      | .ok state => (h.setState state).goTo .idle
      | .error _ => h.goTo .died
    | .ret (.error _) => h.goTo .died
  | .died => h

def deliver (now : Nat) : Host :=
  match h.inFlight with
  | [] => h
  | frame :: inFlight => { h with inFlight, g := (h.g.processDataFromUnit m now frame.1 frame.2).1 }

end Host

def step (m : AddressMap) (h : Host) : Act → Host
  | .change address data =>
    { h with memory := Function.update h.memory address data
             inFlight := h.inFlight ++ [(address, data)] }
  | .deliver now => h.deliver m now
  | .work now => h.work m now

/-- The first refresh is under way, and has read nothing yet. -/
def start (memory : List Nat → List Nat) : Host := ⟨memory, [], .fresh, .refreshing fxTypes, []⟩

/-! ## What is known, and what is under way -/

/-- The blocks of that type the worker has put together. -/
def Worker.out (fxType : String) : Worker → List FxBlock
  | .scanning _ t _ out => if t = fxType then out else []
  | .reading _ t _ out _ _ => if t = fxType then out else []
  | _ => []

/-- What the frames say of a setting. -/
def said (m : AddressMap) (b : TopBlock) (setting : String) (frames : List (List Nat × List Nat)) :
    List (Option StrOrInt) :=
  frames.filterMap (saidOf m b setting)

section

variable (h : Host) (b : TopBlock) (setting : String) (e : Param)

def heldOf : Option StrOrInt := shownValue setting e (h.memory (settingAddress b e))

/-- The value is recorded, or it is the name of the block's effect. -/
def KnownOf (value : Option StrOrInt) : Prop :=
  recordedOf b setting h.g.state = some value ∨
    (b.fxType = "fx" ∧ setting = "TYPE" ∧ effectOf b h.g.state = some value)

/-- The worker has the value, from a reply or in a block it has put together. -/
def CopyOf (value : Option StrOrInt) : Prop :=
  (∃ data, reply b e data ∈ h.log ∧ value = shownValue setting e data) ∨
    ∃ fx ∈ h.worker.out b.fxType, fx.fxId.toStr = b.fxId.toStr ∧ recordedValue setting fx = some value

end

/-! ## The steps that lose nothing -/

variable (m : AddressMap)

/-- A change at an address that decodes to a setting is at the address the setting is read from, and
gives it bytes of its own. -/
def OwnSetting (address data : List Nat) : Prop :=
  ∀ b setting e, Shown m b setting e →
    (saidOf m b setting (address, data)).isSome = true ∨ address = settingAddress b e →
      address = settingAddress b e ∧ Fits setting e data

/-- The last announcement of a setting under way arrives where no older copy is left of it: neither
one the worker has, nor, before the state is ready, a known one. -/
def NothingOlder (h : Host) (frame : List Nat × List Nat) (rest : List (List Nat × List Nat)) : Prop :=
  ∀ b setting e value, Shown m b setting e → saidOf m b setting frame = some value →
    said m b setting rest = [] →
      (∀ copy, CopyOf h b setting e copy → copy = value) ∧
      (h.g.state.isReady = false → ∀ copy, KnownOf h b setting copy → copy = value)

def Undisturbed (h : Host) : Act → Prop
  | .change address data => OwnSetting m address data
  | .deliver _ => ∀ frame rest, h.inFlight = frame :: rest → NothingOlder m h frame rest
  | .work _ => True

/-! ## The invariant -/

/-- Every copy of a setting follows its announcements. -/
structure Following (h : Host) (b : TopBlock) (setting : String) (e : Param) : Prop where
  fits : Fits setting e (h.memory (settingAddress b e))
  held : Follows (said m b setting h.inFlight) (heldOf h b setting e) (heldOf h b setting e)
  known : ∀ value, KnownOf h b setting value →
    Follows (said m b setting h.inFlight) (heldOf h b setting e) value
  copied : ∀ value, CopyOf h b setting e value →
    Follows (said m b setting h.inFlight) (heldOf h b setting e) value

/-- What no frame changes of a block: the parameters its sliders show, and a name that is no label. -/
structure Framed (b : TopBlock) (fx : FxBlock) : Prop where
  first : b.fxType ≠ "fx" → b.fxType ≠ "eq" →
    sliderFrame fx.slider1 = paramFrame b ((BlockSnapshot.nonFxSliderParams.lookup b.fxType).bind (·.1))
  second : b.fxType ≠ "fx" → b.fxType ≠ "eq" →
    sliderFrame fx.slider2 = paramFrame b ((BlockSnapshot.nonFxSliderParams.lookup b.fxType).bind (·.2))
  name : b.fxType = "ns" ∨ b.fxType = "delay" → fx.name = some (.str (b.fxType ++ b.fxId.toStr))

/-- The blocks of a list are framed, those of the preamps apart. -/
def AllFramed (fxType : String) (blocks : List FxBlock) : Prop :=
  ∀ fx ∈ blocks, ∀ b, Switched m b → b.fxType = fxType → fx.fxId.toStr = b.fxId.toStr → Framed b fx

/-- The call under way will return what its replies say of the block. -/
def PassOk (log : List (Sigma Answer)) (b : TopBlock) : Pass → Prop
  | .labels prog => Asking.Ensures (Told m) (OnOk (LabelsRead m b)) log prog
  | .sliders state name prog => LabelsRead m b log (state, name) ∧ (b.fxType ≠ "fx" → b.fxType ≠ "eq" →
      Asking.Ensures (Told m) (OnOk (SlidersRead m b)) log prog)

/-- The numbers of the blocks read, in hand and left make up the type. -/
structure ScanOk (fxType : String) (out : List FxBlock) (current : List StrOrInt) (left : List Nat) : Prop where
  ids : ∃ n, m.fxBlockCount fxType = .ok n ∧ (∀ i ∈ left, i < n) ∧
    out.map (·.fxId) ++ (current ++
        left.map fun i : Nat => AddressMap.normalId n fxType (.int (i + 1))) =
      (List.range n).map fun i : Nat => AddressMap.normalId n fxType (.int (i + 1))
  framed : AllFramed m fxType out

def WorkerOk (log : List (Sigma Answer)) : Worker → Prop
  | .idle | .died => log = []
  | .refreshing types => log = [] ∧ ∀ t ∈ types, t ∈ fxTypes
  | .scanning types fxType left out => log = [] ∧ (∀ t ∈ types, t ∈ fxTypes) ∧ ScanOk m fxType out [] left
  | .reading types fxType left out fxId pass =>
    (∀ t ∈ types, t ∈ fxTypes) ∧ ScanOk m fxType out [fxId] left ∧
      ∀ b, Switched m b → b.fxType = fxType → b.fxId.toStr = fxId.toStr → PassOk m log b pass
  | .resolving fxType fxId prog => ∀ b, Switched m b → b.fxType = fxType → b.fxId.toStr = fxId.toStr →
      b.fxType ≠ "fx" → b.fxType ≠ "eq" → Asking.Ensures (Told m) (OnOk (SlidersRead m b)) log prog

/-- The types the worker has still to record. -/
def Worker.unread : Worker → List String
  | .refreshing types => types
  | .scanning types fxType _ _ => fxType :: types
  | .reading types fxType _ _ _ _ => fxType :: types
  | _ => []

/-- The recorded lists are complete, and their blocks framed. -/
structure StateOk (s : PatchState) : Prop where
  known : s.Known
  complete : ∀ t blocks, s.blocks.lookup t = some blocks → Complete m t blocks
  framed : ∀ t blocks, s.blocks.lookup t = some blocks → AllFramed m t blocks

structure Inv (h : Host) : Prop where
  state : StateOk m h.g.state
  queue : ∀ t fxId, Task.sliders t fxId ∈ h.g.queue → ∃ b, Switched m b ∧ b.fxType = t ∧ b.fxId = fxId
  worker : WorkerOk m h.log h.worker
  scanned : ∀ t ∈ fxTypes, t ∈ h.g.state.blocks.keys ∨ t ∈ h.worker.unread ∨ h.worker = .died
  follows : ∀ b setting e, Shown m b setting e → Following m h b setting e

/-! ## The recorded blocks -/

section

variable {m : AddressMap} {s s' : PatchState} {b : TopBlock} {fxType : String} {fx fx' : FxBlock}
  {pre post : List FxBlock}

theorem sliderFrame_echoSlider (d : DecodedValue) (slider : Option SliderValue) :
    sliderFrame (PatchState.echoSlider d slider) = sliderFrame slider := by
  cases slider with
  | none => rfl
  | some v =>
    simp only [PatchState.echoSlider, sliderFrame, Option.map_some]
    split <;> rfl

theorem Framed.applyBlock (h : Framed b fx) {d : DecodedValue}
    (hd : b.fxType = "ns" ∨ b.fxType = "delay" → d.valueName ≠ "TYPE") :
    Framed b (PatchState.applyBlock d fx) := by
  unfold PatchState.applyBlock
  split
  · exact ⟨h.first, h.second, h.name⟩
  · split
    · next htype => exact ⟨h.first, h.second, fun ht => absurd htype (hd ht)⟩
    · refine ⟨fun hfx heq => ?_, fun hfx heq => ?_, h.name⟩
      · rw [sliderFrame_echoSlider]
        exact h.first hfx heq
      · rw [sliderFrame_echoSlider]
        exact h.second hfx heq

theorem StateOk.congr (h : StateOk m s) (htypes : s'.fxTypes = s.fxTypes) (hblocks : s'.blocks = s.blocks) :
    StateOk m s' := by
  refine ⟨⟨htypes.trans h.known.types, ?_⟩, ?_, ?_⟩ <;> rw [hblocks]
  · exact h.known.keys
  · exact h.complete
  · exact h.framed

/-- One block of a type is another one now, under the same id. -/
theorem StateOk.replaced (h : StateOk m s) (hl : s.blocks.lookup fxType = some (pre ++ fx :: post))
    (hid : fx'.fxId = fx.fxId)
    (hframed : ∀ b, Switched m b → b.fxType = fxType → fx.fxId.toStr = b.fxId.toStr → Framed b fx → Framed b fx')
    (htypes : s'.fxTypes = s.fxTypes) (hblocks : s'.blocks = s.blocks.insert fxType (pre ++ fx' :: post)) :
    StateOk m s' := by
  have hkey : fxType ∈ s.blocks.keys := AList.mem_keys.1 (AList.lookup_isSome.1 (by simp [hl]))
  refine ⟨⟨htypes.trans h.known.types, fun t ht => ?_⟩, fun t blocks ht => ?_, fun t blocks ht => ?_⟩
  · rw [hblocks] at ht
    rcases (AList.mem_insert _).1 (AList.mem_keys.2 ht) with rfl | hmem
    · exact h.known.keys _ hkey
    · exact h.known.keys t (AList.mem_keys.1 hmem)
  · rw [hblocks] at ht
    by_cases heq : t = fxType
    · subst heq
      rw [AList.lookup_insert, Option.some.injEq] at ht
      exact World.complete_of_ids (h.complete t _ hl) (by simp [← ht, hid])
    · exact h.complete t blocks (by rwa [AList.lookup_insert_ne heq] at ht)
  · rw [hblocks] at ht
    by_cases heq : t = fxType
    · subst heq
      rw [AList.lookup_insert, Option.some.injEq] at ht
      subst ht
      have hall := h.framed t _ hl
      intro x hx b hb hbt hxid
      rcases List.mem_append.1 hx with hx | hx
      · exact hall x (List.mem_append_left _ hx) b hb hbt hxid
      · rcases List.mem_cons.1 hx with rfl | hx
        · rw [hid] at hxid
          exact hframed b hb hbt hxid (hall fx (by simp) b hb hbt hxid)
        · exact hall x (by simp [hx]) b hb hbt hxid
    · exact h.framed t blocks (by rwa [AList.lookup_insert_ne heq] at ht)

/-- A full scan of a type is recorded. -/
theorem StateOk.recordScan (hm : Loaded m) (h : StateOk m s) {out : List FxBlock}
    (hscan : ScanOk m fxType out [] []) (now : Nat) : StateOk m (s.recordScan fxType out now) := by
  obtain ⟨n, hc, -, hids⟩ := hscan.ids
  have ht := hm.mem_fxTypes hc
  refine ⟨⟨h.known.types, fun t htk => ?_⟩, fun t blocks hl => ?_, fun t blocks hl => ?_⟩
  · rcases (AList.mem_insert _).1 (AList.mem_keys.2 htk) with rfl | hmem
    · exact ht
    · exact h.known.keys t (AList.mem_keys.1 hmem)
  · by_cases heq : t = fxType
    · subst heq
      obtain ⟨n', hn', hc'⟩ := hm.count ht
      obtain rfl : n' = n := Except.ok.inj (hc'.symm.trans hc)
      obtain rfl : out = blocks := by simpa using hl
      refine ⟨n', hc, hn', ?_⟩
      rw [← (blocksOf_normalized _ hn').1, ← hids]
      simp
    · exact h.complete t blocks (by simpa [AList.lookup_insert_ne heq] using hl)
  · by_cases heq : t = fxType
    · subst heq
      obtain rfl : out = blocks := by simpa using hl
      exact hscan.framed
    · exact h.framed t blocks (by simpa [AList.lookup_insert_ne heq] using hl)

theorem StateOk.apply (hm : Loaded m) (h : StateOk m s) {d : DecodedValue} {r : ApplyResult} {now : Nat}
    {address : List Nat} {value : RawValue} (hd : m.decode address value = .ok (some d))
    (ha : s.apply now d = .ok (s', r)) : StateOk m s' := by
  rcases PatchState.apply_cases ha with ⟨rfl, -, -⟩ | ⟨t, pre, fx, post, -, ht, hl, -, -, rfl, -⟩
  · exact h
  · refine h.replaced hl (PatchState.applyBlock_fxId d fx) (fun b _ hbt _ hframed => ?_) rfl rfl
    refine hframed.applyBlock fun htype => valueName_ne_type hm hd ?_
    rw [ht, ← hbt]
    exact htype.imp (congrArg some) (congrArg some)

theorem StateOk.deliver (hm : Loaded m) {g : Gt1000} (h : StateOk m g.state) (now : Nat)
    (offset data : List Nat) : StateOk m (g.processDataFromUnit m now offset data).1.state := by
  rcases Gt1000.processDataFromUnit_cases m g now offset data with hsame | ⟨d, s', r, -, hd, ha, hs'⟩
  · rw [hsame]
    exact h
  · rw [hs']
    exact h.apply hm hd ha

theorem task_ids : ∀ b ∈ topBlocks, (Gt1000.taskId (some b.fxId.toStr)).toOption =
    if b.fxType = "preamp" then none else some b.fxId := by decide

/-- A re-read of sliders is queued for a block that is recorded. -/
theorem StateOk.queue_deliver (hm : Loaded m) {g : Gt1000} (h : StateOk m g.state) {now : Nat}
    {offset data : List Nat} {t : String} {fxId : StrOrInt}
    (hmem : Task.sliders t fxId ∈ (g.processDataFromUnit m now offset data).1.queue) :
    Task.sliders t fxId ∈ g.queue ∨ ∃ b, Switched m b ∧ b.fxType = t ∧ b.fxId = fxId := by
  unfold Gt1000.processDataFromUnit at hmem
  split at hmem
  · left
    simpa [Gt1000.submit] using hmem
  · split at hmem
    · exact Or.inl hmem
    · exact Or.inl hmem
    · next d hd =>
      split at hmem
      · exact Or.inl hmem
      · next s' r ha =>
        split at hmem
        · next hchanged =>
          split at hmem
          · next t' fxId' ht' htask =>
            rcases List.mem_append.1 hmem with hold | hnew
            · exact Or.inl hold
            right
            obtain ⟨rfl, rfl⟩ : t = t' ∧ fxId = fxId' := by simpa using hnew
            rcases PatchState.apply_cases ha with ⟨-, rfl, -⟩ | ⟨u, pre, fx, post, -, hu, hl, hid, -, -, -⟩
            · cases hchanged
            · obtain rfl : u = t := Option.some.inj (hu.symm.trans ht')
              obtain ⟨b, hb, rfl, hfxId⟩ := (h.complete u _ hl).hasBlock hm
                (List.mem_append_right pre List.mem_cons_self)
              cases hdid : d.fxId with
              | none =>
                rw [hdid] at htask
                cases htask
              | some id =>
                rw [hdid, PatchState.idStr, ← hfxId] at hid
                rw [hdid, ← hid] at htask
                have hids := task_ids b hb.mem
                rw [htask] at hids
                split at hids
                · cases hids
                · next hp => exact ⟨b, ⟨hb, hp⟩, rfl, (Option.some.inj hids).symm⟩
          · exact Or.inl hmem
          · exact Or.inl hmem
        · exact Or.inl hmem

end

section

variable {m : AddressMap} {h h' : Host} {b : TopBlock} {setting : String} {e : Param}

theorem Inv.fitting (hi : Inv m h) : Fitting m h.memory := fun b setting e hs => (hi.follows b setting e hs).fits

/-! ## The unit and the receiver -/

theorem Following.change (hs : Shown m b setting e) (hf : Following m h b setting e)
    {address data : List Nat} (hok : OwnSetting m address data) :
    Following m (step m h (.change address data)) b setting e := by
  by_cases ha : address = settingAddress b e
  · subst ha
    obtain ⟨-, hdata⟩ := hok b setting e hs (Or.inr rfl)
    have hmemory : Function.update h.memory (settingAddress b e) data (settingAddress b e) = data :=
      Function.update_self ..
    have hsaid : said m b setting (h.inFlight ++ [(settingAddress b e, data)]) =
        said m b setting h.inFlight ++ [shownValue setting e data] := by
      simp [said, hs.said_eq hdata]
    have hfollows (copy : Option StrOrInt) : Follows
        (said m b setting (h.inFlight ++ [(settingAddress b e, data)])) (shownValue setting e data) copy :=
      hsaid ▸ follows_change _ _ _
    constructor <;> simp only [step, heldOf, hmemory]
    · exact hdata
    · exact hfollows _
    · exact fun copy _ => hfollows copy
    · exact fun copy _ => hfollows copy
  · have hnone : saidOf m b setting (address, data) = none := by
      by_contra hsome
      exact ha (hok b setting e hs (Or.inl (Option.isSome_iff_ne_none.2 hsome))).1
    have hmemory : Function.update h.memory address data (settingAddress b e) =
        h.memory (settingAddress b e) := Function.update_of_ne (Ne.symm ha) ..
    have hsaid : said m b setting (h.inFlight ++ [(address, data)]) = said m b setting h.inFlight := by
      simp [said, hnone]
    constructor <;> simp only [step, heldOf, hmemory, hsaid]
    · exact hf.fits
    · exact hf.held
    · exact hf.known
    · exact hf.copied

/-- Every block of a ready state is recorded. -/
theorem Inv.block_isSome (hi : Inv m h) (hb : HasBlock m b) (hready : h.g.state.isReady = true) :
    (h.g.state.block b.fxType b.fxId.toStr).isSome = true := by
  obtain ⟨hm, n, hc, hn, hmem⟩ := hb
  have hkeys : b.fxType ∈ h.g.state.blocks.keys := by
    have hperm : h.g.state.blocks.keys.length = fxTypes.length := by
      simpa [PatchState.isReady, hi.state.known.types] using hready
    have hsub : h.g.state.blocks.keys.Subperm fxTypes :=
      (List.subperm_of_subset h.g.state.blocks.keys_nodup fun t ht => hi.state.known.keys t ht)
    exact ((hsub.perm_of_length_le hperm.ge).mem_iff).2 (hm.mem_fxTypes hc)
  obtain ⟨blocks, hl⟩ := Option.isSome_iff_exists.1 (AList.lookup_isSome.2 (AList.mem_keys.2 hkeys))
  obtain ⟨n', hc', -, hids⟩ := hi.state.complete _ blocks hl
  obtain rfl : n' = n := Except.ok.inj (hc'.symm.trans hc)
  have hid : b.fxId ∈ blocks.map (·.fxId) := hids ▸ List.mem_map_of_mem hmem
  obtain ⟨fx, hfx, hfxId⟩ := List.mem_map.1 hid
  rw [PatchState.block, hl, Option.bind_some, List.find?_isSome]
  exact ⟨fx, hfx, by simp [hfxId]⟩

/-- What is known of a setting after a frame is what the frame says of it, or what was known before,
where the frame says nothing or the state is not ready. -/
theorem Inv.known_deliver (hi : Inv m h) (hb : HasBlock m b) {now : Nat} {frame : List Nat × List Nat}
    {value : Option StrOrInt}
    (hknown : KnownOf { h with g := (h.g.processDataFromUnit m now frame.1 frame.2).1 } b setting value) :
    (saidOf m b setting frame = some value ∧ h.g.state.isReady = true) ∨
      (KnownOf h b setting value ∧ (saidOf m b setting frame = none ∨ h.g.state.isReady = false)) := by
  rcases hknown with hrecorded | ⟨hfx, rfl, heffect⟩
  · rw [recorded_frame] at hrecorded
    cases hsaid : saidOf m b setting frame with
    | none =>
      simp only [hsaid] at hrecorded
      exact Or.inr ⟨Or.inl hrecorded, Or.inl rfl⟩
    | some new =>
      simp only [hsaid] at hrecorded
      split at hrecorded
      · next hready =>
        obtain ⟨old, -, rfl⟩ := Option.map_eq_some_iff.1 hrecorded
        exact Or.inl ⟨rfl, hready⟩
      · next hready => exact Or.inr ⟨Or.inl hrecorded, Or.inr (by simpa using hready)⟩
  · have hfound := fun hready => hfx ▸ hi.block_isSome hb hready
    rw [effect_frame hfx hfound] at heffect
    cases hsaid : saidOf m b "TYPE" frame with
    | none =>
      simp only [hsaid] at heffect
      exact Or.inr ⟨Or.inr ⟨hfx, rfl, heffect⟩, Or.inl rfl⟩
    | some new =>
      simp only [hsaid] at heffect
      split at heffect
      · next hready => exact Or.inl ⟨heffect, hready⟩
      · next hready => exact Or.inr ⟨Or.inr ⟨hfx, rfl, heffect⟩, Or.inr (by simpa using hready)⟩

theorem Inv.follows_deliver (hi : Inv m h) (hs : Shown m b setting e) {now : Nat}
    (hok : Undisturbed m h (.deliver now)) : Following m (h.deliver m now) b setting e := by
  have hf := hi.follows b setting e hs
  unfold Host.deliver
  split
  · exact hf
  · next frame rest hflight =>
    obtain ⟨hfits, hheld, hknown, hcopied⟩ := hf
    simp only [hflight, said, List.filterMap_cons] at hheld hknown hcopied
    cases hsaid : saidOf m b setting frame with
    | none =>
      simp only [hsaid] at hheld hknown hcopied
      refine ⟨hfits, hheld, fun value hvalue => ?_, hcopied⟩
      rcases hi.known_deliver hs.block hvalue with ⟨hnew, -⟩ | ⟨hold, -⟩
      · rw [hsaid] at hnew
        cases hnew
      · exact hknown value hold
    | some new =>
      simp only [hsaid] at hheld hknown hcopied
      have holder := hok frame rest hflight b setting e new hs hsaid
      have happlied := follows_applied hheld
      refine ⟨hfits, follows_refl happlied, fun value hvalue => ?_, fun value hvalue => ?_⟩
      · rcases hi.known_deliver hs.block hvalue with ⟨hnew, -⟩ | ⟨hold, hdropped⟩
        · obtain rfl : new = value := Option.some.inj (hsaid.symm.trans hnew)
          exact happlied
        · have hready := hdropped.resolve_left (by rw [hsaid]; exact Option.some_ne_none new)
          exact follows_dropped (hknown value hold) fun hlast => (holder hlast).2 hready value hold
      · exact follows_dropped (hcopied value hvalue) fun hlast => (holder hlast).1 value hvalue

theorem Inv.deliver (hm : Loaded m) (hi : Inv m h) {now : Nat} (hok : Undisturbed m h (.deliver now)) :
    Inv m (h.deliver m now) := by
  refine ⟨?_, fun t fxId hmem => ?_, ?_, fun t ht => ?_, fun b setting e hs => hi.follows_deliver hs hok⟩
  · unfold Host.deliver
    split
    · exact hi.state
    · exact hi.state.deliver hm _ _ _
  · unfold Host.deliver at hmem
    split at hmem
    · exact hi.queue t fxId hmem
    · exact (hi.state.queue_deliver hm hmem).elim (hi.queue t fxId) id
  · unfold Host.deliver
    split <;> exact hi.worker
  · unfold Host.deliver
    split
    · exact hi.scanned t ht
    · exact (hi.scanned t ht).imp_left Gt1000.mem_keys_processDataFromUnit.2

/-! ## The worker -/

theorem Following.of_copies (hf : Following m h b setting e) (hmemory : h'.memory = h.memory)
    (hflight : h'.inFlight = h.inFlight)
    (hknown : ∀ value, KnownOf h' b setting value → KnownOf h b setting value ∨ CopyOf h b setting e value)
    (hcopied : ∀ value, CopyOf h' b setting e value → CopyOf h b setting e value ∨ value = heldOf h b setting e) :
    Following m h' b setting e := by
  have hheld : heldOf h' b setting e = heldOf h b setting e := by rw [heldOf, heldOf, hmemory]
  refine ⟨hmemory ▸ hf.fits, ?_, ?_, ?_⟩ <;> rw [hheld, hflight]
  · exact hf.held
  · exact fun value hvalue => (hknown value hvalue).elim (hf.known value) (hf.copied value)
  · rintro value hvalue
    rcases hcopied value hvalue with hcopy | rfl
    · exact hf.copied value hcopy
    · exact hf.held

/-- A worker that has still to read what was left before. -/
theorem Inv.scanned_of_unread (hi : Inv m h) {worker worker' : Worker} (hw : h.worker = worker)
    (hlive : worker ≠ .died) (hunread : worker'.unread = worker.unread) {t : String} (ht : t ∈ fxTypes) :
    t ∈ h.g.state.blocks.keys ∨ t ∈ worker'.unread ∨ worker' = .died := by
  rcases hi.scanned t ht with hkey | hleft | hdied
  · exact Or.inl hkey
  · rw [hw, ← hunread] at hleft
    exact Or.inr (Or.inl hleft)
  · exact absurd (hw.symm.trans hdied) hlive

/-- A worker that has none left. -/
theorem Inv.scanned_all (hi : Inv m h) {worker : Worker} (hw : h.worker = worker) (hlive : worker ≠ .died)
    (hread : worker.unread = []) {t : String} (ht : t ∈ fxTypes) : t ∈ h.g.state.blocks.keys := by
  rcases hi.scanned t ht with hkey | hleft | hdied
  · exact hkey
  · rw [hw, hread] at hleft
    cases hleft
  · exact absurd (hw.symm.trans hdied) hlive

/-- The worker goes on at another place, with blocks it has read. -/
theorem Inv.goTo (hi : Inv m h) {worker : Worker} (hworker : WorkerOk m [] worker)
    (hscanned : ∀ t ∈ fxTypes, t ∈ h.g.state.blocks.keys ∨ t ∈ worker.unread ∨ worker = .died)
    (hout : ∀ b setting e, Shown m b setting e → ∀ fx ∈ worker.out b.fxType, fx.fxId.toStr = b.fxId.toStr →
      ∀ value, recordedValue setting fx = some value → CopyOf h b setting e value) :
    Inv m (h.goTo worker) := by
  refine ⟨hi.state, hi.queue, hworker, hscanned, fun b setting e hs => ?_⟩
  refine (hi.follows b setting e hs).of_copies rfl rfl (fun _ hvalue => Or.inl hvalue) ?_
  rintro value (⟨data, hmem, -⟩ | ⟨fx, hfx, hid, hvalue⟩)
  · cases hmem
  · exact Or.inl (hout b setting e hs fx hfx hid value hvalue)

/-- Nothing it has read is left to it. -/
theorem Inv.goTo_empty (hi : Inv m h) {worker : Worker} (hworker : WorkerOk m [] worker)
    (hscanned : ∀ t ∈ fxTypes, t ∈ h.g.state.blocks.keys ∨ t ∈ worker.unread ∨ worker = .died)
    (hout : ∀ t, worker.out t = []) : Inv m (h.goTo worker) :=
  hi.goTo hworker hscanned fun b _ _ _ fx hfx => by
    rw [hout] at hfx
    cases hfx

theorem Inv.died (hi : Inv m h) : Inv m (h.goTo .died) :=
  hi.goTo_empty rfl (fun _ _ => Or.inr (Or.inr rfl)) fun _ => rfl

/-- The unit answers with what it holds. -/
theorem Inv.told (hi : Inv m h) (q : Question) : Told m h.log q (h.answer q) := by
  cases q with
  | fxName fxId => trivial
  | fetch address length => exact ⟨h.memory, hi.fitting, rfl⟩

/-- A question is answered; the blocks read stay the same. -/
theorem Inv.asked (hi : Inv m h) {q : Question} {worker : Worker}
    (hworker : WorkerOk m (h.log ++ [⟨q, h.answer q⟩]) worker)
    (hunread : worker.unread = h.worker.unread) (hlive : h.worker ≠ .died)
    (hout : ∀ t, worker.out t = h.worker.out t) : Inv m (h.asked q worker) := by
  refine ⟨hi.state, hi.queue, hworker, fun t => hi.scanned_of_unread rfl hlive hunread,
    fun b setting e hs => (hi.follows b setting e hs).of_copies rfl rfl (fun _ hvalue => Or.inl hvalue) ?_⟩
  rintro value (⟨data, hmem, hvalue⟩ | ⟨fx, hfx, hid, hvalue⟩)
  · rcases List.mem_append.1 hmem with hold | hnew
    · exact Or.inl (Or.inl ⟨data, hold, hvalue⟩)
    · right
      have hq := List.mem_singleton.1 hnew
      have hanswer : some data =
          World.reading h.memory (settingAddress b e) [0, 0, 0, e.bytes] := by
        obtain ⟨rfl, hq⟩ := Sigma.mk.inj_iff.1 hq
        exact eq_of_heq hq
      rw [reading_eq hs hi.fitting, Option.some.injEq] at hanswer
      rw [hvalue, hanswer, heldOf]
  · exact Or.inl (Or.inr ⟨fx, hout b.fxType ▸ hfx, hid, hvalue⟩)

/-- The oldest task is taken. -/
theorem Inv.pop (hi : Inv m h) {task : Task} {queue : List Task} (hw : h.worker = .idle)
    (hq : h.g.queue = task :: queue) :
    Inv m ({ h with g := { h.g with queue } }.goTo (Host.dispatch m task)) := by
  have hrest : Inv m { h with g := { h.g with queue } } :=
    ⟨hi.state, fun t fxId hmem => hi.queue t fxId (hq ▸ List.mem_cons_of_mem task hmem), hi.worker, hi.scanned,
      fun b setting e hs => (hi.follows b setting e hs).of_copies rfl rfl (fun _ => Or.inl) fun _ => Or.inl⟩
  refine hrest.goTo_empty ?_ (fun t ht => Or.inl (hi.scanned_all hw (by simp) rfl ht))
    fun t => by cases task <;> rfl
  cases task with
  | full => exact ⟨rfl, fun t ht => ht⟩
  | sliders fxType fxId =>
    obtain ⟨b, hb, rfl, rfl⟩ := hi.queue fxType fxId (hq ▸ List.mem_cons_self)
    intro b' hb' ht hid hfx heq
    obtain rfl := World.block_eq_of_id hb.block.mem hb'.block.mem ht hid
    exact ensures_slidersFor hb' hfx heq none

/-- The next type is begun, or there is none. -/
theorem Inv.refreshing (hi : Inv m h) {types : List String} (hw : h.worker = .refreshing types) (now : Nat) :
    Inv m (h.work m now) := by
  have hworker := hi.worker
  rw [hw] at hworker
  obtain ⟨-, htypes⟩ := hworker
  unfold Host.work
  rw [hw]
  cases types with
  | nil => exact hi.goTo_empty rfl (fun t ht => Or.inl (hi.scanned_all hw (by simp) rfl ht)) fun _ => rfl
  | cons fxType types =>
    dsimp only
    split
    · next n hc =>
      refine hi.goTo_empty ⟨rfl, fun t ht => htypes t (List.mem_cons_of_mem _ ht), ?_⟩
        (fun t ht => hi.scanned_of_unread hw (by simp) (by rfl) ht) fun t => ?_
      · exact ⟨⟨n, hc, fun i hi => List.mem_range.1 hi, rfl⟩, fun fx hfx => absurd hfx List.not_mem_nil⟩
      · simp [Worker.out]
    · exact hi.died

/-- The next block is begun. -/
theorem Inv.nextBlock (hm : Loaded m) (hi : Inv m h) {types : List String} {fxType : String} {i : Nat}
    {left : List Nat} {out : List FxBlock} (hw : h.worker = .scanning types fxType (i :: left) out) (now : Nat) :
    Inv m (h.work m now) := by
  have hworker := hi.worker
  rw [hw] at hworker
  obtain ⟨-, htypes, ⟨n, hc, hleft, hids⟩, hframed⟩ := hworker
  unfold Host.work
  rw [hw]
  simp only [BlockSnapshot.normalizeBlock_eq hc]
  refine hi.goTo ⟨htypes, ⟨⟨n, hc, fun j hj => hleft j (List.mem_cons_of_mem i hj), hids⟩, hframed⟩, ?_⟩
    (fun t ht => hi.scanned_of_unread hw (by simp) (by rfl) ht)
    fun b setting e hs fx hfx hid value hvalue => ?_
  · intro b hb ht hid
    obtain ⟨b', hb', htype, hfxId⟩ := hm.block (hm.mem_fxTypes hc) hc (hleft i List.mem_cons_self)
    rw [hfxId] at hid ⊢
    obtain rfl := World.block_eq_of_id hb'.mem hb.block.mem (ht.trans htype.symm) hid
    rw [← ht]
    exact ensures_labels hb
  · exact Or.inr ⟨fx, by rw [hw]; exact hfx, hid, hvalue⟩

/-- The blocks read are recorded. -/
theorem Inv.record (hm : Loaded m) (hi : Inv m h) {types : List String} {fxType : String} {out : List FxBlock}
    (hw : h.worker = .scanning types fxType [] out) (now : Nat) :
    Inv m ((h.setState (h.g.state.recordScan fxType out now)).goTo (.refreshing types)) := by
  have hworker := hi.worker
  have hscanned := hi.scanned
  rw [hw] at hworker hscanned
  obtain ⟨-, htypes, hscan⟩ := hworker
  have hkeys (t : String) (ht : t = fxType ∨ t ∈ h.g.state.blocks.keys) :
      t ∈ (h.g.state.recordScan fxType out now).blocks.keys :=
    AList.mem_keys.1 ((AList.mem_insert _).2 (ht.imp_right AList.mem_keys.2))
  refine ⟨hi.state.recordScan hm hscan now, hi.queue, ⟨rfl, htypes⟩, fun t ht => ?_, fun b setting e hs => ?_⟩
  · rcases hscanned t ht with hkey | hleft | hdied
    · exact Or.inl (hkeys t (Or.inr hkey))
    · rcases List.mem_cons.1 hleft with hcurrent | hleft
      · exact Or.inl (hkeys t (Or.inl hcurrent))
      · exact Or.inr (Or.inl hleft)
    · cases hdied
  · refine (hi.follows b setting e hs).of_copies rfl rfl (fun value hvalue => ?_) ?_
    · rcases hvalue with hrecorded | heffect
      · by_cases ht : b.fxType = fxType
        · subst ht
          obtain ⟨fx, hfx, hvalue⟩ := Option.bind_eq_some_iff.1 hrecorded
          have hfind : out.find? (fun x => x.fxId.toStr == b.fxId.toStr) = some fx := by
            simpa [Host.goTo, Host.setState, PatchState.block] using hfx
          refine Or.inr (Or.inr ⟨fx, ?_, by simpa using List.find?_some hfind, hvalue⟩)
          rw [hw]
          simpa [Worker.out] using List.mem_of_find?_eq_some hfind
        · have hsame : (h.g.state.recordScan fxType out now).block b.fxType b.fxId.toStr =
              h.g.state.block b.fxType b.fxId.toStr := by
            simp [PatchState.block, AList.lookup_insert_ne ht]
          refine Or.inl (Or.inl ?_)
          rw [recordedOf, ← hsame]
          exact hrecorded
      · exact Or.inl (Or.inr heffect)
    · rintro value (⟨data, hmem, -⟩ | ⟨fx, hfx, -⟩)
      · cases hmem
      · cases hfx

/-- What is recorded of a setting, of a block that was just read, is what a reply about it shows. -/
theorem read_of_recorded (hs : Shown m b setting e) {log : List (Sigma Answer)} {fxId : StrOrInt}
    {state name : Option StrOrInt} {slider1 slider2 : Option SliderValue}
    (hlabels : LabelsRead m b log (state, name))
    (hsliders : b.fxType ≠ "fx" → b.fxType ≠ "eq" → SlidersRead m b log (slider1, slider2))
    {value : Option StrOrInt} (hvalue : recordedValue setting ⟨fxId, state, name, slider1, slider2⟩ = some value) :
    ∃ data, reply b e data ∈ log ∧ value = shownValue setting e data := by
  by_cases hlabel : ByLabel setting
  · rcases hlabel with rfl | rfl
    · obtain ⟨data, hmem, hstate⟩ := hlabels.state e hs
      exact ⟨data, hmem, (Option.some.inj hvalue).symm.trans hstate⟩
    · obtain ⟨data, hmem, hname⟩ := hlabels.name e hs
      exact ⟨data, hmem, (Option.some.inj hvalue).symm.trans hname⟩
  · obtain ⟨hfx, heq⟩ := (hs.recorded.resolve_left hlabel).ne
    obtain ⟨data, hmem, hslider⟩ := (hsliders hfx heq).value setting e hs hlabel
    rw [recordedValue_slider hlabel, hslider] at hvalue
    exact ⟨data, hmem, (Option.some.inj hvalue).symm⟩

/-- The name of a block is known; the name of an fx block's effect is recorded at once. -/
theorem Inv.named (hi : Inv m h) {types : List String} {fxType : String} {left : List Nat} {out : List FxBlock}
    {fxId : StrOrInt} {state name : Option StrOrInt}
    (hw : h.worker = .reading types fxType left out fxId (.labels (.ret (.ok (state, name))))) :
    Inv m { h.setState (BlockSnapshot.named h.g.state fxType fxId name) with
      worker := .reading types fxType left out fxId (.sliders state name (slidersFor m fxType fxId name)) } := by
  have hworker := hi.worker
  rw [hw] at hworker
  obtain ⟨htypes, hscan, hpass⟩ := hworker
  have hblocks : (BlockSnapshot.named h.g.state fxType fxId name).blocks = h.g.state.blocks :=
    BlockSnapshot.named_blocks name
  refine ⟨hi.state.congr (BlockSnapshot.named_fxTypes name) hblocks, hi.queue, ⟨htypes, hscan, ?_⟩, fun t ht => ?_,
    fun b setting e hs => ?_⟩
  · intro b hb ht hid
    refine ⟨hpass b hb ht hid, fun hfx heq => ?_⟩
    obtain ⟨n, hc, -, hids⟩ := hscan.ids
    have hmem : fxId ∈ (List.range n).map fun i : Nat => AddressMap.normalId n fxType (.int (i + 1)) := by
      rw [← hids]
      simp
    obtain ⟨i, hlt, hi'⟩ := List.mem_map.1 hmem
    obtain ⟨b', hb', htype, hfxId⟩ := hb.block.1.block (hb.block.1.mem_fxTypes hc) hc (List.mem_range.1 hlt)
    rw [← hi', hfxId] at hid ⊢
    obtain rfl := World.block_eq_of_id hb'.mem hb.block.mem (ht.trans htype.symm) hid
    rw [← ht]
    exact ensures_slidersFor hb hfx heq name
  · exact Or.imp_left (fun hkey => hblocks ▸ hkey) (hi.scanned_of_unread hw (by simp) (by rfl) ht)
  · refine (hi.follows b setting e hs).of_copies rfl rfl (fun value hvalue => ?_) fun value hvalue => Or.inl ?_
    · rcases hvalue with hrecorded | ⟨hfx, rfl, heffect⟩
      · refine Or.inl (Or.inl ?_)
        simpa only [recordedOf, PatchState.block, Host.setState, hblocks] using hrecorded
      · by_cases hsame : fxType = "fx" ∧ b.fxId.toStr = fxId.toStr
        · obtain ⟨rfl, hid⟩ := hsame
          obtain ⟨data, hmem, hname⟩ := (hpass b hs.toSwitched hfx hid).name e hs
          refine Or.inr (Or.inl ⟨data, hmem, ?_⟩)
          have hvalue : name = value := by
            simpa [effectOf, Host.setState, BlockSnapshot.named, ← hid] using heffect
          exact hvalue.symm.trans hname
        · refine Or.inl (Or.inr ⟨hfx, rfl, ?_⟩)
          by_cases hft : fxType = "fx"
          · have hid : b.fxId.toStr ≠ fxId.toStr := fun hid => hsame ⟨hft, hid⟩
            simpa [effectOf, Host.setState, BlockSnapshot.named, hft, AList.lookup_insert_ne hid] using heffect
          · simpa [effectOf, Host.setState, BlockSnapshot.named, hft] using heffect
    · rcases hvalue with hread | ⟨fx, hfx, hid, hvalue⟩
      · exact Or.inl hread
      · exact Or.inr ⟨fx, by rw [hw]; exact hfx, hid, hvalue⟩

/-- A block has been read. -/
theorem Inv.block (hi : Inv m h) {types : List String} {fxType : String} {left : List Nat} {out : List FxBlock}
    {fxId : StrOrInt} {state name : Option StrOrInt} {slider1 slider2 : Option SliderValue}
    (hw : h.worker = .reading types fxType left out fxId
      (.sliders state name (.ret (.ok (slider1, slider2))))) :
    Inv m (h.goTo (.scanning types fxType left (out ++ [⟨fxId, state, name, slider1, slider2⟩]))) := by
  have hworker := hi.worker
  rw [hw] at hworker
  obtain ⟨htypes, ⟨⟨n, hc, hleft, hids⟩, hframed⟩, hpass⟩ := hworker
  refine hi.goTo ⟨rfl, htypes, ⟨n, hc, hleft, by simpa using hids⟩, ?_⟩
    (fun t ht => hi.scanned_of_unread hw (by simp) (by rfl) ht)
    fun b setting e hs fx hfx hid value hvalue => ?_
  · intro fx hfx b hb ht hid
    rcases List.mem_append.1 hfx with hold | hnew
    · exact hframed fx hold b hb ht hid
    · obtain rfl := List.mem_singleton.1 hnew
      obtain ⟨hlabels, hsliders⟩ := hpass b hb ht hid.symm
      exact ⟨fun hfx heq => (hsliders hfx heq).first, fun hfx heq => (hsliders hfx heq).second, hlabels.noType⟩
  · by_cases ht : fxType = b.fxType
    · simp only [Worker.out, if_pos ht] at hfx
      rcases List.mem_append.1 hfx with hold | hnew
      · exact Or.inr ⟨fx, by rw [hw]; simpa [Worker.out, ht] using hold, hid, hvalue⟩
      · obtain rfl := List.mem_singleton.1 hnew
        obtain ⟨hlabels, hsliders⟩ := hpass b hs.toSwitched ht.symm hid.symm
        exact Or.inl (read_of_recorded hs hlabels hsliders hvalue)
    · simp only [Worker.out, if_neg ht] at hfx
      cases hfx

/-- The sliders of a block have been read again. -/
theorem Inv.setSliders (hi : Inv m h) {fxType : String} {fxId : StrOrInt} {slider1 slider2 : Option SliderValue}
    (hw : h.worker = .resolving fxType fxId (.ret (.ok (slider1, slider2)))) {state : PatchState}
    (hset : h.g.state.setSliders fxType fxId slider1 slider2 = .ok state) :
    Inv m ((h.setState state).goTo .idle) := by
  have hworker := hi.worker
  rw [hw] at hworker
  have hidle (t : String) (ht : t ∈ fxTypes) : t ∈ h.g.state.blocks.keys := hi.scanned_all hw (by simp) rfl ht
  rcases PatchState.setSliders_cases hset with rfl | ⟨pre, fx, post, hl, hid, hpre, rfl⟩
  · exact hi.goTo_empty rfl (fun t ht => Or.inl (hidle t ht)) fun _ => rfl
  rw [← hid] at hpre
  have hsameId : ({ fx with slider1, slider2 } : FxBlock).fxId = fx.fxId := rfl
  refine ⟨hi.state.replaced hl hsameId (fun b hb ht hxid hframed => ?_) rfl rfl, hi.queue, rfl, fun t ht => ?_,
    fun b setting e hs => ?_⟩
  · have hsliders := hworker b hb ht (hxid.symm.trans hid)
    exact ⟨fun hfx heq => SlidersRead.first (hsliders hfx heq),
      fun hfx heq => SlidersRead.second (hsliders hfx heq), hframed.name⟩
  · exact Or.inl (AList.mem_keys.1 ((AList.mem_insert _).2 (Or.inr (AList.mem_keys.2 (hidle t ht)))))
  · refine (hi.follows b setting e hs).of_copies rfl rfl (fun value hvalue => ?_) ?_
    · rcases hvalue with hrecorded | heffect
      · rw [recordedOf] at hrecorded
        simp only [Host.goTo, Host.setState] at hrecorded
        rw [PatchState.block_replaced hl hsameId hpre] at hrecorded
        split at hrecorded
        · next hsame =>
          obtain ⟨ht, hbid⟩ := hsame
          by_cases hlabel : ByLabel setting
          · refine Or.inl (Or.inl ?_)
            rw [recordedOf, ht, hbid, PatchState.block_of_split hl hpre]
            rcases hlabel with rfl | rfl <;> exact hrecorded
          · obtain ⟨hfx, heq⟩ := (hs.recorded.resolve_left hlabel).ne
            have hsliders := hworker b hs.toSwitched ht (hbid.trans hid) hfx heq
            obtain ⟨data, hmem, hslider⟩ := SlidersRead.value hsliders setting e hs hlabel
            refine Or.inr (Or.inl ⟨data, hmem, ?_⟩)
            rw [Option.bind_some, recordedValue_slider hlabel, hslider] at hrecorded
            exact (Option.some.inj hrecorded).symm
        · exact Or.inl (Or.inl hrecorded)
      · exact Or.inl (Or.inr heffect)
    · rintro value (⟨data, hmem, -⟩ | ⟨fx, hfx, -⟩)
      · cases hmem
      · cases hfx

theorem Inv.work (hm : Loaded m) (hi : Inv m h) (now : Nat) : Inv m (h.work m now) := by
  have hworker := hi.worker
  cases hw : h.worker with
  | idle =>
    cases hq : h.g.queue with
    | nil => simpa only [Host.work, hw, hq] using hi
    | cons task queue => simpa only [Host.work, hw, hq] using hi.pop hw hq
  | refreshing types => exact hi.refreshing hw now
  | scanning types fxType left out =>
    cases left with
    | nil => simpa only [Host.work, hw] using hi.record hm hw now
    | cons i left => exact hi.nextBlock hm hw now
  | reading types fxType left out fxId pass =>
    rw [hw] at hworker
    obtain ⟨htypes, hscan, hpass⟩ := hworker
    cases pass with
    | labels prog =>
      rcases prog with (e | ⟨state, name⟩) | ⟨q, k⟩
      · simpa only [Host.work, hw] using hi.died
      · simpa only [Host.work, hw] using hi.named hw
      · simp only [Host.work, hw]
        refine hi.asked ⟨htypes, hscan, fun b hb ht hid => ?_⟩ (by rw [hw]; rfl) (by simp [hw])
          fun t => by rw [hw]; rfl
        exact hpass b hb ht hid (h.answer q) (hi.told q)
    | sliders state name prog =>
      rcases prog with (e | ⟨slider1, slider2⟩) | ⟨q, k⟩
      · simpa only [Host.work, hw] using hi.died
      · simpa only [Host.work, hw] using hi.block hw
      · simp only [Host.work, hw]
        refine hi.asked ⟨htypes, hscan, fun b hb ht hid => ?_⟩ (by rw [hw]; rfl) (by simp [hw])
          fun t => by rw [hw]; rfl
        obtain ⟨hlabels, hsliders⟩ := hpass b hb ht hid
        exact ⟨hlabels.mono (List.subset_append_left _ _),
          fun hfx heq => hsliders hfx heq (h.answer q) (hi.told q)⟩
  | resolving fxType fxId prog =>
    rw [hw] at hworker
    rcases prog with (e | ⟨slider1, slider2⟩) | ⟨q, k⟩
    · simpa only [Host.work, hw] using hi.died
    · cases hset : h.g.state.setSliders fxType fxId slider1 slider2 with
      | ok state => simpa only [Host.work, hw, hset] using hi.setSliders hw hset
      | error e => simpa only [Host.work, hw, hset] using hi.died
    · simp only [Host.work, hw]
      refine hi.asked (fun b hb ht hid hfx heq => ?_) (by rw [hw]; rfl) (by simp [hw]) fun t => by rw [hw]; rfl
      exact hworker b hb ht hid hfx heq (h.answer q) (hi.told q)
  | died => simpa only [Host.work, hw] using hi

/-- One step keeps every copy following, if it loses nothing. -/
theorem Inv.step (hm : Loaded m) (hi : Inv m h) (act : Act) (hok : Undisturbed m h act) :
    Inv m (step m h act) := by
  cases act with
  | change address data =>
    exact ⟨hi.state, hi.queue, hi.worker, hi.scanned,
      fun b setting e hs => (hi.follows b setting e hs).change hs hok⟩
  | deliver now => exact hi.deliver hm hok
  | work now => exact hi.work hm now

theorem inv_start {memory : List Nat → List Nat} (hmemory : Fitting m memory) : Inv m (start memory) := by
  refine ⟨⟨PatchState.known_fresh, nofun, nofun⟩, nofun, ⟨rfl, fun t ht => ht⟩,
    fun t ht => Or.inr (Or.inl ht), fun b setting e hs => ⟨hmemory b setting e hs, rfl, ?_, ?_⟩⟩
  · rintro value (hrecorded | ⟨-, -, heffect⟩)
    · cases hrecorded
    · cases heffect
  · rintro value (⟨data, hmem, -⟩ | ⟨fx, hfx, -⟩)
    · cases hmem
    · cases hfx

end

end Pygt1000.Mirror
