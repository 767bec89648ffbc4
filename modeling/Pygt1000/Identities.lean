import Pygt1000.Negotiation
import Pygt1000.TopBlocks

/-!
# What an identity reply changes in the facade (`gt1000.py:262-274`)

| here | there |
| --- | --- |
| `Facade`        | `self.model`, unset until a model is known, and the address map |
| `applyIdentity` | `_apply_identity` (`gt1000.py:262-274`) |
| `step`          | a step of the link, whose identity callback is `applyIdentity` (`device_link.py:144-151`) |

The callback is called for a reply that comes in while the id is the broadcast id, and for no other:
which replies these are, the messages alone decide (`heeded`). After any run, whatever exchanges are
under way, the model is the last one such a reply names, and there are three fx blocks exactly if one
of them names the GT-1000CORE (`identified_run`): the map is one of the two that `Loaded` allows.
-/

namespace Pygt1000.Identity

open DeviceLink (Link Call Act replies announced)

structure Facade where
  model : Option String
  map : AddressMap

/-- `_apply_identity` (`:262-274`). -/
def applyIdentity (f : Facade) (reply : IdentityReply) : Facade :=
  let f := if reply.model.isSome = true then { f with model := reply.model } else f
  if reply.model = some "GT-1000CORE" then { f with map := f.map.setFxBlockCount "fx" 3 } else f

structure Host where
  link : Link
  facade : Facade

variable (calls : Nat → Call) (retryCount : Nat)

def step (h : Host) (act : Act) : Host :=
  ⟨DeviceLink.step calls retryCount h.link act, (announced h.link act).foldl applyIdentity h.facade⟩

/-- Connected to nothing yet. -/
def start : Host := ⟨DeviceLink.fresh deviceIdBcast, ⟨none, addressMap⟩⟩

/-- The replies up to the first that carries another id than the broadcast id. -/
def upToOwn : List IdentityReply → List IdentityReply
  | [] => []
  | reply :: rest => if reply.deviceId = deviceIdBcast then reply :: upToOwn rest else [reply]

/-- The identity replies of a run that count. -/
def heeded (acts : List Act) : List IdentityReply := upToOwn (replies acts)

variable {calls retryCount}

/-! ## The replies that count -/

theorem outputs_announced (s : Link) (acts : List Act) :
    Runs.outputs (DeviceLink.step calls retryCount) announced s acts =
      if s.deviceId = deviceIdBcast then heeded acts else [] := by
  induction acts generalizing s with
  | nil => simp [Runs.outputs, heeded, replies, upToOwn]
  | cons act acts ih =>
    rw [Runs.outputs, ih]
    cases act with
    | advance i =>
      have hid : (DeviceLink.step calls retryCount s (.advance i)).deviceId = s.deviceId :=
        DeviceLink.advance_deviceId s i
      simp [announced, hid, heeded, replies]
    | receive message =>
      have hid : (DeviceLink.step calls retryCount s (.receive message)).deviceId =
          (announced s (.receive message)).foldl (fun _ reply => reply.deviceId) s.deviceId :=
        (DeviceLink.onReceive_identity s message).1
      rw [hid]
      by_cases hb : s.deviceId = deviceIdBcast
      · cases hp : parseIdentityReply message with
        | none => simp [announced, hb, hp, heeded, replies]
        | some reply =>
          by_cases hown : reply.deviceId = deviceIdBcast
          · simp [announced, hb, hp, hown, heeded, replies, upToOwn]
          · simp [announced, hb, hp, hown, heeded, replies, upToOwn]
      · simp [announced, hb]

theorem run_facade (h : Host) (acts : List Act) :
    (Runs.run (step calls retryCount) h acts).facade =
      (Runs.outputs (DeviceLink.step calls retryCount) announced h.link acts).foldl applyIdentity h.facade := by
  induction acts generalizing h with
  | nil => rfl
  | cons act acts ih =>
    rw [Runs.run_cons, ih, Runs.outputs, List.foldl_append]
    rfl

/-! ## What they come to -/

theorem setFxBlockCount_twice (m : AddressMap) (fxType : String) (n : Nat) :
    (m.setFxBlockCount fxType n).setFxBlockCount fxType n = m.setFxBlockCount fxType n := by
  simp [AddressMap.setFxBlockCount]

theorem model_foldl (f : Facade) (rs : List IdentityReply) :
    (rs.foldl applyIdentity f).model = (rs.reverse.findSome? (·.model)).or f.model := by
  induction rs using List.reverseRecOn with
  | nil => rfl
  | append_singleton rs reply ih =>
    rw [List.foldl_append, List.foldl_cons, List.foldl_nil, List.reverse_append]
    cases hmodel : reply.model with
    | none => simp [applyIdentity, hmodel, ih]
    | some model =>
      simp only [applyIdentity, hmodel, Option.isSome_some, if_true]
      split <;> simp [hmodel]

theorem map_foldl (f : Facade) (rs : List IdentityReply) :
    (rs.foldl applyIdentity f).map =
      if ∃ reply ∈ rs, reply.model = some "GT-1000CORE" then f.map.setFxBlockCount "fx" 3 else f.map := by
  induction rs generalizing f with
  | nil => simp
  | cons reply rs ih =>
    rw [List.foldl_cons, ih]
    by_cases hcore : reply.model = some "GT-1000CORE"
    · simp [applyIdentity, hcore, setFxBlockCount_twice]
    · have hmap : (applyIdentity f reply).map = f.map := by
        simp only [applyIdentity, if_neg hcore]
        split <;> rfl
      simp [hcore, hmap]

/-- **The map is loaded in every run**, for the unit that the replies that count name. -/
theorem identified_run (acts : List Act) :
    let facade := (Runs.run (step calls retryCount) start acts).facade
    Loaded facade.map ∧ facade.model = (heeded acts).reverse.findSome? (·.model) ∧
      facade.map.fxBlockCount "fx" =
        .ok (if ∃ reply ∈ heeded acts, reply.model = some "GT-1000CORE" then 3 else 4) := by
  intro facade
  have hfacade : facade = (heeded acts).foldl applyIdentity ⟨none, addressMap⟩ := by
    have hrun : facade = (Runs.outputs (DeviceLink.step calls retryCount) announced
        (DeviceLink.fresh deviceIdBcast) acts).foldl applyIdentity ⟨none, addressMap⟩ := run_facade start acts
    rw [hrun, outputs_announced]
    rfl
  have hmap := map_foldl ⟨none, addressMap⟩ (heeded acts)
  rw [hfacade, hmap]
  refine ⟨?_, ?_, ?_⟩
  · split
    · exact Or.inr rfl
    · exact Or.inl rfl
  · rw [model_foldl, Option.or_none]
  · split
    · simp [AddressMap.fxBlockCount, AddressMap.setFxBlockCount]
    · exact fxBlockCount_fx

end Pygt1000.Identity
