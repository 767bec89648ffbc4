import Pygt1000.EditorSession
import Pygt1000.Framing
import Pygt1000.WriteRead

/-!
# The link and the unit

What the link knows of the unit comes and goes in messages. Here the unit is put behind it: it takes
what was sent in its order, keeps the data of a DT1 and answers an RQ1 with what is there then
(`take`); its memory changes under its own knobs as well (`turn`), and it may send whatever it likes
(`say`). What it has sent waits until the link gets it (`deliver`), in its order too.

Between a request and its reply all of this goes on, and still:

* an exchange that had no old frame on its way to it returns what the unit held at its address at
  some moment since, as long as what the unit says of its memory is true (`read_is_current`);
* what was written is what is read, from then on until something else is written there
  (`write_then_read`).
-/

namespace Pygt1000.LinkedUnit

open DeviceLink (Call Link Pc)

/-! ## What is said in a message -/

def requestHeader (deviceId : Nat) : List Nat :=
  sysexStart ++ manufacturerId ++ [deviceId] ++ modelId ++ rq1CommandId

/-- The address and the length that an RQ1 asks for. -/
def asked? (deviceId : Nat) (message : List Nat) : Option (List Nat × List Nat) :=
  if message.length = 18 ∧ message.take 8 = requestHeader deviceId then
    some ((message.drop 8).take 4, (message.drop 12).take 4)
  else none

/-- The address and the data of a data frame, whoever it is for. -/
def said? (message : List Nat) : Option (List Nat × List Nat) :=
  parseDataReply (message.getD 2 0) message

theorem said_of_parse {deviceId : Nat} {message : List Nat} {x : List Nat × List Nat}
    (h : parseDataReply deviceId message = some x) : said? message = some x := by
  obtain ⟨hhead, -⟩ := parseDataReply_some h
  have hid : message.getD 2 0 = deviceId := by
    have hthird : (message.take 8).getD 2 0 = deviceId := by rw [hhead]; rfl
    simpa [List.getD_eq_getElem?_getD, List.getElem?_take] using hthird
  rw [said?, hid, h]

theorem said_encodeDt1 (deviceId : Nat) {address : List Nat} (data : List Nat) (h : address.length = 4) :
    said? (encodeDt1 deviceId (address ++ data) none) = some (address, data) :=
  said_of_parse (parseDataReply_encodeDt1 deviceId data h)

theorem asked_length {deviceId : Nat} {message address length : List Nat}
    (h : asked? deviceId message = some (address, length)) : address.length = 4 := by
  unfold asked? at h
  split at h
  · next hlen =>
    obtain ⟨rfl, -⟩ := Prod.mk.inj (Option.some.inj h)
    rw [List.length_take, List.length_drop]
    omega
  · cases h

/-! ## The world -/

structure World (ι : Type) where
  link : Link
  /-- How many of the messages sent the unit has taken. -/
  taken : Nat
  memory : ι → Nat
  /-- What the unit has sent and the link has not got yet, the oldest first. -/
  inbound : List (List Nat)

inductive Act (ι : Type) where
  | advance (i : Nat)
  /-- `set` (`device_link.py:96-101`). -/
  | set (addressValue : List Nat)
  | take
  | turn (memory : ι → Nat)
  | say (message : List Nat)
  | deliver

section

variable {ι : Type} [DecidableEq ι] (cell : List Nat → Nat → ι) (unit : Nat) (calls : Nat → Call)
  (retryCount : Nat)

/-- What the unit holds at an address. -/
def held (memory : ι → Nat) (address : List Nat) (width : Nat) : List Nat :=
  Cells.fetch (cell address) width memory

/-- The unit takes a message. -/
def answer (w : World ι) (message : List Nat) : World ι :=
  match asked? unit message with
  | some (address, length) =>
    let reply := encodeDt1 unit (address ++ held cell w.memory address (BigEndian.value 128 length)) none
    { w with inbound := w.inbound ++ [reply] }
  | none => { w with memory := stored cell unit w.memory message }

def step (w : World ι) : Act ι → World ι
  | .advance i => { w with link := DeviceLink.advance calls retryCount w.link i }
  | .set addressValue =>
    { w with link := DeviceLink.send w.link (encodeDt1 w.link.deviceId addressValue none) }
  | .take =>
    match w.link.sent[w.taken]? with
    | some message => answer cell unit { w with taken := w.taken + 1 } message
    | none => w
  | .turn memory => { w with memory := memory }
  | .say message => { w with inbound := w.inbound ++ [message] }
  | .deliver =>
    match w.inbound with
    | [] => w
    | message :: rest => { w with link := DeviceLink.onReceive w.link message, inbound := rest }

abbrev run (w : World ι) (acts : List (Act ι)) : World ι := Runs.run (step cell unit calls retryCount) w acts

/-- What the unit says of its memory on its own is what it holds then. -/
def Truthful (w : World ι) : Act ι → Prop
  | .say message => ∀ x ∈ said? message, x.2 = held cell w.memory x.1 x.2.length
  | _ => True

end

/-- Nothing of what is on its way is about the address. -/
def Quiet {ι : Type} (address : List Nat) (w : World ι) : Prop :=
  ∀ message ∈ w.inbound, (said? message).map Prod.fst ≠ some address

/-- Its key is not registered yet. -/
def ahead : Pc → Bool
  | .start | .framed _ => true
  | _ => false

/-! ## What is read is what is there -/

section

variable {ι : Type} [DecidableEq ι] {cell : List Nat → Nat → ι} {unit : Nat} {calls : Nat → Call}
  {retryCount : Nat} {w : World ι} {S : List Nat → Prop} {i : Nat}

omit [DecidableEq ι] in
@[simp] theorem length_held (memory : ι → Nat) (address : List Nat) (width : Nat) :
    (held cell memory address width).length = width := by
  simp [held, Cells.fetch]

/-- What is on its way to exchange `i`, and what has come for it, meets `S`. -/
structure Supplied (S : List Nat → Prop) (calls : Nat → Call) (i : Nat) (w : World ι) : Prop where
  inbound : ∀ message ∈ w.inbound, ∀ data, said? message = some ((calls i).address, data) → S data
  link : DeviceLink.Sound (fun j data => j = i → S data) calls w.link

omit [DecidableEq ι] in
theorem Supplied.mono {S' : List Nat → Prop} (h : Supplied S calls i w) (hS : ∀ data, S data → S' data) :
    Supplied S' calls i w :=
  ⟨fun message hmem data hsaid => hS data (h.inbound message hmem data hsaid),
    h.link.mono fun _ data hj hji => hS data (hj hji)⟩

omit [DecidableEq ι] in
theorem Supplied.send (h : Supplied S calls i w) {message : List Nat} (hm : ∀ data,
    said? message = some ((calls i).address, data) → S data) :
    Supplied S calls i { w with inbound := w.inbound ++ [message] } := by
  refine ⟨fun m hmem data hsaid => ?_, h.link⟩
  rcases List.mem_append.1 hmem with hmem | hmem
  · exact h.inbound m hmem data hsaid
  · obtain rfl := List.mem_singleton.1 hmem
    exact hm data hsaid

/-- The unit's answers are of its memory. -/
theorem Supplied.answer (h : Supplied S calls i w) {message : List Nat}
    (hm : ∀ width, asked? unit message = some ((calls i).address, width) →
      S (held cell w.memory (calls i).address (BigEndian.value 128 width))) :
    Supplied S calls i (answer cell unit w message) := by
  unfold LinkedUnit.answer
  split
  · next address length hasked =>
    refine h.send fun data hsaid => ?_
    rw [said_encodeDt1 unit _ (asked_length hasked), Option.some.injEq, Prod.mk.injEq] at hsaid
    obtain ⟨rfl, rfl⟩ := hsaid
    exact hm length hasked
  · exact ⟨h.inbound, h.link⟩

theorem Supplied.deliver (h : Supplied S calls i w) :
    Supplied S calls i (step cell unit calls retryCount w .deliver) := by
  simp only [LinkedUnit.step]
  split
  · exact h
  · next message rest hinbound =>
    have hmem : message ∈ w.inbound := hinbound ▸ List.mem_cons_self
    refine ⟨fun m hm => h.inbound m (hinbound ▸ List.mem_cons_of_mem message hm), ?_⟩
    refine h.link.onReceive fun j data hparse _ hji => ?_
    subst hji
    exact h.inbound message hmem data (said_of_parse hparse)

/-- A step adds nothing to it but what is in the memory. -/
theorem Supplied.step (h : Supplied S calls i w) {act : Act ι} (htrue : Truthful cell w act)
    (hS : ∀ width, S (held cell w.memory (calls i).address width)) :
    Supplied S calls i (step cell unit calls retryCount w act) := by
  cases act with
  | advance j => exact ⟨h.inbound, h.link.advance j⟩
  | set addressValue => exact ⟨h.inbound, h.link.slot, h.link.held⟩
  | take =>
    simp only [LinkedUnit.step]
    split
    · have h' : Supplied S calls i { w with taken := w.taken + 1 } := ⟨h.inbound, h.link⟩
      exact h'.answer fun width _ => hS _
    · exact h
  | turn memory => exact ⟨h.inbound, h.link⟩
  | say message =>
    refine h.send fun data hsaid => ?_
    have hheld : data = held cell w.memory (calls i).address data.length := htrue _ hsaid
    rw [hheld]
    exact hS _
  | deliver => exact h.deliver

omit [DecidableEq ι] in
theorem supplied_of_quiet (hquiet : Quiet (calls i).address w) (hahead : ahead (w.link.pc i) = true) :
    Supplied S calls i w := by
  refine ⟨fun message hmem data hsaid => ?_, fun j data hj _ hji => ?_, fun j data hj hji => ?_⟩
  · exact absurd (congrArg (Option.map Prod.fst) hsaid) (hquiet message hmem)
  · subst hji
    cases hpc : w.link.pc j <;> simp [hpc, ahead, Pc.awaiting] at hahead hj
  · subst hji
    rcases hj with hj | hj <;> simp [hj, ahead] at hahead

/-- The unit held `data` at the address at some moment of the run. -/
def HeldDuring (cell : List Nat → Nat → ι) (unit : Nat) (calls : Nat → Call) (retryCount : Nat) (w : World ι)
    (acts : List (Act ι)) (address data : List Nat) : Prop :=
  ∃ pre post, acts = pre ++ post ∧
    data = held cell (run cell unit calls retryCount w pre).memory address data.length

theorem supplied_run {acts : List (Act ι)} (hquiet : Quiet (calls i).address w)
    (hahead : ahead (w.link.pc i) = true)
    (htrue : Runs.Guarded (step cell unit calls retryCount) (Truthful cell) w acts) :
    Supplied (HeldDuring cell unit calls retryCount w acts (calls i).address) calls i
      (run cell unit calls retryCount w acts) := by
  refine Runs.invariant_history
    (I := fun as t => Supplied (HeldDuring cell unit calls retryCount w as (calls i).address) calls i t)
    (supplied_of_quiet hquiet hahead) (fun as a hok hI => ?_) htrue
  have hnow : ∀ width, HeldDuring cell unit calls retryCount w as (calls i).address
      (held cell (run cell unit calls retryCount w as).memory (calls i).address width) :=
    fun width => ⟨as, [], (List.append_nil as).symm, by rw [length_held]⟩
  refine (hI.step hok hnow).mono ?_
  rintro data ⟨pre, post, rfl, hheld⟩
  exact ⟨pre, post ++ [a], List.append_assoc .., hheld⟩

/-- **A read is current**: data that an exchange returns is what the unit held at its address at some
moment since the exchange was not yet registered and nothing was on its way for that address. -/
theorem read_is_current {acts : List (Act ι)} (hquiet : Quiet (calls i).address w)
    (hahead : ahead (w.link.pc i) = true)
    (htrue : Runs.Guarded (step cell unit calls retryCount) (Truthful cell) w acts) {data : List Nat}
    (hdata : (run cell unit calls retryCount w acts).link.pc i = .returned (some data)) :
    HeldDuring cell unit calls retryCount w acts (calls i).address data :=
  (supplied_run hquiet hahead htrue).link.held i data (.inr hdata) rfl

/-- The knob is turned to 7 before the unit takes the request and to 9 before its answer arrives. -/
theorem read_is_current_turned :
    let cell address j := bytesToInt address + j
    let calls := fun _ : Nat => Call.request [0x10, 0, 0, 1] [0, 0, 0, 1] none
    let start : World Nat := ⟨DeviceLink.fresh 0x10, 0, fun _ => 5, []⟩
    let acts : List (Act Nat) := [.advance 0, .advance 0, .turn fun _ => 7, .advance 0, .take,
      .turn fun _ => 9, .deliver, .advance 0, .advance 0]
    (run cell 0x10 calls 1 start acts).link.pc 0 = .returned (some [7]) ∧
      HeldDuring cell 0x10 calls 1 start acts [0x10, 0, 0, 1] [7] := by
  intro cell calls start acts
  have hdata : (run cell 0x10 calls 1 start acts).link.pc 0 = .returned (some [7]) := by decide
  have htrue : Runs.Guarded (step cell 0x10 calls 1) (Truthful cell) start acts := by
    simp [acts, Runs.Guarded, Truthful]
  have hquiet : Quiet (calls 0).address start := by simp [Quiet, start]
  exact ⟨hdata, read_is_current (i := 0) hquiet rfl htrue hdata⟩

/-- Where the unit's content did not change meanwhile, the exchange returns what `answering` says. -/
theorem read_is_answering {acts : List (Act ι)} (ha : (calls i).address.length = 4)
    (hquiet : Quiet (calls i).address w) (hahead : ahead (w.link.pc i) = true)
    (htrue : Runs.Guarded (step cell unit calls retryCount) (Truthful cell) w acts) {data : List Nat}
    (hsteady : ∀ pre, pre <+: acts →
      held cell (run cell unit calls retryCount w pre).memory (calls i).address data.length =
        held cell w.memory (calls i).address data.length)
    (hdata : (run cell unit calls retryCount w acts).link.pc i = .returned (some data)) :
    answering cell unit w.memory (calls i).address [0, 0, 0, data.length] = some data := by
  obtain ⟨pre, post, hacts, hheld⟩ :=
    (supplied_run hquiet hahead htrue).link.held i data (.inr hdata) rfl
  have hsame := hsteady pre ⟨post, hacts.symm⟩
  rw [answering_eq ha, ← held, ← hsame, ← hheld]

/-! ## What was written is what is read -/

variable {address data : List Nat} {k : Nat} {act : Act ι}

theorem asked_encodeDt1 (deviceId deviceId' : Nat) (payload : List Nat) :
    asked? deviceId (encodeDt1 deviceId' payload none) = none := by
  have hhead : (encodeDt1 deviceId' payload none).take 8 ≠ requestHeader deviceId := by
    rw [take_encodeDt1]
    simp [dataReplyHeader, requestHeader, dt1CommandId, rq1CommandId, manufacturerId, modelId, sysexStart]
  rw [asked?, if_neg fun h => hhead h.2]

theorem sent_advance (s : Link) (j : Nat) : ∃ l, (DeviceLink.advance calls retryCount s j).sent = s.sent ++ l := by
  have hnone : s.sent = s.sent ++ [] := (List.append_nil _).symm
  unfold DeviceLink.advance
  split
  · exact ⟨[], hnone⟩
  · exact ⟨[], hnone⟩
  · exact ⟨_, rfl⟩
  · unfold DeviceLink.poll
    split <;> exact ⟨[], hnone⟩
  · exact ⟨[], hnone⟩
  · exact ⟨[], hnone⟩
  · exact ⟨[], hnone⟩

theorem answer_link (w : World ι) (message : List Nat) : (answer cell unit w message).link = w.link := by
  unfold answer
  split <;> rfl

theorem answer_taken (w : World ι) (message : List Nat) : (answer cell unit w message).taken = w.taken := by
  unfold answer
  split <;> rfl

/-- What was sent stays, in its place. -/
theorem sent_step (w : World ι) (act : Act ι) :
    ∃ l, (step cell unit calls retryCount w act).link.sent = w.link.sent ++ l := by
  have hnone : w.link.sent = w.link.sent ++ [] := (List.append_nil _).symm
  cases act with
  | advance j => exact sent_advance w.link j
  | set addressValue => exact ⟨_, rfl⟩
  | take =>
    simp only [step]
    split
    · exact ⟨[], by rw [answer_link, List.append_nil]⟩
    · exact ⟨[], hnone⟩
  | turn memory => exact ⟨[], hnone⟩
  | say message => exact ⟨[], hnone⟩
  | deliver =>
    simp only [step]
    split
    · exact ⟨[], hnone⟩
    · exact ⟨[], by rw [EditorSession.onReceive_sent, List.append_nil]⟩

/-- The message sent as number `k` writes `data` at the address. Until the unit takes it, no message
asks for the address and nothing is on its way for it; from then on the data is there. -/
structure Written (unit : Nat) (cell : List Nat → Nat → ι) (address data : List Nat) (k : Nat) (w : World ι) : Prop where
  sent : w.link.sent[k]? = some (encodeDt1 unit (address ++ data) none)
  before : w.taken ≤ k → Quiet address w ∧
    ∀ n, w.taken ≤ n → n < k → ∀ message ∈ w.link.sent[n]?, (asked? unit message).map Prod.fst ≠ some address
  after : k < w.taken → held cell w.memory address data.length = data

/-- Once the data is there, nothing else changes it. What the unit says of the address on its own it
says when the data is there. -/
structure Undisturbed (cell : List Nat → Nat → ι) (unit : Nat) (calls : Nat → Call) (retryCount : Nat)
    (address : List Nat) (width k : Nat) (w : World ι) (act : Act ι) : Prop where
  truthful : Truthful cell w act
  memory : k < w.taken → held cell (step cell unit calls retryCount w act).memory address width =
    held cell w.memory address width
  said : ∀ message, act = .say message → (said? message).map Prod.fst = some address → k < w.taken

theorem Written.sent_step (h : Written unit cell address data k w) {n : Nat} (hn : n ≤ k) (act : Act ι) :
    (step cell unit calls retryCount w act).link.sent[n]? = w.link.sent[n]? := by
  have hlen : k < w.link.sent.length := (List.getElem?_eq_some_iff.1 h.sent).1
  obtain ⟨l, hl⟩ : ∃ l, (step cell unit calls retryCount w act).link.sent = w.link.sent ++ l :=
    LinkedUnit.sent_step w act
  rw [hl, List.getElem?_append_left (by omega)]

/-- The unit takes no message. -/
theorem Written.keep (h : Written unit cell address data k w)
    (hu : Undisturbed cell unit calls retryCount address data.length k w act)
    (htaken : (LinkedUnit.step cell unit calls retryCount w act).taken = w.taken)
    (hquiet : w.taken ≤ k → Quiet address w → Quiet address (LinkedUnit.step cell unit calls retryCount w act)) :
    Written unit cell address data k (LinkedUnit.step cell unit calls retryCount w act) := by
  refine ⟨(h.sent_step (Nat.le_refl k) act).trans h.sent, fun hle => ?_, fun hlt => ?_⟩
  · rw [htaken] at hle
    refine ⟨hquiet hle (h.before hle).1, fun n hn hnk message hmessage => ?_⟩
    rw [h.sent_step (Nat.le_of_lt hnk)] at hmessage
    exact (h.before hle).2 n (htaken ▸ hn) hnk message hmessage
  · rw [htaken] at hlt
    exact (hu.memory hlt).trans (h.after hlt)

/-- An answer to a request for another address. -/
theorem Quiet.answer (h : Quiet address w) {message : List Nat}
    (hm : (asked? unit message).map Prod.fst ≠ some address) : Quiet address (answer cell unit w message) := by
  unfold LinkedUnit.answer
  split
  · next a length hasked =>
    intro m hmem
    rcases List.mem_append.1 hmem with hmem | hmem
    · exact h m hmem
    · obtain rfl := List.mem_singleton.1 hmem
      rw [said_encodeDt1 unit _ (asked_length hasked)]
      simpa [hasked] using hm
  · exact h

theorem Written.take (h : Written unit cell address data k w) (ha : address.length = 4)
    (hcell : ∀ i < data.length, ∀ j < data.length, cell address i = cell address j → i = j)
    (hu : Undisturbed cell unit calls retryCount address data.length k w .take) :
    Written unit cell address data k (LinkedUnit.step cell unit calls retryCount w .take) := by
  cases hnext : w.link.sent[w.taken]? with
  | none =>
    have hsame : LinkedUnit.step cell unit calls retryCount w .take = w := by simp [LinkedUnit.step, hnext]
    rwa [hsame]
  | some message =>
    have hstep : LinkedUnit.step cell unit calls retryCount w .take =
        LinkedUnit.answer cell unit { w with taken := w.taken + 1 } message := by
      simp [LinkedUnit.step, hnext]
    have hmemory := hu.memory
    rw [hstep] at hmemory ⊢
    have hsent : (LinkedUnit.answer cell unit { w with taken := w.taken + 1 } message).link.sent = w.link.sent := by
      rw [answer_link]
    refine ⟨hsent ▸ h.sent, fun hle => ?_, fun hlt => ?_⟩
    · -- The write is still to come.
      rw [answer_taken] at hle
      dsimp only at hle
      obtain ⟨hquiet, hunasked⟩ := h.before (by omega)
      have hother := hunasked w.taken (Nat.le_refl _) (by omega) message hnext
      have hquiet' : Quiet address { w with taken := w.taken + 1 } := hquiet
      refine ⟨hquiet'.answer hother, fun n hn hnk m hm => ?_⟩
      rw [answer_taken] at hn
      dsimp only at hn
      exact hunasked n (by omega) hnk m (hsent ▸ hm)
    · rw [answer_taken] at hlt
      dsimp only at hlt
      by_cases hlast : w.taken = k
      · subst hlast
        obtain rfl : message = encodeDt1 unit (address ++ data) none :=
          Option.some.inj (hnext.symm.trans h.sent)
        rw [LinkedUnit.answer, asked_encodeDt1]
        dsimp only
        rw [stored_encodeDt1 ha, held, Cells.fetch_store hcell]
      · have hk : k < w.taken := by omega
        exact (hmemory hk).trans (h.after hk)

theorem Written.step (h : Written unit cell address data k w) (ha : address.length = 4)
    (hcell : ∀ i < data.length, ∀ j < data.length, cell address i = cell address j → i = j)
    (hu : Undisturbed cell unit calls retryCount address data.length k w act) :
    Written unit cell address data k (LinkedUnit.step cell unit calls retryCount w act) := by
  cases act with
  | advance j => exact h.keep hu rfl fun _ hquiet => hquiet
  | set addressValue => exact h.keep hu rfl fun _ hquiet => hquiet
  | take => exact h.take ha hcell hu
  | turn memory => exact h.keep hu rfl fun _ hquiet => hquiet
  | say message =>
    refine h.keep hu rfl fun hle hquiet m hmem => ?_
    rcases List.mem_append.1 hmem with hmem | hmem
    · exact hquiet m hmem
    · obtain rfl := List.mem_singleton.1 hmem
      intro hsaid
      exact absurd (hu.said m rfl hsaid) (by omega)
  | deliver =>
    have htaken : (LinkedUnit.step cell unit calls retryCount w .deliver).taken = w.taken := by
      simp only [LinkedUnit.step]
      split <;> rfl
    refine h.keep hu htaken fun _ hquiet m hmem => hquiet m ?_
    simp only [LinkedUnit.step] at hmem
    split at hmem
    · exact hmem
    · next hinbound => exact hinbound ▸ List.mem_cons_of_mem _ hmem

/-- What comes for the exchange is what was written, if it is as long. -/
theorem Supplied.written (hs : Supplied (fun d => d.length = data.length → d = data) calls i w)
    (h : Written unit cell (calls i).address data k w)
    (hu : Undisturbed cell unit calls retryCount (calls i).address data.length k w act) :
    Supplied (fun d => d.length = data.length → d = data) calls i
      (LinkedUnit.step cell unit calls retryCount w act) := by
  by_cases hk : k < w.taken
  · refine hs.step hu.truthful fun width hwidth => ?_
    rw [length_held] at hwidth
    rw [hwidth]
    exact h.after hk
  · -- Nothing is said of the address yet.
    cases act with
    | advance j => exact ⟨hs.inbound, hs.link.advance j⟩
    | set addressValue => exact ⟨hs.inbound, hs.link.slot, hs.link.held⟩
    | take =>
      simp only [LinkedUnit.step]
      split
      · next message hnext =>
        have h' : Supplied (fun d => d.length = data.length → d = data) calls i
            { w with taken := w.taken + 1 } := ⟨hs.inbound, hs.link⟩
        refine h'.answer fun width hasked => ?_
        by_cases hlast : w.taken = k
        · obtain rfl : message = encodeDt1 unit ((calls i).address ++ data) none :=
            Option.some.inj ((hlast ▸ hnext).symm.trans h.sent)
          rw [asked_encodeDt1] at hasked
          cases hasked
        · have hother := (h.before (by omega)).2 w.taken (Nat.le_refl _) (by omega) message hnext
          simp [hasked] at hother
      · exact hs
    | turn memory => exact ⟨hs.inbound, hs.link⟩
    | say message =>
      refine hs.send fun d hsaid => ?_
      exact absurd (hu.said message rfl (by rw [hsaid]; rfl)) hk
    | deliver => exact hs.deliver

/-- **What was written is what is read**: after `set` has sent a value for an address that no message
on its way asks for or speaks of, and while nothing else writes there, an exchange registered later
that returns as many bytes from the address returns those of the value, in whatever order the other
exchanges, the unit and its user step. -/
theorem write_then_read {acts : List (Act ι)} (ha : (calls i).address.length = 4)
    (hcell : ∀ m < data.length, ∀ n < data.length,
      cell (calls i).address m = cell (calls i).address n → m = n)
    (hid : w.link.deviceId = unit) (htaken : w.taken ≤ w.link.sent.length)
    (hquiet : Quiet (calls i).address w)
    (hunasked : ∀ message ∈ w.link.sent.drop w.taken,
      (asked? unit message).map Prod.fst ≠ some (calls i).address)
    (hahead : ahead (w.link.pc i) = true)
    (hundisturbed : Runs.Guarded (step cell unit calls retryCount)
      (Undisturbed cell unit calls retryCount (calls i).address data.length w.link.sent.length)
      (step cell unit calls retryCount w (.set ((calls i).address ++ data))) acts) {read : List Nat}
    (hread : (run cell unit calls retryCount w (.set ((calls i).address ++ data) :: acts)).link.pc i =
      .returned (some read)) (hlen : read.length = data.length) : read = data := by
  have hwritten : Written unit cell (calls i).address data w.link.sent.length
      (step cell unit calls retryCount w (.set ((calls i).address ++ data))) := by
    refine ⟨?_, fun _ => ⟨hquiet, fun n hn hnk message hmessage => ?_⟩, fun hlt => ?_⟩
    · simp [step, DeviceLink.send, hid]
    · have hold : w.link.sent[n]? = some message := by
        rw [← hmessage]
        exact (List.getElem?_append_left hnk).symm
      refine hunasked message (List.mem_of_getElem? (i := n - w.taken) ?_)
      have hn' : w.taken ≤ n := hn
      rw [List.getElem?_drop, Nat.add_sub_cancel' hn', hold]
    · exact absurd hlt (by simpa [step] using htaken)
  have hsupplied : Supplied (fun d => d.length = data.length → d = data) calls i
      (step cell unit calls retryCount w (.set ((calls i).address ++ data))) :=
    supplied_of_quiet hquiet hahead
  have hall := Runs.invariant (I := fun t => Written unit cell (calls i).address data w.link.sent.length t ∧
      Supplied (fun d => d.length = data.length → d = data) calls i t) ⟨hwritten, hsupplied⟩
    (fun t act hu hI => ⟨hI.1.step ha hcell hu, hI.2.written hI.1 hu⟩) hundisturbed
  exact hall.2.link.held i read (.inr hread) rfl hlen

/-- A value is set, and read while the request follows it to the unit. -/
theorem write_then_read_three :
    let cell address j := bytesToInt address + j
    let calls := fun _ : Nat => Call.request [0x10, 0, 0, 1] [0, 0, 0, 1] none
    let start : World Nat := ⟨DeviceLink.fresh 0x10, 0, fun _ => 5, []⟩
    let acts : List (Act Nat) := [.advance 0, .advance 0, .advance 0, .take, .take, .deliver, .advance 0,
      .advance 0]
    ∃ read, (run cell 0x10 calls 1 start (.set ((calls 0).address ++ [3]) :: acts)).link.pc 0 =
      .returned (some read) ∧ read = [3] := by
  intro cell calls start acts
  have hread : (run cell 0x10 calls 1 start (.set ((calls 0).address ++ [3]) :: acts)).link.pc 0 =
      .returned (some [3]) := by decide
  have hcell : ∀ m < [3].length, ∀ n < [3].length,
      cell (calls 0).address m = cell (calls 0).address n → m = n := by
    intro m hm n hn _
    simp only [List.length_singleton] at hm hn
    omega
  have hundisturbed : Runs.Guarded (step cell 0x10 calls 1)
      (Undisturbed cell 0x10 calls 1 (calls 0).address [3].length start.link.sent.length)
      (step cell 0x10 calls 1 start (.set ((calls 0).address ++ [3]))) acts := by
    refine ⟨?_, ?_, ?_, ?_, ?_, ?_, ?_, ?_, trivial⟩ <;> exact ⟨trivial, by decide, nofun⟩
  have hquiet : Quiet (calls 0).address start := by simp [Quiet, start]
  have hunasked : ∀ message ∈ start.link.sent.drop start.taken,
      (asked? 0x10 message).map Prod.fst ≠ some (calls 0).address := by simp [start, DeviceLink.fresh]
  exact ⟨[3], hread, write_then_read (i := 0) rfl hcell rfl (by decide) hquiet hunasked rfl hundisturbed
    hread rfl⟩

end

end Pygt1000.LinkedUnit
