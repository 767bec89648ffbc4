import Pygt1000.EditorSession

/-!
# `open` succeeds only on an acknowledged handshake

Whatever comes in while `EditorSession.open` runs, a True means that the run falls into three
parts: the transport opened and the identity loop negotiated an id; the editor-mode set was sent
and acknowledged; the liveness read was sent and answered (`BroughtUp`). The invariant (`Holding`)
says, for each stage, which of these parts lie behind and how far the exchange under way is.

An acknowledgement counts while the key is registered, and `_exchange` registers the key before
it sends (`device_link.py:164-166`), so the acknowledging frame may come in just ahead of the
message it seems to answer.
-/

namespace Pygt1000.EditorSession

open DeviceLink (Link Pc onReceive)

variable (c : Setup) (s : Session) (acts : List Act) (deviceId i : Nat)

/-! ## What a part of a run achieved -/

/-- A data frame for `deviceId` with `data` at exchange `i`'s address came in while `i` waited. -/
def Answered (data : List Nat) : Prop :=
  ∃ pre message post, acts = pre ++ .receive message :: post ∧
    parseDataReply deviceId message = some ((calls i).address, data) ∧
    ((run c s pre).link.pc i).awaiting = true

/-- Exchange `i` put its message on the wire, alone, and was answered with `reply`. -/
structure Acknowledged (reply : List Nat) : Prop where
  sent : (run c s acts).link.sent = s.link.sent ++ [(calls i).message deviceId]
  answered : Answered c s acts deviceId i reply

/-- The transport opened and identity requests, within the budget, were followed by an id. -/
structure Identified : Prop where
  opened : c.transportOpens = true
  negotiated : (run c s acts).link.deviceId = deviceId
  ne_bcast : deviceId ≠ deviceIdBcast
  sent : ∃ k ≤ c.retryCount,
    (run c s acts).link.sent = s.link.sent ++ List.replicate k identityRequestMsg

/-- The three parts of a successful run, in order. -/
def BroughtUp : Prop :=
  ∃ pre mid post, acts = pre ++ mid ++ post ∧ Identified c s pre deviceId ∧
    Acknowledged c (run c s pre) mid deviceId 0 editorReply2 ∧
    Acknowledged c (run c s (pre ++ mid)) post deviceId 1 editorReply3 ∧
    (run c s acts).link.deviceId = deviceId

/-- All a run can have sent: identity requests within the budget; after an id was negotiated,
the editor-mode set; after that was acknowledged, the liveness read. -/
inductive Traffic : Prop where
  | identity (k : Nat) (hk : k ≤ c.retryCount) (hopen : k ≠ 0 → c.transportOpens = true)
    (hsent : (run c s acts).link.sent = s.link.sent ++ List.replicate k identityRequestMsg)
  | mode (pre post : List Act) (deviceId : Nat) (hacts : acts = pre ++ post)
    (hid : Identified c s pre deviceId)
    (hsent : (run c s acts).link.sent = (run c s pre).link.sent ++ [(calls 0).message deviceId])
  | fetch (pre mid post : List Act) (deviceId : Nat) (hacts : acts = pre ++ mid ++ post)
    (hid : Identified c s pre deviceId)
    (hmode : Acknowledged c (run c s pre) mid deviceId 0 editorReply2)
    (hsent : (run c s acts).link.sent =
      (run c s (pre ++ mid)).link.sent ++ [(calls 1).message deviceId])

variable {c s acts deviceId i}

theorem run_append (as bs : List Act) : run c s (as ++ bs) = run c (run c s as) bs :=
  Runs.run_append s as bs

theorem run_own : run c s (acts ++ [.own]) = advance c (run c s acts) :=
  Runs.run_concat s acts .own

theorem run_receive (message : List Nat) : run c s (acts ++ [.receive message]) =
    { run c s acts with link := onReceive (run c s acts).link message } :=
  Runs.run_concat s acts (.receive message)

theorem Answered.concat {data : List Nat} (h : Answered c s acts deviceId i data) (act : Act) :
    Answered c s (acts ++ [act]) deviceId i data := by
  obtain ⟨pre, message, post, rfl, hp, ha⟩ := h
  exact ⟨pre, message, post ++ [act], by simp, hp, ha⟩

theorem Acknowledged.concat {reply : List Nat} (h : Acknowledged c s acts deviceId i reply)
    {act : Act} (hsent : (run c s (acts ++ [act])).link.sent = (run c s acts).link.sent) :
    Acknowledged c s (acts ++ [act]) deviceId i reply :=
  ⟨hsent.trans h.sent, h.answered.concat act⟩

/-- A step that sends nothing. -/
theorem Traffic.concat (h : Traffic c s acts) {act : Act}
    (hsent : (run c s (acts ++ [act])).link.sent = (run c s acts).link.sent) :
    Traffic c s (acts ++ [act]) := by
  cases h with
  | identity k hk hopen hs => exact .identity k hk hopen (hsent.trans hs)
  | mode pre post deviceId hacts hid hs =>
    exact .mode pre (post ++ [act]) deviceId (by rw [hacts, List.append_assoc]) hid (hsent.trans hs)
  | fetch pre mid post deviceId hacts hid hmode hs =>
    exact .fetch pre mid (post ++ [act]) deviceId (by rw [hacts, List.append_assoc]) hid hmode
      (hsent.trans hs)

theorem BroughtUp.concat (h : BroughtUp c s acts deviceId) {act : Act}
    (hsent : (run c s (acts ++ [act])).link.sent = (run c s acts).link.sent)
    (hid : (run c s (acts ++ [act])).link.deviceId = (run c s acts).link.deviceId) :
    BroughtUp c s (acts ++ [act]) deviceId := by
  obtain ⟨pre, mid, post, rfl, hident, hmode, hfetch, hnow⟩ := h
  refine ⟨pre, mid, post ++ [act], by simp, hident, hmode, hfetch.concat ?_, hid.trans hnow⟩
  simpa [run_append] using hsent

theorem BroughtUp.traffic (h : BroughtUp c s acts deviceId) : Traffic c s acts := by
  obtain ⟨pre, mid, post, rfl, hident, hmode, hfetch, -⟩ := h
  refine .fetch pre mid post deviceId rfl hident hmode ?_
  have hsent := hfetch.sent
  rwa [← run_append] at hsent

/-! ## An exchange within a part of a run -/

theorem Underway.receive_concat {base : List (List Nat)}
    (h : Underway deviceId i base (Answered c s acts deviceId i) (run c s acts).link)
    (hid : deviceId ≠ deviceIdBcast) (message : List Nat) :
    Underway deviceId i base (Answered c s (acts ++ [.receive message]) deviceId i)
      (run c s (acts ++ [.receive message])).link := by
  rw [run_receive]
  refine (h.mono fun data hd => hd.concat _).onReceive hid fun data hp ha => ?_
  exact ⟨acts, message, [], rfl, hp, ha⟩

theorem Underway.own_concat {base : List (List Nat)}
    (h : Underway deviceId i base (Answered c s acts deviceId i) (run c s acts).link) :
    Underway deviceId i base (Answered c s (acts ++ [.own]) deviceId i)
      (DeviceLink.advance calls c.linkRetryCount (run c s acts).link i) :=
  (h.mono fun _ hd => hd.concat _).advance

/-- Data handed back means the message went out and the answer came in. -/
theorem Underway.acknowledged {reply : List Nat}
    (h : Underway deviceId i s.link.sent (Answered c s acts deviceId i) (run c s acts).link)
    (hpc : (run c s acts).link.pc i = .returned (some reply)) :
    Acknowledged c s acts deviceId i reply :=
  ⟨h.sent_of_transmitted (by rw [hpc]; rfl), h.sound.held i reply (Or.inr hpc) rfl⟩

/-! ## The invariant -/

variable (c s acts) in
/-- What lies behind a run that stands at a stage, its link being `link`. -/
def Holding (link : Link) : Stage → Prop
  | .opening => (∀ i, link.pc i = .start) ∧ link.sent = s.link.sent
  | .requesting more => c.transportOpens = true ∧ more < c.retryCount ∧ (∀ i, link.pc i = .start) ∧
    link.sent = s.link.sent ++ List.replicate (c.retryCount - (more + 1)) identityRequestMsg
  | .checking more => c.transportOpens = true ∧ more < c.retryCount ∧ (∀ i, link.pc i = .start) ∧
    link.sent = s.link.sent ++ List.replicate (c.retryCount - more) identityRequestMsg
  | .settingMode => ∃ pre post deviceId, acts = pre ++ post ∧ Identified c s pre deviceId ∧
    Underway deviceId 0 (run c s pre).link.sent (Answered c (run c s pre) post deviceId 0) link ∧
    link.pc 1 = .start
  | .fetching => ∃ pre mid post deviceId, acts = pre ++ mid ++ post ∧
    Identified c s pre deviceId ∧ Acknowledged c (run c s pre) mid deviceId 0 editorReply2 ∧
    Underway deviceId 1 (run c s (pre ++ mid)).link.sent
      (Answered c (run c s (pre ++ mid)) post deviceId 1) link
  | .returned true => ∃ deviceId, BroughtUp c s acts deviceId
  | .returned false => Traffic c s acts
  | .raised => False

theorem holding_start (c : Setup) (link : Link) :
    Holding c (start link) [] (start link).link (start link).stage := ⟨fun _ => rfl, rfl⟩

/-- Where the identity loop goes on, with `n` passes left. -/
theorem holding_identifyFrom {n : Nat} (hopen : c.transportOpens = true) (hn : n ≤ c.retryCount)
    (hpc : ∀ i, (run c s acts).link.pc i = .start)
    (hsent : (run c s acts).link.sent =
      s.link.sent ++ List.replicate (c.retryCount - n) identityRequestMsg) :
    Holding c s acts (run c s acts).link (identifyFrom n) := by
  cases n with
  | zero => exact .identity (c.retryCount - 0) (Nat.sub_le _ _) (fun _ => hopen) hsent
  | succ n => exact ⟨hopen, hn, hpc, hsent⟩

/-- A received message moves neither the stage nor what was sent, and keeps what lies behind. -/
theorem holding_receive (message : List Nat)
    (h : Holding c s acts (run c s acts).link (run c s acts).stage) :
    Holding c s (acts ++ [.receive message]) (run c s (acts ++ [.receive message])).link
      (run c s (acts ++ [.receive message])).stage := by
  have hlink : (run c s (acts ++ [.receive message])).link =
      onReceive (run c s acts).link message := by rw [run_receive]
  have hstage : (run c s (acts ++ [.receive message])).stage = (run c s acts).stage := by
    rw [run_receive]
  have hsent : (run c s (acts ++ [.receive message])).link.sent = (run c s acts).link.sent := by
    rw [hlink, onReceive_sent]
  have hpc : (run c s (acts ++ [.receive message])).link.pc = (run c s acts).link.pc := by
    rw [hlink, DeviceLink.onReceive_pc]
  rw [hstage]
  cases hst : (run c s acts).stage with
  | opening =>
    rw [hst] at h
    exact ⟨fun i => by rw [hpc]; exact h.1 i, hsent.trans h.2⟩
  | requesting more =>
    rw [hst] at h
    obtain ⟨hopen, hmore, hstart, hs⟩ := h
    exact ⟨hopen, hmore, fun i => by rw [hpc]; exact hstart i, hsent.trans hs⟩
  | checking more =>
    rw [hst] at h
    obtain ⟨hopen, hmore, hstart, hs⟩ := h
    exact ⟨hopen, hmore, fun i => by rw [hpc]; exact hstart i, hsent.trans hs⟩
  | settingMode =>
    rw [hst] at h
    obtain ⟨pre, post, deviceId, rfl, hid, hu, h1⟩ := h
    refine ⟨pre, post ++ [.receive message], deviceId, by simp, hid, ?_, by rw [hpc]; exact h1⟩
    rw [run_append pre post] at hu
    rw [List.append_assoc, run_append pre]
    exact hu.receive_concat hid.ne_bcast message
  | fetching =>
    rw [hst] at h
    obtain ⟨pre, mid, post, deviceId, rfl, hid, hmode, hu⟩ := h
    refine ⟨pre, mid, post ++ [.receive message], deviceId, by simp, hid, hmode, ?_⟩
    rw [run_append (pre ++ mid) post] at hu
    rw [List.append_assoc, run_append (pre ++ mid)]
    exact hu.receive_concat hid.ne_bcast message
  | returned up =>
    rw [hst] at h
    cases up with
    | false => exact Traffic.concat h hsent
    | true =>
      obtain ⟨deviceId, hup⟩ := h
      have hnow : (run c s acts).link.deviceId ≠ deviceIdBcast := by
        obtain ⟨_, _, _, -, hident, -, -, hnow⟩ := id hup
        exact hnow ▸ hident.ne_bcast
      exact ⟨deviceId, hup.concat hsent (by rw [hlink, onReceive_deviceId hnow])⟩
  | raised => rw [hst] at h; exact h

/-! ## The caller's own steps -/

/-- A step of the editor-mode set is none of the liveness read. -/
theorem advance_zero_pc_one (n : Nat) (link : Link) :
    (DeviceLink.advance calls n link 0).pc 1 = link.pc 1 :=
  (DeviceLink.agree_advance_other link (a := (calls 1).address) (by decide)).pc 1 rfl

/-- The caller's step inside the exchange of a part of the run: the comparison that goes on, the
one that gives up, or a step of the exchange. -/
theorem own_await {reply : List Nat} {next : Stage}
    (hu : Underway deviceId i s.link.sent (Answered c s acts deviceId i) (run c s acts).link)
    (hown : run c s (acts ++ [.own]) = await c (run c s acts) i reply next) :
    (run c s (acts ++ [.own]) = { run c s acts with stage := next } ∧
      Acknowledged c s (acts ++ [.own]) deviceId i reply) ∨
    (run c s (acts ++ [.own]) = { run c s acts with stage := .returned false } ∧
      (run c s acts).link.sent = s.link.sent ++ [(calls i).message deviceId]) ∨
    (run c s (acts ++ [.own]) = { run c s acts with
        link := DeviceLink.advance calls c.linkRetryCount (run c s acts).link i } ∧
      Underway deviceId i s.link.sent (Answered c s (acts ++ [.own]) deviceId i)
        (run c s (acts ++ [.own])).link) := by
  unfold await at hown
  split at hown
  · next data hpc =>
    by_cases hdata : data = some reply
    · left
      have hback : Acknowledged c s acts deviceId i reply := hu.acknowledged (hdata ▸ hpc)
      exact ⟨by rw [hown]; simp [hdata], hback.concat (by rw [hown])⟩
    · exact Or.inr (Or.inl ⟨by rw [hown]; simp [hdata], hu.sent_of_transmitted (by rw [hpc]; rfl)⟩)
  · next hpc => exact absurd hpc hu.noRaise
  · refine Or.inr (Or.inr ⟨hown, ?_⟩)
    rw [hown]
    exact hu.own_concat

theorem holding_own_settingMode (hst : (run c s acts).stage = .settingMode)
    (h : Holding c s acts (run c s acts).link .settingMode) :
    Holding c s (acts ++ [.own]) (run c s (acts ++ [.own])).link (run c s (acts ++ [.own])).stage := by
  obtain ⟨pre, post, deviceId, rfl, hid, hu, h1⟩ := h
  have hown : run c s (pre ++ post ++ [.own]) =
      await c (run c s (pre ++ post)) 0 editorReply2 .fetching := by
    rw [run_own, advance, hst]
  rw [run_append pre post] at hu
  rw [List.append_assoc, run_append pre, run_append pre] at hown
  rcases own_await hu hown with ⟨he, hmode⟩ | ⟨he, hsent⟩ | ⟨he, hgoes⟩ <;>
    rw [← run_append, ← run_append, ← List.append_assoc] at he
  · -- The set is acknowledged: what comes next belongs to the liveness read.
    have hstage : (run c s (pre ++ post ++ [.own])).stage = .fetching := by rw [he]
    rw [hstage]
    refine ⟨pre, post ++ [.own], [], deviceId, by simp, hid, hmode, ?_⟩
    rw [← List.append_assoc]
    refine underway_start ?_ ?_
    · rw [he]; exact h1
    · rw [he, run_append]; exact hu.negotiated
  · have hstage : (run c s (pre ++ post ++ [.own])).stage = .returned false := by rw [he]
    rw [hstage]
    rw [← run_append] at hsent
    exact Traffic.concat (.mode pre post deviceId rfl hid hsent) (by rw [he])
  · have hstage : (run c s (pre ++ post ++ [.own])).stage = .settingMode := by rw [he]; exact hst
    rw [hstage]
    refine ⟨pre, post ++ [.own], deviceId, by simp, hid, ?_, ?_⟩
    · rw [List.append_assoc, run_append pre]
      exact hgoes
    · rw [he]
      exact (advance_zero_pc_one _ _).trans h1

theorem holding_own_fetching (hst : (run c s acts).stage = .fetching)
    (h : Holding c s acts (run c s acts).link .fetching) :
    Holding c s (acts ++ [.own]) (run c s (acts ++ [.own])).link (run c s (acts ++ [.own])).stage := by
  obtain ⟨pre, mid, post, deviceId, rfl, hid, hmode, hu⟩ := h
  have hown : run c s (pre ++ mid ++ post ++ [.own]) =
      await c (run c s (pre ++ mid ++ post)) 1 editorReply3 (.returned true) := by
    rw [run_own, advance, hst]
  rw [run_append (pre ++ mid) post] at hu
  rw [List.append_assoc, run_append (pre ++ mid), run_append (pre ++ mid)] at hown
  rcases own_await hu hown with ⟨he, hfetch⟩ | ⟨he, hsent⟩ | ⟨he, hgoes⟩ <;>
    rw [← run_append, ← run_append, ← List.append_assoc] at he
  · have hstage : (run c s (pre ++ mid ++ post ++ [.own])).stage = .returned true := by rw [he]
    have hnow : (run c s (pre ++ mid ++ post ++ [.own])).link.deviceId = deviceId := by
      rw [he, run_append (pre ++ mid)]
      exact hu.negotiated
    rw [hstage]
    exact ⟨deviceId, pre, mid, post ++ [.own], by simp, hid, hmode, hfetch, hnow⟩
  · have hstage : (run c s (pre ++ mid ++ post ++ [.own])).stage = .returned false := by rw [he]
    rw [hstage]
    rw [← run_append] at hsent
    exact Traffic.concat (.fetch pre mid post deviceId rfl hid hmode hsent) (by rw [he])
  · have hstage : (run c s (pre ++ mid ++ post ++ [.own])).stage = .fetching := by rw [he]; exact hst
    rw [hstage]
    refine ⟨pre, mid, post ++ [.own], deviceId, by simp, hid, hmode, ?_⟩
    rw [List.append_assoc, run_append (pre ++ mid)]
    exact hgoes

/-- The caller's step keeps what lies behind the run. -/
theorem holding_own (h : Holding c s acts (run c s acts).link (run c s acts).stage) :
    Holding c s (acts ++ [.own]) (run c s (acts ++ [.own])).link (run c s (acts ++ [.own])).stage := by
  cases hst : (run c s acts).stage with
  | opening =>
    rw [hst] at h
    obtain ⟨hstart, hsent⟩ := h
    have hown : run c s (acts ++ [.own]) = ⟨(run c s acts).link,
        if c.transportOpens then identifyFrom c.retryCount else .returned false⟩ := by
      rw [run_own, advance, hst]
    have hlink : (run c s (acts ++ [.own])).link = (run c s acts).link := by rw [hown]
    have hstage : (run c s (acts ++ [.own])).stage =
        if c.transportOpens then identifyFrom c.retryCount else .returned false := by rw [hown]
    rw [hstage]
    split
    · next hopen =>
      exact holding_identifyFrom hopen (Nat.le_refl _) (by rw [hlink]; exact hstart)
        (by rw [hlink, hsent]; simp)
    · exact .identity 0 (Nat.zero_le _) (fun h => absurd rfl h) (by rw [hlink, hsent]; simp)
  | requesting more =>
    rw [hst] at h
    obtain ⟨hopen, hmore, hstart, hsent⟩ := h
    have hown : run c s (acts ++ [.own]) = ⟨{ (run c s acts).link with
        sent := (run c s acts).link.sent ++ [identityRequestMsg] }, .checking more⟩ := by
      rw [run_own, advance, hst]
    rw [hown]
    refine ⟨hopen, hmore, hstart, ?_⟩
    show (run c s acts).link.sent ++ [identityRequestMsg] = _
    rw [hsent, List.append_assoc, ← List.replicate_succ']
    congr 2
    omega
  | checking more =>
    rw [hst] at h
    obtain ⟨hopen, hmore, hstart, hsent⟩ := h
    have hown : run c s (acts ++ [.own]) = ⟨(run c s acts).link,
        if (run c s acts).link.deviceId ≠ deviceIdBcast then .settingMode else identifyFrom more⟩ := by
      rw [run_own, advance, hst]
    have hlink : (run c s (acts ++ [.own])).link = (run c s acts).link := by rw [hown]
    have hstage : (run c s (acts ++ [.own])).stage =
        if (run c s acts).link.deviceId ≠ deviceIdBcast then .settingMode else identifyFrom more := by
      rw [hown]
    rw [hstage]
    split
    · next hne =>
      refine ⟨acts ++ [.own], [], (run c s acts).link.deviceId, by simp, ?_, ?_, ?_⟩
      · exact ⟨hopen, by rw [hlink], hne, _, Nat.sub_le _ _, by rw [hlink]; exact hsent⟩
      · exact underway_start (by rw [hlink]; exact hstart 0) (by rw [hlink])
      · rw [hlink]; exact hstart 1
    · exact holding_identifyFrom hopen (by omega) (by rw [hlink]; exact hstart)
        (by rw [hlink]; exact hsent)
  | settingMode => exact holding_own_settingMode hst (hst ▸ h)
  | fetching => exact holding_own_fetching hst (hst ▸ h)
  | returned up =>
    rw [hst] at h
    have hown : run c s (acts ++ [.own]) = run c s acts := by rw [run_own, advance, hst]
    rw [hown, hst]
    cases up with
    | false => exact Traffic.concat h (by rw [hown])
    | true =>
      obtain ⟨deviceId, hup⟩ := h
      exact ⟨deviceId, hup.concat (by rw [hown]) (by rw [hown])⟩
  | raised => rw [hst] at h; exact h.elim

theorem holding_run (c : Setup) (link : Link) (acts : List Act) :
    Holding c (start link) acts (run c (start link) acts).link (run c (start link) acts).stage := by
  induction acts using List.reverseRecOn with
  | nil => exact holding_start c link
  | append_singleton acts act ih =>
    cases act with
    | own => exact holding_own ih
    | receive message => exact holding_receive message ih

/-- At every stage the messages sent so far are accounted for. -/
theorem Holding.traffic {stage : Stage} (h : Holding c s acts (run c s acts).link stage) :
    Traffic c s acts := by
  cases stage with
  | opening => exact .identity 0 (Nat.zero_le _) (fun h => absurd rfl h) (by simpa using h.2)
  | requesting more => exact .identity _ (Nat.sub_le _ _) (fun _ => h.1) h.2.2.2
  | checking more => exact .identity _ (Nat.sub_le _ _) (fun _ => h.1) h.2.2.2
  | settingMode =>
    obtain ⟨pre, post, deviceId, rfl, hid, hu, -⟩ := h
    by_cases ht : transmitted ((run c s (pre ++ post)).link.pc 0) = true
    · exact .mode pre post deviceId rfl hid (hu.sent_of_transmitted ht)
    · obtain ⟨k, hk, hs⟩ := hid.sent
      refine .identity k hk (fun _ => hid.opened) ?_
      rw [hu.sent, if_neg ht, List.append_nil, hs]
  | fetching =>
    obtain ⟨pre, mid, post, deviceId, rfl, hid, hmode, hu⟩ := h
    by_cases ht : transmitted ((run c s (pre ++ mid ++ post)).link.pc 1) = true
    · exact .fetch pre mid post deviceId rfl hid hmode (hu.sent_of_transmitted ht)
    · refine .mode pre (mid ++ post) deviceId (by simp) hid ?_
      have hs := hmode.sent
      rw [← run_append] at hs
      rw [hu.sent, if_neg ht, List.append_nil, hs]
  | returned up =>
    cases up with
    | false => exact h
    | true => exact h.elim fun deviceId hup => hup.traffic
  | raised => exact h.elim

/-! ## Termination -/

/-- Steps of the caller an exchange still takes, the comparison after it included. -/
def exchangeSteps (linkRetryCount : Nat) (pc : Pc) : Nat := pc.stepsLeft linkRetryCount + 1

/-- Steps of the caller until `open` returns. -/
def remaining (c : Setup) (s : Session) : Nat :=
  let left (i : Nat) := exchangeSteps c.linkRetryCount (s.link.pc i)
  match s.stage with
  | .opening => 2 * c.retryCount + 1 + left 0 + left 1
  | .requesting more => 2 * more + 2 + left 0 + left 1
  | .checking more => 2 * more + 1 + left 0 + left 1
  | .settingMode => left 0 + left 1
  | .fetching => left 1
  | .returned _ | .raised => 0

/-- What a whole call of `open` takes at most. -/
def budget (c : Setup) : Nat := 2 * c.retryCount + 1 + 2 * (c.linkRetryCount + 5)

theorem remaining_start (c : Setup) (link : Link) : remaining c (start link) = budget c := by
  simp only [remaining, start, exchangeSteps, Pc.stepsLeft, budget]
  omega

theorem exchangeSteps_pos (n : Nat) (pc : Pc) : 0 < exchangeSteps n pc := Nat.succ_pos _

/-- A step of an exchange that has not ended is a step towards its end. -/
theorem exchangeSteps_advance {n : Nat} {link : Link} (hret : ∀ data, link.pc i ≠ .returned data)
    (hraise : link.pc i ≠ .raised) :
    exchangeSteps n ((DeviceLink.advance calls n link i).pc i) < exchangeSteps n (link.pc i) := by
  have hstep := @DeviceLink.stepsLeft_advance calls n link i
  have hunder : (link.pc i).stepsLeft n ≠ 0 := by
    intro hzero
    obtain ⟨data, hdata⟩ := DeviceLink.stepsLeft_eq_zero hzero hraise
    exact hret data hdata
  simp only [exchangeSteps]
  omega

/-- Inside an exchange the caller's step takes one of the exchange's, or is the last. -/
theorem await_cases (c : Setup) (s : Session) (i : Nat) (reply : List Nat) (next : Stage) :
    (∃ stage, await c s i reply next = { s with stage := stage } ∧
      (stage = next ∨ stage = .returned false ∨ stage = .raised)) ∨
    await c s i reply next = { s with link := DeviceLink.advance calls c.linkRetryCount s.link i } ∧
      exchangeSteps c.linkRetryCount ((DeviceLink.advance calls c.linkRetryCount s.link i).pc i) <
        exchangeSteps c.linkRetryCount (s.link.pc i) := by
  unfold await
  split
  · next data hpc =>
    left
    by_cases hdata : data = some reply
    · exact ⟨next, by simp [hdata], Or.inl rfl⟩
    · exact ⟨.returned false, by simp [hdata], Or.inr (Or.inl rfl)⟩
  · exact Or.inl ⟨.raised, rfl, Or.inr (Or.inr rfl)⟩
  · next hret hraise => exact Or.inr ⟨rfl, exchangeSteps_advance hret hraise⟩

theorem remaining_identifyFrom (c : Setup) (link : Link) (n : Nat) :
    remaining c ⟨link, identifyFrom n⟩ ≤ 2 * n +
      exchangeSteps c.linkRetryCount (link.pc 0) + exchangeSteps c.linkRetryCount (link.pc 1) := by
  cases n with
  | zero => exact Nat.zero_le _
  | succ n =>
    simp only [identifyFrom, remaining]
    omega

theorem remaining_advance (c : Setup) (s : Session) :
    remaining c (advance c s) ≤ remaining c s - 1 := by
  obtain ⟨link, stage⟩ := s
  have h0 := exchangeSteps_pos c.linkRetryCount (link.pc 0)
  have h1 := exchangeSteps_pos c.linkRetryCount (link.pc 1)
  cases stage with
  | opening =>
    have hloop := remaining_identifyFrom c link c.retryCount
    simp only [advance]
    split
    · refine hloop.trans ?_
      simp only [remaining]
      omega
    · exact Nat.zero_le _
  | requesting more => simp only [advance, remaining]; omega
  | checking more =>
    have hloop := remaining_identifyFrom c link more
    simp only [advance]
    split
    · simp only [remaining]; omega
    · refine hloop.trans ?_
      simp only [remaining]
      omega
  | settingMode =>
    simp only [advance]
    rcases await_cases c ⟨link, .settingMode⟩ 0 editorReply2 .fetching with
      ⟨stage, he, hs⟩ | ⟨he, hlt⟩
    · rw [he]
      rcases hs with rfl | rfl | rfl <;> simp only [remaining] <;> omega
    · rw [he]
      simp only [remaining, advance_zero_pc_one]
      simp only at hlt
      omega
  | fetching =>
    simp only [advance]
    rcases await_cases c ⟨link, .fetching⟩ 1 editorReply3 (.returned true) with
      ⟨stage, he, hs⟩ | ⟨he, hlt⟩
    · rw [he]
      rcases hs with rfl | rfl | rfl <;> simp only [remaining] <;> omega
    · rw [he]
      simp only [remaining]
      simp only at hlt
      omega
  | returned up => exact Nat.zero_le _
  | raised => exact Nat.zero_le _

theorem remaining_receive (c : Setup) (s : Session) (message : List Nat) :
    remaining c { s with link := onReceive s.link message } = remaining c s := by
  simp only [remaining, DeviceLink.onReceive_pc]

theorem remaining_run (c : Setup) (s : Session) (acts : List Act) :
    remaining c (run c s acts) ≤ remaining c s - ownSteps acts := by
  have hown (t : Session) : remaining c (step c t .own) ≤ remaining c t - 1 := remaining_advance c t
  refine Runs.measure_run .own hown (fun t act hact => ?_) s acts
  cases act with
  | own => exact absurd rfl hact
  | receive message => exact (remaining_receive c t message).le

theorem returned_of_remaining {c : Setup} {s : Session} (h : remaining c s = 0)
    (hraise : s.stage ≠ .raised) : ∃ up, s.stage = .returned up := by
  obtain ⟨link, stage⟩ := s
  have h1 := exchangeSteps_pos c.linkRetryCount (link.pc 1)
  cases stage with
  | returned up => exact ⟨up, rfl⟩
  | raised => exact absurd rfl hraise
  | _ => simp only [remaining] at h; omega

/-! ## The contract of `open` -/

/-- **`open` succeeds only on an acknowledged handshake**: whatever the link is like at the start
and whatever comes in, a True means that the transport opened and the three parts of the
handshake took place in order; within `budget` steps of its own the call returns True or False;
and in every case what it sent is accounted for. -/
theorem open_acknowledged (c : Setup) (link : Link) (acts : List Act) :
    ((run c (start link) acts).stage = .returned true →
      ∃ deviceId, BroughtUp c (start link) acts deviceId) ∧
    (budget c ≤ ownSteps acts → ∃ up, (run c (start link) acts).stage = .returned up) ∧
    (run c (start link) acts).stage ≠ .raised ∧
    Traffic c (start link) acts := by
  have h := holding_run c link acts
  have hraise : (run c (start link) acts).stage ≠ .raised := fun hst => by rw [hst] at h; exact h
  refine ⟨fun hst => ?_, fun hb => ?_, hraise, h.traffic⟩
  · rw [hst] at h
    exact h
  · have hleft := remaining_run c (start link) acts
    rw [remaining_start] at hleft
    exact returned_of_remaining (c := c) (by omega) hraise

/-- A unit that answers each message brings `open` to True. -/
example :
    let ack (address data : List Nat) := Act.receive (encodeDt1 0x10 (address ++ data) none)
    let exchange (reply : Act) : List Act := [.own, .own, .own, reply, .own, .own, .own]
    (run ⟨true, 1, 1⟩ (start (DeviceLink.fresh deviceIdBcast))
      ([.own, .own,
        .receive [0xF0, 0x7E, 0x10, 6, 2, 0x41, 0x4F, 3, 0, 0, 0, 0, 1, 0, 0xF7], .own] ++
        exchange (ack editorModeAddressSet2 editorReply2) ++
        exchange (ack editorModeAddressFetch3 editorReply3))).stage = .returned true := by decide

end Pygt1000.EditorSession
