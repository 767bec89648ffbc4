import Pygt1000.Chain
import Pygt1000.Facade
import Pygt1000.TopBlocks
import Pygt1000.Specs.ChainElements

/-!
# The effect chain's device round trip (`chain.py`, `ChainCodec`)

| here | there |
| --- | --- |
| `chainElementName`, `chainElementInt` | the same (`address_map.py:175-181`) |
| `byteList`                            | `_byte_list` (`chain.py:169-175`) |
| `readNames`, `read`                   | the same (`:177-185`) |
| `writeNames`, `write`                 | the same (`:187-193`); the result is what `set` is given |

Reading a chain and writing it back is not always the identity. The parser takes a divider that
its mixer follows without a branch split; the tree has no room for that, and the serializer puts
the branch split in. `readToken` reads a chain left to right with the dividers that are open, and
counts those that are closed so (`direct`). `write_read_iff`: the bytes come back unless a chain
in which every divider is closed has one that is closed directly.
-/

namespace Pygt1000

open Specs

/-- `chain_element_name` (`address_map.py:175-177`). -/
def chainElementName (intValue : Nat) : Except PyErr String :=
  subscript (chainElement.lookup (toString intValue))

/-- `chain_element_int` (`address_map.py:179-181`). -/
def chainElementInt (name : String) : Except PyErr Int := do
  Gt1000.intOfId (← subscript (chainElement.lookup name))

namespace ChainCodec

variable (m : AddressMap) (fetch : Fetch)

/-- `_byte_list` (`:169-175`). -/
def byteList : Except PyErr (Option (List Nat)) :=
  m.addressFor (AddressMap.startSection "efct" (.str "0")) "efct" "CHAIN ELEMENT1" none

/-- `read_names` (`:177-181`). An address or a reply that is `None` raises. -/
def readNames : Except PyErr (List String) := do
  match ← byteList m with
  | none => .error .typeError
  | some address =>
    match fetch address oneByte with
    | none => .error .typeError
    | some intChain => intChain.mapM chainElementName

/-- `read` (`:183-185`). -/
def read : Except PyErr (List Block) := do
  return (Chain.parseChain (← readNames m fetch)).1

/-- `write_names` (`:187-190`). -/
def writeNames (txtChain : List String) : Except PyErr (List Int) := do
  let intChain ← txtChain.mapM chainElementInt
  match ← byteList m with
  | none => .error .typeError
  | some address => return address.map Int.ofNat ++ intChain

/-- `write` (`:192-193`). -/
def write (blocks : List Block) : Except PyErr (List Int) :=
  writeNames m (Chain.serializeChain blocks)

/-! ## Reading a chain left to right -/

/-- A divider whose mixer has not come yet. -/
structure OpenDivider where
  id : String
  splitSeen : Bool
deriving DecidableEq, Repr

structure Reading where
  /-- Innermost first. -/
  opened : List OpenDivider
  /-- How many dividers were closed with no branch split before the mixer. -/
  direct : Nat
deriving DecidableEq, Repr

/-- A token outside the tokens of the innermost divider. -/
def readOther (r : Reading) (token : String) : Reading :=
  if startsWith token "DIVIDER" then { r with opened := ⟨Chain.dividerId token, false⟩ :: r.opened }
  else r

def readToken (r : Reading) (token : String) : Reading :=
  match r.opened with
  | [] => readOther r token
  | ⟨id, splitSeen⟩ :: below =>
    if token = Chain.mixerToken id then ⟨below, if splitSeen then r.direct else r.direct + 1⟩
    else if splitSeen = false ∧ token = Chain.branchSplitToken id then ⟨⟨id, true⟩ :: below, r.direct⟩
    else readOther r token

abbrev reading (r : Reading) (tokens : List String) : Reading := Runs.run readToken r tokens

/-- The tokens that end what the innermost divider is at. -/
def stops : List OpenDivider → List String
  | [] => []
  | ⟨id, false⟩ :: _ => [Chain.branchSplitToken id, Chain.mixerToken id]
  | ⟨id, true⟩ :: _ => [Chain.mixerToken id]

theorem branchSplitToken_ne_mixerToken (id id' : String) :
    Chain.branchSplitToken id ≠ Chain.mixerToken id' := by
  intro h
  have hc := congrArg String.toList h
  rw [Chain.branchSplitToken, Chain.mixerToken, String.toList_append, String.toList_append] at hc
  cases hc

theorem readToken_other {opened : List OpenDivider} {direct : Nat} {token : String}
    (h : token ∉ stops opened) : readToken ⟨opened, direct⟩ token = readOther ⟨opened, direct⟩ token := by
  rcases opened with _ | ⟨⟨id, _ | _⟩, below⟩
  · rfl
  · simp only [stops, List.mem_cons, List.not_mem_nil, or_false, not_or] at h
    simp [readToken, h.1, h.2]
  · simp only [stops, List.mem_cons, List.not_mem_nil, or_false] at h
    simp [readToken, h]

/-- What serializing the blocks read makes of the tokens they were read from, where every divider
was closed: the same, but for `inserted` branch splits. -/
structure Copied (K : String → Prop) (opened : List OpenDivider) (direct : Nat) (tokens : List String)
    (blocks : List Block) (rest : List String) (inserted : Nat) : Prop where
  reads : reading ⟨opened, direct⟩ tokens = reading ⟨opened, direct + inserted⟩ rest
  length : (Chain.serializeChain blocks).length + rest.length = tokens.length + inserted
  same : inserted = 0 → Chain.serializeChain blocks ++ rest = tokens
  known : ∀ t ∈ Chain.serializeChain blocks, K t

/-- The tokens ended inside a divider, which has the empty mixer name. -/
structure Cut (opened : List OpenDivider) (direct : Nat) (tokens : List String)
    (blocks : List Block) : Prop where
  still : (reading ⟨opened, direct⟩ tokens).opened ≠ []
  unnamed : "" ∈ Chain.serializeChain blocks

section

variable {K : String → Prop} {opened : List OpenDivider} {direct k k' : Nat}
  {tokens mid rest : List String} {pre blocks : List Block}

theorem Copied.trans (h : Copied K opened direct tokens pre mid k)
    (h' : Copied K opened (direct + k) mid blocks rest k') :
    Copied K opened direct tokens (pre ++ blocks) rest (k + k') where
  reads := by rw [h.reads, h'.reads, Nat.add_assoc]
  length := by
    have h1 := h.length
    have h2 := h'.length
    rw [Chain.serializeChain_append, List.length_append]
    omega
  same hk := by
    rw [Chain.serializeChain_append, List.append_assoc, h'.same (by omega), h.same (by omega)]
  known t ht := by
    rw [Chain.serializeChain_append, List.mem_append] at ht
    exact ht.elim (h.known t) (h'.known t)

theorem Copied.cut (h : Copied K opened direct tokens pre mid k)
    (h' : Cut opened (direct + k) mid blocks) : Cut opened direct tokens (pre ++ blocks) where
  still := by rw [h.reads]; exact h'.still
  unnamed := by
    rw [Chain.serializeChain_append, List.mem_append]
    exact Or.inr h'.unnamed

theorem Cut.append (h : Cut opened direct tokens pre) (blocks : List Block) :
    Cut opened direct tokens (pre ++ blocks) where
  still := h.still
  unnamed := by
    rw [Chain.serializeChain_append, List.mem_append]
    exact Or.inl h.unnamed

/-- Either the tokens ended inside a divider, or they were copied up to the end or a stop token. -/
def Reads (K : String → Prop) (opened : List OpenDivider) (direct : Nat) (tokens : List String)
    (parsed : List Block × List String) : Prop :=
  (parsed.2 = [] ∧ Cut opened direct tokens parsed.1) ∨
    (∀ t r, parsed.2 = t :: r → t ∈ stops opened) ∧
      ∃ k, Copied K opened direct tokens parsed.1 parsed.2 k

/-- The same for one divider, which ends after its mixer. -/
def ReadsDivider (K : String → Prop) (opened : List OpenDivider) (direct : Nat) (tokens : List String)
    (parsed : Block × List String) : Prop :=
  (parsed.2 = [] ∧ Cut opened direct tokens [parsed.1]) ∨
    ∃ k, Copied K opened direct tokens [parsed.1] parsed.2 k

end

section

variable {K : String → Prop} {token : String} {rest : List String} {opened : List OpenDivider}
  {direct : Nat}

/-- Inside a divider, tokens that end leave it open. -/
theorem Reads.still_of_nil {top : OpenDivider} {blocks : List Block}
    (h : Reads K (top :: opened) direct rest (blocks, [])) :
    (reading ⟨top :: opened, direct⟩ rest).opened ≠ [] := by
  obtain ⟨-, hcut⟩ | ⟨-, k, hcopy⟩ := h
  · exact hcut.still
  · rw [hcopy.reads]
    exact List.cons_ne_nil _ _

theorem reading_divider (hs : token ∉ stops opened) (hd : startsWith token "DIVIDER" = true) :
    reading ⟨opened, direct⟩ (token :: rest) =
      reading ⟨⟨Chain.dividerId token, false⟩ :: opened, direct⟩ rest := by
  rw [reading, Runs.run_cons, readToken_other hs, readOther, if_pos hd]

theorem reading_branchSplit (id : String) :
    reading ⟨⟨id, false⟩ :: opened, direct⟩ (Chain.branchSplitToken id :: rest) =
      reading ⟨⟨id, true⟩ :: opened, direct⟩ rest := by
  simp [reading, readToken, branchSplitToken_ne_mixerToken]

theorem reading_mixer (id : String) (splitSeen : Bool) :
    reading ⟨⟨id, splitSeen⟩ :: opened, direct⟩ (Chain.mixerToken id :: rest) =
      reading ⟨opened, if splitSeen then direct else direct + 1⟩ rest := by
  simp [reading, readToken]

/-- A divider of two branches that were copied. -/
theorem Copied.split {k k' : Nat} {branchA branchB : List Block} {r r' : List String}
    (hs : token ∉ stops opened) (hd : startsWith token "DIVIDER" = true) (htoken : K token)
    (hsplit : K (Chain.branchSplitToken (Chain.dividerId token)))
    (hmix : K (Chain.mixerToken (Chain.dividerId token)))
    (hA : Copied K (⟨Chain.dividerId token, false⟩ :: opened) direct rest branchA
      (Chain.branchSplitToken (Chain.dividerId token) :: r) k)
    (hB : Copied K (⟨Chain.dividerId token, true⟩ :: opened) (direct + k) r branchB
      (Chain.mixerToken (Chain.dividerId token) :: r') k') :
    Copied K opened direct (token :: rest)
      [.divider token branchA branchB (Chain.mixerToken (Chain.dividerId token))] r' (k + k') where
  reads := by
    rw [reading_divider hs hd, hA.reads, reading_branchSplit, hB.reads, reading_mixer, if_pos rfl,
      Nat.add_assoc]
  length := by
    have hlenA := hA.length
    have hlenB := hB.length
    simp only [Chain.serializeChain_singleton, Chain.serializeBlock, List.length_cons,
      List.length_append, List.length_nil] at hlenA hlenB ⊢
    omega
  same hk := by
    have h1 := hA.same (by omega)
    have h2 := hB.same (by omega)
    simp [Chain.serializeChain_singleton, Chain.serializeBlock, ← h1, ← h2]
  known := by
    simp only [Chain.serializeChain_singleton, Chain.serializeBlock, List.forall_mem_cons,
      List.forall_mem_append]
    exact ⟨htoken, hA.known, hsplit, hB.known, hmix, by simp⟩

/-- A divider whose mixer came at once: the branch split is inserted. -/
theorem Copied.closedDirectly {k : Nat} {branchA : List Block} {r : List String}
    (hs : token ∉ stops opened) (hd : startsWith token "DIVIDER" = true) (htoken : K token)
    (hsplit : K (Chain.branchSplitToken (Chain.dividerId token)))
    (hmix : K (Chain.mixerToken (Chain.dividerId token)))
    (hA : Copied K (⟨Chain.dividerId token, false⟩ :: opened) direct rest branchA
      (Chain.mixerToken (Chain.dividerId token) :: r) k) :
    Copied K opened direct (token :: rest)
      [.divider token branchA [] (Chain.mixerToken (Chain.dividerId token))] r (k + 1) where
  reads := by
    rw [reading_divider hs hd, hA.reads, reading_mixer, if_neg Bool.false_ne_true, Nat.add_assoc]
  length := by
    have hlenA := hA.length
    simp only [Chain.serializeBlock, Chain.serializeChain, List.length_cons, List.length_append,
      List.length_nil] at hlenA ⊢
    omega
  same hk := by omega
  known := by
    simp only [Chain.serializeBlock, Chain.serializeChain, List.forall_mem_cons,
      List.forall_mem_append]
    exact ⟨⟨htoken, hA.known, hsplit, by simp, hmix, by simp⟩, by simp⟩

end

/-! ## What the parser does to a chain -/

section

variable {K : String → Prop}
  (hK : ∀ t, K t → startsWith t "DIVIDER" = true →
    K (Chain.branchSplitToken (Chain.dividerId t)) ∧ K (Chain.mixerToken (Chain.dividerId t)))
include hK

/-- A divider, given what its branches are parsed to. -/
theorem parseDivider_reads {token : String} {rest : List String} {opened : List OpenDivider}
    {direct : Nat} (hs : token ∉ stops opened) (hd : startsWith token "DIVIDER" = true)
    (hk : ∀ t ∈ token :: rest, K t)
    (ih : ∀ tokens, tokens.length ≤ rest.length → (∀ t ∈ tokens, K t) → ∀ opened direct,
      Reads K opened direct tokens (Chain.parse tokens (stops opened))) :
    ReadsDivider K opened direct (token :: rest) (Chain.parseDivider rest token) := by
  obtain ⟨htoken, hrest⟩ := List.forall_mem_cons.1 hk
  obtain ⟨hsplit, hmix⟩ := hK token htoken hd
  have hA := ih rest (Nat.le_refl _) hrest (⟨Chain.dividerId token, false⟩ :: opened) direct
  have hsufA := Chain.parse_suffix rest (stops (⟨Chain.dividerId token, false⟩ :: opened))
  obtain ⟨⟨branchA, restA⟩, hpA⟩ :
    ∃ p, Chain.parse rest (stops (⟨Chain.dividerId token, false⟩ :: opened)) = p := ⟨_, rfl⟩
  rw [hpA] at hA hsufA
  rcases restA with _ | ⟨t, r⟩
  · -- The tokens end in branch A.
    rw [Chain.parseDivider_endA hpA]
    refine Or.inl ⟨rfl, ?_, by simp [Chain.serializeChain, Chain.serializeBlock]⟩
    rw [reading_divider hs hd]
    exact hA.still_of_nil
  obtain ⟨hnil, -⟩ | ⟨hstop, k, hcopy⟩ := hA
  · cases hnil
  have ht := hstop t r rfl
  simp only [stops, List.mem_cons, List.not_mem_nil, or_false] at ht
  rcases ht with rfl | rfl
  · -- The branch split: branch B follows.
    have hsufr : r <:+ rest := (List.suffix_cons _ r).trans hsufA
    have hB := ih r hsufr.length_le (fun t ht => hrest t (hsufr.subset ht))
      (⟨Chain.dividerId token, true⟩ :: opened) (direct + k)
    obtain ⟨⟨branchB, restB⟩, hpB⟩ :
      ∃ p, Chain.parse r (stops (⟨Chain.dividerId token, true⟩ :: opened)) = p := ⟨_, rfl⟩
    rw [hpB] at hB
    rcases restB with _ | ⟨t', r'⟩
    · rw [Chain.parseDivider_endB hpA hpB]
      refine Or.inl ⟨rfl, ?_, by simp [Chain.serializeChain, Chain.serializeBlock]⟩
      rw [reading_divider hs hd, hcopy.reads, reading_branchSplit]
      exact hB.still_of_nil
    obtain ⟨hnil, -⟩ | ⟨hstopB, k', hcopyB⟩ := hB
    · cases hnil
    obtain rfl : t' = Chain.mixerToken (Chain.dividerId token) := by simpa [stops] using hstopB t' r' rfl
    rw [Chain.parseDivider_split token hpA hpB]
    exact Or.inr ⟨k + k', hcopy.split hs hd htoken hsplit hmix hcopyB⟩
  · -- The mixer directly.
    rw [Chain.parseDivider_direct hpA]
    exact Or.inr ⟨k + 1, hcopy.closedDirectly hs hd htoken hsplit hmix⟩

/-- The loop of `parse_chain`, for every stack of open dividers: a step of it reads one token or
one divider. -/
theorem parse_reads (n : Nat) : ∀ tokens, tokens.length ≤ n → (∀ t ∈ tokens, K t) →
    ∀ opened direct, Reads K opened direct tokens (Chain.parse tokens (stops opened)) := by
  induction n with
  | zero =>
    intro tokens hn _ opened direct
    obtain rfl := List.eq_nil_of_length_eq_zero (Nat.le_zero.1 hn)
    exact Or.inr ⟨nofun, 0, rfl, rfl, fun _ => rfl, nofun⟩
  | succ n ih =>
    intro tokens hn hk opened direct
    rcases tokens with _ | ⟨token, rest⟩
    · exact Or.inr ⟨nofun, 0, rfl, rfl, fun _ => rfl, nofun⟩
    have hn : rest.length ≤ n := Nat.le_of_succ_le_succ hn
    by_cases hs : token ∈ stops opened
    · rw [Chain.parse_stop hs]
      refine Or.inr ⟨fun t r htr => ?_, 0, rfl, by simp [Chain.serializeChain], fun _ => rfl, nofun⟩
      cases htr
      exact hs
    cases hd : startsWith token "DIVIDER" with
    | false =>
      have hreads : reading ⟨opened, direct⟩ (token :: rest) = reading ⟨opened, direct⟩ rest := by
        rw [reading, Runs.run_cons, readToken_other hs, readOther, hd, if_neg Bool.false_ne_true]
      have hhead : Copied K opened direct (token :: rest) [.effect token] rest 0 := by
        refine ⟨hreads, by simp [Chain.serializeChain, Chain.serializeBlock, Nat.add_comm],
          fun _ => rfl, ?_⟩
        simpa [Chain.serializeChain, Chain.serializeBlock] using hk token List.mem_cons_self
      rw [Chain.parse_effect hs hd]
      obtain ⟨hnil, hcut⟩ | ⟨hstop, k, hcopy⟩ :=
        ih rest hn (fun t ht => hk t (List.mem_cons_of_mem token ht)) opened direct
      · exact Or.inl ⟨hnil, hhead.cut hcut⟩
      · exact Or.inr ⟨hstop, 0 + k, hhead.trans hcopy⟩
    | true =>
      have hsuf := Chain.parseDivider_suffix rest token
      have hhead : ReadsDivider K opened direct (token :: rest) (Chain.parseDivider rest token) :=
        parseDivider_reads hK hs hd hk fun tokens hle hkt => ih tokens (hle.trans hn) hkt
      rw [Chain.parse_divider hs hd]
      obtain ⟨hnil, hcut⟩ | ⟨k, hcopy⟩ := hhead
      · rw [hnil]
        exact Or.inl ⟨rfl, hcut.append _⟩
      · obtain ⟨hnil, hcut⟩ | ⟨hstop, k', hcopy'⟩ := ih (Chain.parseDivider rest token).2
          (hsuf.length_le.trans hn) (fun t ht => hk t (List.mem_cons_of_mem token (hsuf.subset ht)))
          opened (direct + k)
        · exact Or.inl ⟨hnil, hcopy.cut hcut⟩
        · exact Or.inr ⟨hstop, k + k', hcopy.trans hcopy'⟩

/-- A whole chain: cut off, or copied with as many branch splits more as dividers were closed
directly. -/
theorem parseChain_reads {tokens : List String} (hk : ∀ t ∈ tokens, K t) :
    ((reading ⟨[], 0⟩ tokens).opened ≠ [] ∧
      "" ∈ Chain.serializeChain (Chain.parseChain tokens).1) ∨
    ∃ k, reading ⟨[], 0⟩ tokens = ⟨[], k⟩ ∧
      (Chain.serializeChain (Chain.parseChain tokens).1).length = tokens.length + k ∧
      (k = 0 → Chain.serializeChain (Chain.parseChain tokens).1 = tokens) ∧
      ∀ t ∈ Chain.serializeChain (Chain.parseChain tokens).1, K t := by
  have h : Reads K [] 0 tokens (Chain.parseChain tokens) :=
    parse_reads hK _ tokens (Nat.le_refl _) hk [] 0
  obtain ⟨-, hcut⟩ | ⟨hstop, k, hcopy⟩ := h
  · exact Or.inl ⟨hcut.still, hcut.unnamed⟩
  · have hrest : (Chain.parseChain tokens).2 = [] := by
      refine List.eq_nil_iff_forall_not_mem.2 fun t ht => ?_
      obtain ⟨u, r, hur⟩ := List.exists_cons_of_ne_nil (List.ne_nil_of_mem ht)
      cases hstop u r hur
    rw [hrest] at hcopy
    refine Or.inr ⟨k, ?_, hcopy.length, fun hk0 => ?_, hcopy.known⟩
    · rw [hcopy.reads, reading, Runs.run_nil, Nat.zero_add]
    · rw [← List.append_nil (Chain.serializeChain _), hcopy.same hk0]

end

/-! ## The elements of the unit -/

/-- The name of a chain byte. -/
def nameOf (byte : Nat) : String := (chainElement.lookup (toString byte)).getD ""

theorem chainElement_bytes : ∀ b ∈ List.range 49, chainElementName b = .ok (nameOf b) ∧
    chainElementInt (nameOf b) = .ok b := by decide +kernel

/-- The tokens that go with a divider of the unit are elements of the unit. -/
theorem chainElement_dividers : ∀ b ∈ List.range 49, startsWith (nameOf b) "DIVIDER" = true →
    Chain.branchSplitToken (Chain.dividerId (nameOf b)) ∈ (List.range 49).map nameOf ∧
      Chain.mixerToken (Chain.dividerId (nameOf b)) ∈ (List.range 49).map nameOf := by decide +kernel

theorem chainElementInt_empty : chainElementInt "" = .error .keyError := by decide

theorem nameOf_mem {b : Nat} (hb : b ≤ 48) : nameOf b ∈ (List.range 49).map nameOf :=
  List.mem_map_of_mem (List.mem_range.2 (by omega))

theorem names_eq {bytes : List Nat} (hb : ∀ b ∈ bytes, b ≤ 48) :
    bytes.mapM chainElementName = .ok (bytes.map nameOf) := by
  induction bytes with
  | nil => rfl
  | cons b bytes ih =>
    obtain ⟨hb, hbytes⟩ := List.forall_mem_cons.1 hb
    rw [List.mapM_cons, (chainElement_bytes b (List.mem_range.2 (by omega))).1, ih hbytes]
    rfl

theorem ints_eq {bytes : List Nat} (hb : ∀ b ∈ bytes, b ≤ 48) :
    (bytes.map nameOf).mapM chainElementInt = .ok (bytes.map Int.ofNat) := by
  induction bytes with
  | nil => rfl
  | cons b bytes ih =>
    obtain ⟨hb, hbytes⟩ := List.forall_mem_cons.1 hb
    rw [List.map_cons, List.mapM_cons, (chainElement_bytes b (List.mem_range.2 (by omega))).2,
      ih hbytes]
    rfl

/-- Names of elements are the names of some bytes. -/
theorem exists_bytes {names : List String} (h : ∀ t ∈ names, t ∈ (List.range 49).map nameOf) :
    ∃ bytes : List Nat, (∀ b ∈ bytes, b ≤ 48) ∧ bytes.map nameOf = names := by
  induction names with
  | nil => exact ⟨[], nofun, rfl⟩
  | cons t names ih =>
    obtain ⟨ht, hnames⟩ := List.forall_mem_cons.1 h
    obtain ⟨b, hb, rfl⟩ := List.mem_map.1 ht
    obtain ⟨bytes, hbytes, rfl⟩ := ih hnames
    have hb : b ≤ 48 := Nat.le_of_lt_succ (List.mem_range.1 hb)
    exact ⟨b :: bytes, List.forall_mem_cons.2 ⟨hb, hbytes⟩, rfl⟩

/-- The empty mixer name of a divider that was cut off is no element. -/
theorem ints_unnamed {names : List String} (h : "" ∈ names) : ∃ e, names.mapM chainElementInt = .error e := by
  induction names with
  | nil => cases h
  | cons t names ih =>
    rw [List.mapM_cons]
    rcases List.mem_cons.1 h with rfl | h
    · exact ⟨_, by rw [chainElementInt_empty]; rfl⟩
    · cases chainElementInt t with
      | error e => exact ⟨e, rfl⟩
      | ok b =>
        obtain ⟨e, he⟩ := ih h
        exact ⟨e, by rw [he]; rfl⟩

/-! ## Reading and writing back -/

/-- Where the chain starts. -/
def chainAddress : List Nat := [0x10, 0x00, 0x10, 0x68]

theorem byteList_eq {m : AddressMap} (hm : Loaded m) : byteList m = .ok (some chainAddress) := by
  rw [byteList, hm.addressFor_eq]
  decide

/-- What is sent when the chain that was read is written. -/
def writeBack (m : AddressMap) (fetch : Fetch) : Except PyErr (List Int) := do
  write m (← read m fetch)

/-- The reading of a whole chain. -/
def chainReading (bytes : List Nat) : Reading := reading ⟨[], 0⟩ (bytes.map nameOf)

section

variable {m : AddressMap} {fetch : Fetch} {bytes : List Nat}

theorem writeBack_eq (hm : Loaded m) (hf : fetch chainAddress oneByte = some bytes)
    (hb : ∀ b ∈ bytes, b ≤ 48) : writeBack m fetch =
      ((Chain.serializeChain (Chain.parseChain (bytes.map nameOf)).1).mapM chainElementInt).map
        fun ints => chainAddress.map Int.ofNat ++ ints := by
  simp only [writeBack, read, readNames, write, writeNames, byteList_eq hm, hf, names_eq hb, ok_bind,
    pure_eq_ok]
  cases List.mapM chainElementInt _ <;> rfl

/-- **Reading the chain and writing it back** sends the bytes that were read, or raises, exactly
where some divider is still open at the end of the chain or none is closed without a branch split. -/
theorem write_read_iff (hm : Loaded m) (hf : fetch chainAddress oneByte = some bytes)
    (hb : ∀ b ∈ bytes, b ≤ 48) :
    (∀ sent, writeBack m fetch = .ok sent → sent = (chainAddress ++ bytes).map Int.ofNat) ↔
      (chainReading bytes).opened ≠ [] ∨ (chainReading bytes).direct = 0 := by
  rw [writeBack_eq hm hf hb]
  have hK : ∀ t, t ∈ (List.range 49).map nameOf → startsWith t "DIVIDER" = true →
      Chain.branchSplitToken (Chain.dividerId t) ∈ (List.range 49).map nameOf ∧
        Chain.mixerToken (Chain.dividerId t) ∈ (List.range 49).map nameOf := by
    rintro t ht
    obtain ⟨b, hb, rfl⟩ := List.mem_map.1 ht
    exact chainElement_dividers b hb
  have hknown : ∀ t ∈ bytes.map nameOf, t ∈ (List.range 49).map nameOf := by
    intro t ht
    obtain ⟨b, hbm, rfl⟩ := List.mem_map.1 ht
    exact nameOf_mem (hb b hbm)
  obtain ⟨hopen, hunnamed⟩ | ⟨k, hreading, hlen, hsame, hkept⟩ := parseChain_reads hK hknown
  · obtain ⟨e, he⟩ := ints_unnamed hunnamed
    refine iff_of_true (fun sent hsent => ?_) (Or.inl hopen)
    rw [he] at hsent
    cases hsent
  · obtain ⟨back, hback, hnames⟩ := exists_bytes hkept
    rw [chainReading, hreading, ← hnames, ints_eq hback, map_ok, ← List.map_append]
    rw [← hnames] at hlen hsame
    simp only [List.length_map] at hlen
    constructor
    · intro h
      have heq := congrArg List.length (h _ rfl)
      simp only [List.length_map, List.length_append] at heq
      exact Or.inr (by simp only; omega)
    · rintro (h | h) sent hsent
      · exact absurd rfl h
      · have hints := ints_eq hback
        rw [hsame h, ints_eq hb] at hints
        cases hsent
        rw [List.map_append, List.map_append, ← Except.ok.inj hints]

/-- One divider, split, with an effect in each branch. -/
theorem write_read_split :
    (∀ sent, writeBack addressMap (fun _ _ => some [35, 1, 36, 2, 37]) = .ok sent →
      sent = (chainAddress ++ [35, 1, 36, 2, 37]).map Int.ofNat) ↔
      (chainReading [35, 1, 36, 2, 37]).opened ≠ [] ∨ (chainReading [35, 1, 36, 2, 37]).direct = 0 :=
  write_read_iff (Or.inl rfl) rfl (by decide)

/-- A divider its mixer follows directly comes back with a branch split. -/
theorem write_read_direct :
    ¬ ∀ sent, writeBack addressMap (fun _ _ => some [35, 1, 37]) = .ok sent →
      sent = (chainAddress ++ [35, 1, 37]).map Int.ofNat := by
  have hsent : writeBack addressMap (fun _ _ => some [35, 1, 37]) =
      .ok ((chainAddress ++ [35, 1, 36, 37]).map Int.ofNat) := by decide
  intro h
  exact absurd (h _ hsent) (by decide)

end

end ChainCodec

end Pygt1000
