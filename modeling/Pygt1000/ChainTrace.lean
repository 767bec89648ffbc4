import Pygt1000.ChainCodec

/-!
# What the chain parser does with the tokens (`chain.py:38-114`, `gt1000.py:306-323`)

`parse_chain` pops its tokens from the list it was given, and the facade gives it the caller's. It
pops all of them, so of the caller's chain nothing is left (`parseChain_keeps_iff`).

What it popped is in the tree. `trace` is the parser with a note at every divider, whether a branch
split and a mixer came for it; `marked` are the tokens of the tree, each with whether it came from
the input. `parseChain_loses_nothing` holds for every token list: serializing the tree adds the
branch split of a divider that came without one and the empty name of a mixer that was missing, and
nothing else. The interpreter's limit on the depth of recursion is not modelled.
-/

namespace Pygt1000

namespace Chain

/-! ## The parser with notes -/

/-- A block and how it was read. -/
inductive Traced where
  | effect (name : String)
  /-- `split`: a branch split came; `mixer`: the token that was taken for the mixer. -/
  | divider (dividerName : String) (branchA : List Traced) (split : Bool) (branchB : List Traced)
      (mixer : Option String)

/-- `parseDividerWith`, with notes. -/
def traceDividerWith (trace : List String → List String → List Traced × List String)
    (tokens : List String) (dividerName : String) : Traced × List String :=
  let id := dividerId dividerName
  match trace tokens [branchSplitToken id, mixerToken id] with
  | (branchA, []) => (.divider dividerName branchA false [] none, [])
  | (branchA, nextToken :: rest) =>
    if startsWith nextToken "BRANCHSPLIT" then
      match trace rest [mixerToken id] with
      | (branchB, []) => (.divider dividerName branchA true branchB none, [])
      | (branchB, mixer :: rest) => (.divider dividerName branchA true branchB (some mixer), rest)
    else (.divider dividerName branchA false [] (some nextToken), rest)

/-- `parseFrom`, with notes. -/
def traceFrom : Nat → List String → List String → List Traced × List String
  | 0, tokens, _ => ([], tokens)
  | _ + 1, [], _ => ([], [])
  | n + 1, token :: rest, stopTokens =>
    if token ∈ stopTokens then ([], token :: rest)
    else if startsWith token "DIVIDER" then
      let divider := traceDividerWith (traceFrom n) rest token
      let chain := traceFrom n divider.2 stopTokens
      (divider.1 :: chain.1, chain.2)
    else
      let chain := traceFrom n rest stopTokens
      (.effect token :: chain.1, chain.2)

/-- How `parse_chain(tokens)` read its tokens. -/
def trace (tokens : List String) : List Traced := (traceFrom tokens.length tokens []).1

mutual
/-- The block without the notes. -/
def eraseBlock : Traced → Block
  | .effect name => .effect name
  | .divider dividerName branchA _ branchB mixer =>
    .divider dividerName (erase branchA) (erase branchB) (mixer.getD "")
def erase : List Traced → List Block
  | [] => []
  | block :: blocks => eraseBlock block :: erase blocks
end

mutual
/-- The tokens of the block, and whether each was read. -/
def markedBlock : Traced → List (String × Bool)
  | .effect name => [(name, true)]
  | .divider dividerName branchA split branchB mixer =>
    (dividerName, true) :: (marked branchA ++ (branchSplitToken (dividerId dividerName), split) ::
      (marked branchB ++ [(mixer.getD "", mixer.isSome)]))
def marked : List Traced → List (String × Bool)
  | [] => []
  | block :: blocks => markedBlock block ++ marked blocks
end

/-- The tokens that were read. -/
def kept (tokens : List (String × Bool)) : List String := (tokens.filter (·.2)).map Prod.fst

@[simp] theorem kept_nil : kept [] = [] := rfl

@[simp] theorem kept_cons (token : String) (read : Bool) (tokens : List (String × Bool)) :
    kept ((token, read) :: tokens) = if read then token :: kept tokens else kept tokens := by
  cases read <;> rfl

@[simp] theorem kept_append (tokens tokens' : List (String × Bool)) :
    kept (tokens ++ tokens') = kept tokens ++ kept tokens' := by
  simp [kept]

mutual
/-- Marked or not, they are the tokens of the serialized block. -/
theorem markedBlock_serializeBlock : ∀ block,
    (markedBlock block).map Prod.fst = serializeBlock (eraseBlock block)
  | .effect name => rfl
  | .divider dividerName branchA split branchB mixer => by
    simp only [markedBlock, eraseBlock, serializeBlock, List.map_cons, List.map_append,
      marked_serializeChain branchA, marked_serializeChain branchB, List.map_nil]
theorem marked_serializeChain : ∀ blocks,
    (marked blocks).map Prod.fst = serializeChain (erase blocks)
  | [] => rfl
  | block :: blocks => by
    rw [marked, erase, serializeChain, List.map_append, markedBlock_serializeBlock block,
      marked_serializeChain blocks]
end

mutual
/-- A token that was not read is a divider's branch split or the empty name of its mixer. -/
theorem markedBlock_added : ∀ block, ∀ x ∈ markedBlock block, x.2 = false →
    startsWith x.1 "BRANCHSPLIT" = true ∨ x.1 = ""
  | .effect name, x, hx, hread => by
    rw [markedBlock, List.mem_singleton] at hx
    rw [hx] at hread
    cases hread
  | .divider dividerName branchA split branchB mixer, x, hx, hread => by
    simp only [markedBlock, List.mem_cons, List.mem_append, List.not_mem_nil, or_false] at hx
    rcases hx with rfl | hx | rfl | hx | rfl
    · cases hread
    · exact marked_added branchA x hx hread
    · exact Or.inl (branchSplitToken_startsWith _)
    · exact marked_added branchB x hx hread
    · cases mixer with
      | none => exact Or.inr rfl
      | some mixer => cases hread
theorem marked_added : ∀ blocks, ∀ x ∈ marked blocks, x.2 = false →
    startsWith x.1 "BRANCHSPLIT" = true ∨ x.1 = ""
  | [], x, hx, _ => by cases hx
  | block :: blocks, x, hx, hread => by
    rw [marked, List.mem_append] at hx
    rcases hx with hx | hx
    · exact markedBlock_added block x hx hread
    · exact marked_added blocks x hx hread
end

/-! ## It parses, and reads every token once -/

/-- What the notes say is what the parser did: without them the trace is the parse, the tokens read
and those that are left are the input, and the parser stopped at a stop token or at the end. -/
structure Faithful (tokens stop : List String) (traced : List Traced × List String)
    (parsed : List Block × List String) : Prop where
  parses : parsed = (erase traced.1, traced.2)
  reads : kept (marked traced.1) ++ traced.2 = tokens
  stops : ∀ token rest, traced.2 = token :: rest → token ∈ stop

section

variable {trace' : List String → List String → List Traced × List String}
  {parse' : List String → List String → List Block × List String} {tokens : List String}

/-- A divider, given the same of the calls for its branches. -/
theorem traceDividerWith_faithful
    (ih : ∀ rest stop, rest.length ≤ tokens.length → Faithful rest stop (trace' rest stop) (parse' rest stop))
    (dividerName : String) :
    let traced := traceDividerWith trace' tokens dividerName
    parseDividerWith parse' tokens dividerName = (eraseBlock traced.1, traced.2) ∧
      kept (markedBlock traced.1) ++ traced.2 = dividerName :: tokens := by
  have hA := ih tokens [branchSplitToken (dividerId dividerName), mixerToken (dividerId dividerName)]
    (Nat.le_refl _)
  simp only [traceDividerWith, parseDividerWith]
  generalize trace' tokens _ = tracedA at hA ⊢
  obtain ⟨branchA, restA⟩ := tracedA
  obtain ⟨hparsesA, hreadsA, hstopsA⟩ := hA
  simp only at hreadsA hstopsA
  rw [hparsesA]
  rcases restA with _ | ⟨next, rest⟩
  · simp only [List.append_nil] at hreadsA
    simp [eraseBlock, markedBlock, erase, marked, hreadsA]
  have hlen : rest.length ≤ tokens.length := by
    rw [← hreadsA, List.length_append, List.length_cons]
    omega
  have hnext := hstopsA next rest rfl
  simp only [List.mem_cons, List.not_mem_nil, or_false] at hnext
  rcases hnext with rfl | rfl
  · -- The branch split: branch B follows.
    simp only [branchSplitToken_startsWith, if_true]
    have hB := ih rest [mixerToken (dividerId dividerName)] hlen
    generalize trace' rest _ = tracedB at hB ⊢
    obtain ⟨branchB, restB⟩ := tracedB
    obtain ⟨hparsesB, hreadsB, -⟩ := hB
    simp only at hreadsB
    rw [hparsesB]
    rcases restB with _ | ⟨mixer, rest'⟩
    · simp only [List.append_nil] at hreadsB
      simp [eraseBlock, markedBlock, hreadsB, hreadsA]
    · simp [eraseBlock, markedBlock, hreadsB, hreadsA]
  · -- The mixer directly.
    simp only [mixerToken_not_branchSplit, Bool.false_eq_true, if_false]
    simp [eraseBlock, markedBlock, erase, marked, hreadsA]

end

/-- The loop, with as many calls left as there are tokens. -/
theorem traceFrom_faithful (n : Nat) : ∀ tokens stop, tokens.length ≤ n →
    Faithful tokens stop (traceFrom n tokens stop) (parseFrom n tokens stop) := by
  induction n with
  | zero =>
    intro tokens stop hn
    obtain rfl := List.eq_nil_of_length_eq_zero (Nat.le_zero.1 hn)
    exact ⟨rfl, rfl, nofun⟩
  | succ n ih =>
    intro tokens stop hn
    rcases tokens with _ | ⟨token, rest⟩
    · exact ⟨rfl, rfl, nofun⟩
    have hn : rest.length ≤ n := Nat.le_of_succ_le_succ hn
    by_cases hs : token ∈ stop
    · simp only [traceFrom, parseFrom, if_pos hs]
      refine ⟨rfl, rfl, fun t r h => ?_⟩
      cases h
      exact hs
    simp only [traceFrom, parseFrom, if_neg hs]
    cases hd : startsWith token "DIVIDER" with
    | false =>
      simp only [Bool.false_eq_true, if_false]
      obtain ⟨hparses, hreads, hstops⟩ := ih rest stop hn
      exact ⟨by rw [hparses]; rfl, by simpa [marked, markedBlock] using hreads, hstops⟩
    | true =>
      simp only [if_true]
      have ih' : ∀ rest' stop', rest'.length ≤ rest.length →
          Faithful rest' stop' (traceFrom n rest' stop') (parseFrom n rest' stop') :=
        fun rest' stop' hle => ih rest' stop' (hle.trans hn)
      obtain ⟨hdivider, hread⟩ := traceDividerWith_faithful ih' token
      have hsuf := parseDividerWith_suffix (parseFrom_suffix n) rest token
      rw [hdivider] at hsuf
      obtain ⟨hparses, hreads, hstops⟩ :=
        ih (traceDividerWith (traceFrom n) rest token).2 stop (hsuf.length_le.trans hn)
      refine ⟨by rw [hdivider, hparses]; rfl, ?_, hstops⟩
      rw [marked, kept_append, List.append_assoc, hreads, hread]

theorem trace_faithful (tokens : List String) :
    Faithful tokens [] (traceFrom tokens.length tokens []) (parseChain tokens) :=
  traceFrom_faithful tokens.length tokens [] (Nat.le_refl _)

/-- Without stop tokens the parser ends with the tokens. -/
theorem parseChain_rest (tokens : List String) : (parseChain tokens).2 = [] := by
  have h := trace_faithful tokens
  rw [h.parses]
  refine List.eq_nil_iff_forall_not_mem.2 fun t ht => ?_
  obtain ⟨u, r, hur⟩ := List.exists_cons_of_ne_nil (List.ne_nil_of_mem ht)
  cases h.stops u r hur

/-- **The parser loses nothing**: for every token list, however malformed, the recursion ends with
the tokens (as many calls as there are tokens are enough, and more change nothing), all of them are
consumed, and they are the tokens of the serialized tree without one branch split for every divider
that was read without one and one empty mixer name for every divider whose mixer was missing. -/
theorem parseChain_loses_nothing (tokens : List String) :
    (∀ n, tokens.length ≤ n → parseFrom n tokens [] = parseChain tokens) ∧
      (parseChain tokens).2 = [] ∧ (parseChain tokens).1 = erase (trace tokens) ∧
      serializeChain (parseChain tokens).1 = (marked (trace tokens)).map Prod.fst ∧
      tokens = kept (marked (trace tokens)) ∧
      ∀ x ∈ marked (trace tokens), x.2 = false → startsWith x.1 "BRANCHSPLIT" = true ∨ x.1 = "" := by
  have h := trace_faithful tokens
  have hblocks : (parseChain tokens).1 = erase (trace tokens) := congrArg Prod.fst h.parses
  have hrest : (traceFrom tokens.length tokens []).2 = [] :=
    (congrArg Prod.snd h.parses).symm.trans (parseChain_rest tokens)
  refine ⟨fun n hn => parseFrom_eq hn [], parseChain_rest tokens, hblocks, ?_, ?_, marked_added _⟩
  · rw [hblocks, marked_serializeChain]
  · have hreads := h.reads
    rw [hrest, List.append_nil] at hreads
    exact hreads.symm

/-- A divider whose mixer is missing, in branch A of one that has no branch split. -/
example : marked (trace ["DIVIDER1", "FX1", "DIVIDER2", "FX2", "MIXER1"]) =
    [("DIVIDER1", true), ("FX1", true), ("DIVIDER2", true), ("FX2", true), ("MIXER1", true),
      ("BRANCHSPLIT2", false), ("", false), ("BRANCHSPLIT1", false), ("", false)] := by decide

end Chain

/-! ## The caller's chain -/

namespace Gt1000

/-- `parse_chain` (`gt1000.py:310-312`), and what the caller's list holds when it returns: the parser
is given the list itself. -/
def parseChain (txtChain : List String) : List Block × List String := Chain.parseChain txtChain

/-- The sequence of the README: read the chain, parse it, write the list that was read. -/
def readParseWrite (m : AddressMap) (fetch : Fetch) : Except PyErr (List Int) := do
  let txtChain ← ChainCodec.readNames m fetch
  let (_, txtChain) := parseChain txtChain
  ChainCodec.writeNames m txtChain

/-- The sequence of the README writes the chain's address without a chain, whatever was read. -/
theorem readParseWrite_eq {m : AddressMap} (hm : Loaded m) {fetch : Fetch} {bytes : List Nat}
    (hf : fetch ChainCodec.chainAddress oneByte = some bytes) (hb : ∀ b ∈ bytes, b ≤ 48) :
    readParseWrite m fetch = .ok (ChainCodec.chainAddress.map Int.ofNat) := by
  simp only [readParseWrite, ChainCodec.readNames, ChainCodec.byteList_eq hm, hf,
    ChainCodec.names_eq hb, ok_bind, parseChain, Chain.parseChain_rest, ChainCodec.writeNames,
    List.mapM_nil, pure_eq_ok, List.append_nil]

/-- **Parsing keeps the caller's chain, exactly** where there is none. -/
theorem parseChain_keeps_iff (l : List String) : (parseChain l).2 = l ↔ l = [] := by
  rw [parseChain, Chain.parseChain_rest]
  exact eq_comm

/-- A chain of one effect is empty afterwards, and the sequence of the README writes no chain. -/
theorem parseChain_empties : (parseChain ["COMPRESSOR"]).2 = [] ∧
    readParseWrite addressMap (fun _ _ => some [0]) = .ok (ChainCodec.chainAddress.map Int.ofNat) := by
  decide

end Gt1000

end Pygt1000
