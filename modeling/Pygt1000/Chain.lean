import Pygt1000.Basic
import Mathlib.Data.List.Infix

/-!
# The effect chain as tokens and as a tree (`chain.py`)

| here | there |
| --- | --- |
| `Block`                             | `EffectBlock`, `DividerBlock` (`chain.py:8-35`) |
| `parseChain`, `parse`               | `parse_chain` without and with stop tokens (`:38-69`) |
| `parseDivider`                      | `parse_divider` (`:72-114`) |
| `serializeChain`, `serializeBlock`  | `serialize_chain` (`:117-143`) and its loop body |

The token list the two parsers share and pop from is passed along: each returns the blocks it
read and the tokens it left. `parseFrom` counts the recursion down; a chain never recurses more
often than it has tokens (`parseFrom_eq`), and the equations of `parse` do not mention the count.

`parse_serializeChain` is the round trip for a well-formed chain in front of any tokens and
under any stop tokens; `parseChain_serializeChain` is the whole-list case.
-/

namespace Pygt1000

inductive Block where
  | effect (name : String)
  | divider (dividerName : String) (branchA branchB : List Block) (mixerName : String)
deriving Repr

namespace Chain

/-! ## Parsing -/

/-- `divider_name.replace("DIVIDER", "")` (`:82`, `:135`). -/
def dividerId (dividerName : String) : String := removeAll dividerName "DIVIDER"

def branchSplitToken (dividerId : String) : String := "BRANCHSPLIT" ++ dividerId

def mixerToken (dividerId : String) : String := "MIXER" ++ dividerId

/-- `parse_divider` (`:72-114`), given the `parse_chain` it calls for its branches. -/
def parseDividerWith (parse : List String → List String → List Block × List String)
    (tokens : List String) (dividerName : String) : Block × List String :=
  let id := dividerId dividerName
  match parse tokens [branchSplitToken id, mixerToken id] with
  | (branchA, []) => (.divider dividerName branchA [] "", [])
  | (branchA, nextToken :: rest) =>
    if startsWith nextToken "BRANCHSPLIT" then
      match parse rest [mixerToken id] with
      | (branchB, []) => (.divider dividerName branchA branchB "", [])
      | (branchB, mixer :: rest) => (.divider dividerName branchA branchB mixer, rest)
    -- The mixer directly: "unusual, but the GT might allow an empty branch B".
    else (.divider dividerName branchA [] nextToken, rest)

/-- `parse_chain` (`:38-69`), recursing at most `n` deep. -/
def parseFrom : Nat → List String → List String → List Block × List String
  | 0, tokens, _ => ([], tokens)
  | _ + 1, [], _ => ([], [])
  | n + 1, token :: rest, stopTokens =>
    if token ∈ stopTokens then ([], token :: rest)
    else if startsWith token "DIVIDER" then
      let divider := parseDividerWith (parseFrom n) rest token
      let chain := parseFrom n divider.2 stopTokens
      (divider.1 :: chain.1, chain.2)
    else
      let chain := parseFrom n rest stopTokens
      (.effect token :: chain.1, chain.2)

def parse (tokens stopTokens : List String) : List Block × List String :=
  parseFrom tokens.length tokens stopTokens

def parseDivider (tokens : List String) (dividerName : String) : Block × List String :=
  parseDividerWith parse tokens dividerName

/-- `parse_chain(tokens)`, and the tokens left over. -/
def parseChain (tokens : List String) : List Block × List String := parse tokens []

/-! ## Serializing -/

mutual
/-- The tokens of one block (`:124-142`). -/
def serializeBlock : Block → List String
  | .effect name => [name]
  | .divider dividerName branchA branchB mixerName =>
    dividerName :: (serializeChain branchA ++ branchSplitToken (dividerId dividerName) ::
      (serializeChain branchB ++ [mixerName]))
/-- `serialize_chain` (`:117-143`). -/
def serializeChain : List Block → List String
  | [] => []
  | block :: blocks => serializeBlock block ++ serializeChain blocks
end

/-! ## The parser never recurses deeper than it has tokens -/

section

variable {parse parse' : List String → List String → List Block × List String}

/-- A divider leaves a tail of the tokens it was given, if its branches do. -/
theorem parseDividerWith_suffix (h : ∀ tokens stop, (parse tokens stop).2 <:+ tokens)
    (tokens : List String) (dividerName : String) :
    (parseDividerWith parse tokens dividerName).2 <:+ tokens := by
  have hA := h tokens [branchSplitToken (dividerId dividerName), mixerToken (dividerId dividerName)]
  simp only [parseDividerWith]
  split
  · exact List.nil_suffix
  · next branchA next rest heq =>
    rw [heq] at hA
    have hrest : rest <:+ tokens := (List.suffix_cons next rest).trans hA
    have hB := h rest [mixerToken (dividerId dividerName)]
    split
    · split
      · exact List.nil_suffix
      · next branchB mixer rest' heq' =>
        rw [heq'] at hB
        exact ((List.suffix_cons mixer rest').trans hB).trans hrest
    · exact hrest

/-- A divider asks its branches only about the tokens it was given and what is left of them. -/
theorem parseDividerWith_congr {tokens : List String}
    (hle : ∀ tokens stop, (parse tokens stop).2 <:+ tokens)
    (h : ∀ rest stop, rest.length ≤ tokens.length → parse rest stop = parse' rest stop)
    (dividerName : String) :
    parseDividerWith parse tokens dividerName = parseDividerWith parse' tokens dividerName := by
  have hA := hle tokens [branchSplitToken (dividerId dividerName), mixerToken (dividerId dividerName)]
  simp only [parseDividerWith, ← h tokens _ (Nat.le_refl _)]
  split
  · rfl
  · next branchA next rest heq =>
    rw [heq] at hA
    rw [h rest _ ((List.suffix_cons next rest).trans hA).length_le]

end

theorem parseFrom_suffix (n : Nat) : ∀ tokens stop, (parseFrom n tokens stop).2 <:+ tokens := by
  induction n with
  | zero => exact fun tokens _ => List.suffix_refl tokens
  | succ n ih =>
    intro tokens stop
    cases tokens with
    | nil => exact List.suffix_refl []
    | cons token rest =>
      rw [parseFrom]
      split
      · exact List.suffix_refl _
      split
      · have hdivider := parseDividerWith_suffix ih rest token
        exact ((ih _ stop).trans hdivider).trans (List.suffix_cons token rest)
      · exact (ih rest stop).trans (List.suffix_cons token rest)

theorem parseFrom_congr (n : Nat) : ∀ m tokens stop, tokens.length ≤ n → tokens.length ≤ m →
    parseFrom n tokens stop = parseFrom m tokens stop := by
  induction n with
  | zero =>
    intro m tokens stop hn _
    obtain rfl := List.eq_nil_of_length_eq_zero (Nat.le_zero.1 hn)
    cases m <;> rfl
  | succ n ih =>
    intro m tokens stop hn hm
    cases tokens with
    | nil => cases m <;> rfl
    | cons token rest =>
      obtain ⟨m, rfl⟩ : ∃ k, m = k + 1 := ⟨m - 1, by rw [List.length_cons] at hm; omega⟩
      have hn : rest.length ≤ n := Nat.le_of_succ_le_succ hn
      have hm : rest.length ≤ m := Nat.le_of_succ_le_succ hm
      have hdivider : parseDividerWith (parseFrom n) rest token =
          parseDividerWith (parseFrom m) rest token :=
        parseDividerWith_congr (parseFrom_suffix n)
          (fun rest' stop' hle => ih m rest' stop' (hle.trans hn) (hle.trans hm)) token
      have hle := (parseDividerWith_suffix (parseFrom_suffix m) rest token).length_le
      simp only [parseFrom, hdivider, ih m rest stop hn hm,
        ih m (parseDividerWith (parseFrom m) rest token).2 stop (hle.trans hn) (hle.trans hm)]

theorem parseFrom_eq {n : Nat} {tokens : List String} (h : tokens.length ≤ n) (stop : List String) :
    parseFrom n tokens stop = parse tokens stop :=
  parseFrom_congr n tokens.length tokens stop h (Nat.le_refl _)

/-! ## The loop of `parse_chain` -/

section

variable {token : String} {rest stop : List String}

@[simp] theorem parse_nil (stop : List String) : parse [] stop = ([], []) := rfl

theorem parse_suffix (tokens stop : List String) : (parse tokens stop).2 <:+ tokens :=
  parseFrom_suffix _ _ _

theorem parseDivider_suffix (tokens : List String) (dividerName : String) :
    (parseDivider tokens dividerName).2 <:+ tokens :=
  parseDividerWith_suffix parse_suffix tokens dividerName

/-- A stop token is left for the caller. -/
theorem parse_stop (h : token ∈ stop) : parse (token :: rest) stop = ([], token :: rest) := by
  simp [parse, parseFrom, h]

theorem parse_effect (hs : token ∉ stop) (hd : startsWith token "DIVIDER" = false) :
    parse (token :: rest) stop = ((.effect token) :: (parse rest stop).1, (parse rest stop).2) := by
  simp [parse, parseFrom, hs, hd]

theorem parse_divider (hs : token ∉ stop) (hd : startsWith token "DIVIDER" = true) :
    parse (token :: rest) stop =
      ((parseDivider rest token).1 :: (parse (parseDivider rest token).2 stop).1,
        (parse (parseDivider rest token).2 stop).2) := by
  have hdivider : parseDividerWith (parseFrom rest.length) rest token = parseDivider rest token :=
    parseDividerWith_congr (parseFrom_suffix _) (fun _ stop' hle => parseFrom_eq hle stop') token
  simp only [parse, parseFrom, List.length_cons, hs, hd, if_false, if_true, hdivider,
    parseFrom_eq (parseDivider_suffix rest token).length_le stop]

end

/-! What `parse_divider` returns, by the token it stops at. -/

section

variable {dividerName : String} {tokens rest rest' : List String} {branchA branchB : List Block}

theorem branchSplitToken_startsWith (id : String) :
    startsWith (branchSplitToken id) "BRANCHSPLIT" = true := startsWith_append _ _

theorem mixerToken_not_branchSplit (id : String) :
    startsWith (mixerToken id) "BRANCHSPLIT" = false := by
  rw [startsWith, mixerToken, String.toList_append]
  rfl

theorem parseDivider_endA
    (hA : parse tokens [branchSplitToken (dividerId dividerName), mixerToken (dividerId dividerName)] =
      (branchA, [])) :
    parseDivider tokens dividerName = (.divider dividerName branchA [] "", []) := by
  simp [parseDivider, parseDividerWith, hA]

theorem parseDivider_direct
    (hA : parse tokens [branchSplitToken (dividerId dividerName), mixerToken (dividerId dividerName)] =
      (branchA, mixerToken (dividerId dividerName) :: rest)) :
    parseDivider tokens dividerName =
      (.divider dividerName branchA [] (mixerToken (dividerId dividerName)), rest) := by
  simp [parseDivider, parseDividerWith, hA, mixerToken_not_branchSplit]

theorem parseDivider_endB
    (hA : parse tokens [branchSplitToken (dividerId dividerName), mixerToken (dividerId dividerName)] =
      (branchA, branchSplitToken (dividerId dividerName) :: rest))
    (hB : parse rest [mixerToken (dividerId dividerName)] = (branchB, [])) :
    parseDivider tokens dividerName = (.divider dividerName branchA branchB "", []) := by
  simp [parseDivider, parseDividerWith, hA, hB, branchSplitToken_startsWith]

theorem parseDivider_split (dividerName : String)
    (hA : parse tokens [branchSplitToken (dividerId dividerName), mixerToken (dividerId dividerName)] =
      (branchA, branchSplitToken (dividerId dividerName) :: rest))
    (hB : parse rest [mixerToken (dividerId dividerName)] =
      (branchB, mixerToken (dividerId dividerName) :: rest')) :
    parseDivider tokens dividerName =
      (.divider dividerName branchA branchB (mixerToken (dividerId dividerName)), rest') := by
  simp [parseDivider, parseDividerWith, hA, hB, branchSplitToken_startsWith]

end

theorem serializeChain_append (blocks blocks' : List Block) :
    serializeChain (blocks ++ blocks') = serializeChain blocks ++ serializeChain blocks' := by
  induction blocks with
  | nil => rfl
  | cons block blocks ih => simp [serializeChain, ih]

theorem serializeChain_singleton (block : Block) : serializeChain [block] = serializeBlock block := by
  simp [serializeChain]

/-! ## Well-formed chains -/

mutual
/-- No effect passes for a divider, a divider carries the tokens of its id, and no effect that
stands directly in one of its branches passes for a token that ends the branch. -/
def WellFormedBlock : Block → Prop
  | .effect name => startsWith name "DIVIDER" = false
  | .divider dividerName branchA branchB mixerName =>
    ∃ id, dividerName = "DIVIDER" ++ id ∧ ¬ "DIVIDER".toList <:+: id.toList ∧
      mixerName = mixerToken id ∧
      .effect (branchSplitToken id) ∉ branchA ∧ .effect (mixerToken id) ∉ branchA ∧
      .effect (mixerToken id) ∉ branchB ∧ WellFormed branchA ∧ WellFormed branchB
/-- Every block is. -/
def WellFormed : List Block → Prop
  | [] => True
  | block :: blocks => WellFormedBlock block ∧ WellFormed blocks
end

/-- The token a block starts with. -/
def blockHead : Block → String
  | .effect name => name
  | .divider dividerName _ _ _ => dividerName

theorem dividerId_append {id : String} (h : ¬ "DIVIDER".toList <:+: id.toList) :
    dividerId ("DIVIDER" ++ id) = id := removeAll_append (by decide) h

theorem branchSplitToken_not_divider (id : String) :
    startsWith (branchSplitToken id) "DIVIDER" = false := by
  rw [startsWith, branchSplitToken, String.toList_append]
  rfl

theorem mixerToken_not_divider (id : String) : startsWith (mixerToken id) "DIVIDER" = false := by
  rw [startsWith, mixerToken, String.toList_append]
  rfl

theorem WellFormed.of_mem {blocks : List Block} (h : WellFormed blocks) {block : Block}
    (hb : block ∈ blocks) : WellFormedBlock block := by
  induction blocks with
  | nil => cases hb
  | cons b blocks ih =>
    rw [WellFormed] at h
    rcases List.mem_cons.1 hb with rfl | hb
    · exact h.1
    · exact ih h.2 hb

/-- A token that ends a branch starts a block of it only if an effect has its name. -/
theorem head_ne_of_wellFormed {name : String} {blocks : List Block} (h : WellFormed blocks)
    (hname : startsWith name "DIVIDER" = false) (hno : .effect name ∉ blocks) :
    ∀ block ∈ blocks, blockHead block ≠ name := by
  rintro (n | ⟨d, a, b, mixerName⟩) hb rfl
  · exact hno hb
  · have hd := WellFormed.of_mem h hb
    rw [WellFormedBlock] at hd
    obtain ⟨id, rfl, -⟩ := hd
    rw [blockHead, startsWith_append] at hname
    cases hname

/-! ## The round trip -/

/-- The blocks `pre`, then what parsing the rest gives. -/
def prepend (pre : List Block) (parsed : List Block × List String) : List Block × List String :=
  (pre ++ parsed.1, parsed.2)

@[simp] theorem prepend_nil (parsed : List Block × List String) : prepend [] parsed = parsed := rfl
theorem prepend_prepend (pre pre' : List Block) (parsed : List Block × List String) :
    prepend pre (prepend pre' parsed) = prepend (pre ++ pre') parsed := by
  simp [prepend]

mutual
/-- A well-formed block is read back, and the loop goes on with what follows it. -/
theorem parse_serializeBlock : ∀ block, WellFormedBlock block → ∀ rest stop,
    blockHead block ∉ stop →
    parse (serializeBlock block ++ rest) stop = prepend [block] (parse rest stop)
  | .effect name, hwf, rest, stop, hs => by
    rw [WellFormedBlock] at hwf
    exact parse_effect hs hwf
  | .divider dividerName branchA branchB mixerName, hwf, rest, stop, hs => by
    rw [WellFormedBlock] at hwf
    obtain ⟨id, rfl, hid, rfl, hsplitA, hmixA, hmixB, hwfA, hwfB⟩ := hwf
    have hA := parse_serializeChain branchA hwfA
      (branchSplitToken id :: (serializeChain branchB ++ mixerToken id :: rest))
      [branchSplitToken id, mixerToken id] (fun block hb => by
        have h1 := head_ne_of_wellFormed hwfA (branchSplitToken_not_divider id) hsplitA block hb
        have h2 := head_ne_of_wellFormed hwfA (mixerToken_not_divider id) hmixA block hb
        simp [h1, h2])
    have hB := parse_serializeChain branchB hwfB (mixerToken id :: rest) [mixerToken id]
      (fun block hb => by
        simpa using head_ne_of_wellFormed hwfB (mixerToken_not_divider id) hmixB block hb)
    rw [parse_stop (by simp), prepend, List.append_nil] at hA hB
    have hparse := parseDivider_split ("DIVIDER" ++ id)
      (by rw [dividerId_append hid]; exact hA) (by rw [dividerId_append hid]; exact hB)
    rw [dividerId_append hid] at hparse
    have htokens : serializeBlock (.divider ("DIVIDER" ++ id) branchA branchB (mixerToken id)) ++ rest =
        ("DIVIDER" ++ id) :: (serializeChain branchA ++
          branchSplitToken id :: (serializeChain branchB ++ mixerToken id :: rest)) := by
      simp [serializeBlock, dividerId_append hid]
    rw [blockHead] at hs
    rw [htokens, parse_divider hs (startsWith_append _ _), hparse]
    rfl
/-- Well-formed blocks are read back, and the loop goes on with what follows them. -/
theorem parse_serializeChain : ∀ blocks, WellFormed blocks → ∀ rest stop,
    (∀ block ∈ blocks, blockHead block ∉ stop) →
    parse (serializeChain blocks ++ rest) stop = prepend blocks (parse rest stop)
  | [], _, rest, stop, _ => rfl
  | block :: blocks, hwf, rest, stop, hs => by
    rw [WellFormed] at hwf
    have h1 := parse_serializeBlock block hwf.1 (serializeChain blocks ++ rest) stop
      (hs block List.mem_cons_self)
    have h2 := parse_serializeChain blocks hwf.2 rest stop
      (fun b hb => hs b (List.mem_cons_of_mem block hb))
    rw [serializeChain, List.append_assoc, h1, h2, prepend_prepend]
    rfl
end

/-- **`parse_chain` undoes `serialize_chain`** on well-formed chains of any size and depth and
leaves no token, so serializing gives back every token list such a chain has. -/
theorem parseChain_serializeChain (blocks : List Block) (h : WellFormed blocks) :
    parseChain (serializeChain blocks) = (blocks, []) ∧
      ∀ tokens, tokens = serializeChain blocks → serializeChain (parseChain tokens).1 = tokens := by
  have hparse : parseChain (serializeChain blocks) = (blocks, []) := by
    have hall := parse_serializeChain blocks h [] [] (fun _ _ => List.not_mem_nil)
    simpa [parseChain, prepend] using hall
  refine ⟨hparse, ?_⟩
  rintro _ rfl
  rw [hparse]

/-- A divider inside branch A of another. -/
theorem parseChain_nested :
    parseChain (serializeChain [.divider "DIVIDER1"
        [.divider "DIVIDER2" [.effect "CHORUS"] [.effect "DELAY1"] "MIXER2"] [.effect "REVERB"] "MIXER1"]) =
      ([.divider "DIVIDER1"
        [.divider "DIVIDER2" [.effect "CHORUS"] [.effect "DELAY1"] "MIXER2"] [.effect "REVERB"] "MIXER1"],
        []) ∧
    ∀ tokens, tokens = serializeChain [.divider "DIVIDER1"
        [.divider "DIVIDER2" [.effect "CHORUS"] [.effect "DELAY1"] "MIXER2"] [.effect "REVERB"] "MIXER1"] →
      serializeChain (parseChain tokens).1 = tokens := by
  refine parseChain_serializeChain _ ?_
  simp only [WellFormed, WellFormedBlock, and_true]
  refine ⟨"1", rfl, by decide, rfl, by simp, by simp, by simp [mixerToken], ?_, by decide⟩
  exact ⟨"2", rfl, by decide, rfl, by simp [branchSplitToken], by simp [mixerToken],
    by simp [mixerToken], by decide, by decide⟩

end Chain

end Pygt1000
