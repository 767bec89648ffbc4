import Pygt1000.Basic
import Pygt1000.Lib.BigEndian
import Pygt1000.Lib.Dict
import Pygt1000.Lib.Passes
import Pygt1000.Lib.Text

/-!
# From the parameter tables to the spec files (`scripts/options-to-json.py`)

| here | there |
| --- | --- |
| `parseValueRange`, `offsetToInt`, `expandRange` | the same (`options-to-json.py:8-33`) |
| `spanShaped`, `fixSpanTail`, `fixSpanTails` | `span_re`, `fix_span_tails` (`:39-72`) |
| `State`, `fresh` | the loop's variables (`:76-87`) |
| `readLine` | what a line is, and what is read from it (`:91-145`) |
| `storeOptions`, `storeRow` | what a line of options and a named row do (`:118-125`, `:141-181`) |
| `processData` | `process_data` |

A line is first read, then acted on: `readLine` depends on the state only through whether
`current_name` is a non-empty string. `current_name` and `current_value_range` are always set
together and are one variable here. The `print`s are left out.
-/

namespace Pygt1000.OptionsToJson

/-- What a named row stores; `bytes` is there for a field of several addresses only. -/
structure Entry where
  offset : List Int
  valueRange : List Int
  bytes : Option Int
  values : List (String × Int)
deriving DecidableEq, Repr

/-- A row with a name and a range. -/
structure Row where
  name : String
  offset : List Int
  valueRange : List Int
deriving DecidableEq, Repr

inductive Line where
  /-- `|# AA BB |`: the first address of a field of several. -/
  | marker (start : List Int)
  | options (items : List String)
  | row (r : Row)
  /-- What is skipped. -/
  | other
deriving DecidableEq, Repr

/-! ## Reading a line -/

/-- `int(x, base)`. -/
def toInt (base : Nat) (x : List Char) : Except PyErr Int :=
  match Text.int? base x with
  | some n => .ok n
  | none => .error .valueError

/-- `parse_value_range` (`:8-11`). -/
def parseValueRange (s : List Char) : Except PyErr (List Int) :=
  ((Text.strip (fun c => c = '(' || c = ')') s).splitOn '-').mapM (toInt 10)

/-- `offset_to_int` (`:14-16`): `bytes` refuses what is not a byte. -/
def offsetToInt (offsetBytes : List Int) : Except PyErr Int :=
  if ∀ b ∈ offsetBytes, 0 ≤ b ∧ b < 256 then .ok (BigEndian.value 256 (offsetBytes.map Int.toNat))
  else .error .valueError

/-- `f"{i / divide}"`, where the quotient has at most one decimal. -/
def tenths (i : Int) : List Char :=
  (toString (i / 10)).toList ++ '.' :: (toString (i % 10)).toList

/-- `expand_range` (`:24-33`), called with `divide` 1 or 10. -/
def expandRange (first last : Int) (unit : String) (divide : Nat) : List Char :=
  "| | | ".toList ++
    ((List.range (last + 1 - first).toNat).flatMap fun i =>
      let value := first + i
      (if divide ≠ 1 then tenths value else (toString value).toList) ++ unit.toList ++ ", ".toList) ++
    "|".toList

/-- The lines whose list is written as a range (`:103-113`). -/
def expandShorthand (line : List Char) : List Char :=
  if line = "| | | -20 - 0 - +20 [dB] |".toList then expandRange (-20) 20 "dB" 1
  else if line = "| | | -50 - 50 |".toList then expandRange (-50) 50 "" 1
  else if line = "| | | -10 - 10 |".toList then expandRange (-10) 10 "" 1
  else if line = "| | | 0.1s, 0.2s - 10.0s |".toList then expandRange 1 100 "s" 10
  else if line = "| | | -50 - -1, 0, +1 - +50 |".toList then expandRange (-50) 50 "" 1
  else line

/-- `line.split("|")[i].strip()`, for a line with that many columns. -/
def column (i : Nat) (line : List Char) : List Char :=
  Text.strip Text.isSpace ((line.splitOn '|').getD i [])

/-- `[int(x, 16) for x in txt.split()]`. -/
def hexBytes (txt : List Char) : Except PyErr (List Int) := (Text.words txt).mapM (toInt 16)

/-- The options a line lists (`:118-119`). -/
def optionsOf (line : List Char) : List String :=
  ((((line.splitOn '|').getD 3 []).splitOn ',').map (Text.strip Text.isSpace)).filterMap fun opt =>
    if opt = [] then none else some (String.ofList opt)

/-- The address, name and range of a row (`:127-145`), before the renaming. -/
def readRow (line : List Char) : Except PyErr Line := do
  let offset ← hexBytes (column 1 line)
  match Text.splitLast '(' (column 3 line) with
  | none => return .other
  | some (name, valueRange) =>
    let valueRange ← parseValueRange valueRange
    return .row ⟨String.ofList (Text.strip Text.isSpace name), offset, valueRange⟩

/-- `line.strip()`. -/
def stripLine (text : String) : List Char := Text.strip Text.isSpace text.toList

/-- What a line is (`:91-145`); `opened` is the truth value of `current_name`. -/
def readLine (opened : Bool) (text : String) : Except PyErr Line :=
  let line := stripLine text
  if "|# ".toList <+: line then
    (hexBytes (Text.strip Text.isSpace ((column 1 line).dropWhile (· = '#')))).map .marker
  else if "| : | | |".toList <+: line then .ok .other
  else if opened ∧ "| | |".toList <+: line then
    let line := expandShorthand line
    .ok (if column 3 line = "[ms]".toList then .other else .options (optionsOf line))
  else if "|".toList <+: line ∧ 3 < (line.splitOn '|').length then readRow line
  else .ok .other

/-! ## The loop -/

/-- The variables of the loop (`:76-87`). -/
structure State where
  result : List (String × Entry)
  /-- `current_name` with `current_value_range`. -/
  current : Option (String × List Int)
  offset : Nat
  conflictCount : List (String × Nat)
  pendingStart : Option (List Int)
deriving DecidableEq, Repr

def fresh : State := ⟨[], none, 0, [], none⟩

/-- Whether `current_name` is a name. -/
def State.opened (s : State) : Bool := s.current.any fun c => c.1 ≠ ""

/-- The renaming of the two names of the fx table (`:139-144`). -/
def storedName (name : String) : String :=
  if name = "FX SW" then "SW" else if name = "FX1 TYPE" then "TYPE" else name

/-- The number a row with a name that is taken gets (`:151-154`). -/
def State.conflict (s : State) (name : String) : Nat := (s.conflictCount.lookup name).getD 0 + 1

/-- The key a row with this name, as the code renamed it, is stored under (`:150-158`). -/
def State.keyFor (s : State) (name : String) : String :=
  if name ∈ Dict.keys s.result then name ++ toString (s.conflict name) else name

/-- What a named row stores (`:162-176`). -/
def newEntry (pendingStart : Option (List Int)) (r : Row) : Except PyErr Entry :=
  match pendingStart with
  | some start => do
    let last ← offsetToInt r.offset
    let first ← offsetToInt start
    return ⟨start, r.valueRange, some (last - first + 1), []⟩
  | none => .ok ⟨r.offset, r.valueRange, none, []⟩

/-- The variables after a row has stored an entry (`:150-158`, `:170`, `:178-181`). -/
def State.withRow (s : State) (r : Row) (entry : Entry) : State :=
  let name := storedName r.name
  { result := Dict.set (s.keyFor name) entry s.result
    current := some (s.keyFor name, r.valueRange)
    offset := 0
    conflictCount :=
      if name ∈ Dict.keys s.result then Dict.set name (s.conflict name) s.conflictCount
      else s.conflictCount
    pendingStart := none }

/-- A named row (`:141-181`). -/
def storeRow (s : State) (r : Row) : Except PyErr State :=
  (newEntry s.pendingStart r).map (s.withRow r)

/-- `{n: start + i for i, n in enumerate(names)}`, for names that differ. -/
def number (start : Int) : List String → List (String × Int)
  | [] => []
  | name :: names => (name, start) :: number (start + 1) names

/-- The options of a line, numbered from `start` (`:122-124`). -/
def assign (start : Int) (values : List (String × Int)) : List String → List (String × Int)
  | [] => values
  | option :: options => assign (start + 1) (Dict.set option start values) options

/-- A line of options (`:118-125`). The current name is always a key of the result, and its range
is never empty. -/
def storeOptions (s : State) (items : List String) : State :=
  match s.current with
  | none => s
  | some (name, range) =>
    { s with
      result := Dict.modify name
        (fun e => { e with values := assign (range.headD 0 + s.offset) e.values items }) s.result
      offset := s.offset + items.length }

/-- The loop's body (`:89-181`). -/
def step (s : State) (line : String) : Except PyErr State := do
  match ← readLine s.opened line with
  | .marker start => return { s with pendingStart := some start }
  | .options items => return storeOptions s items
  | .row r => storeRow s r
  | .other => return s

/-! ## Spans with named tails -/

/-- One or more characters that meet `p`, and what follows. -/
def some1 (p : Char → Bool) : List Char → Option (List Char)
  | [] => none
  | c :: s => if p c then some (s.dropWhile p) else none

def isNumeral (c : Char) : Bool := c = '.' || (Text.digit? c).isSome

def isLetter (c : Char) : Bool := ('a' ≤ c && c ≤ 'z') || ('A' ≤ c && c ≤ 'Z')

/-- `span_re.match` (`:55`, `:61`). A part of the pattern takes all it can, since none of what it takes can
begin a later part that has to be there; an option is stripped, so `$` is its end. -/
def spanShaped (option : String) : Bool :=
  let spaces := List.dropWhile Text.isSpace
  let rest := do
    let s ← some1 isNumeral option.toList
    let s ← match spaces ((spaces s).dropWhile isLetter) with
      | '-' :: s => some s
      | _ => none
    let s ← some1 isNumeral (spaces s)
    some1 isLetter (spaces s)
  rest = some []

/-- One entry of `fix_span_tails` (`:56-71`). -/
def fixSpanTail (e : Entry) : Except PyErr Entry :=
  match e.values with
  | [] => .ok e
  | (first, _) :: tail =>
    if !spanShaped first then .ok e
    else if tail = [] then .ok { e with values := [] }
    else match e.valueRange with
      | [lo, hi] =>
        let start := hi - tail.length + 1
        if start ≤ lo then .ok e
        else .ok { e with values := number start (tail.map Prod.fst) }
      | _ => .error .valueError

/-- `fix_span_tails` (`:39-72`). -/
def fixSpanTails (result : List (String × Entry)) : Except PyErr (List (String × Entry)) :=
  result.mapM fun x => (fixSpanTail x.2).map (Prod.mk x.1)

/-- `process_data` (`:75-183`). -/
def processData (lines : List String) : Except PyErr (List (String × Entry)) := do
  fixSpanTails (← lines.foldlM step fresh).result

end Pygt1000.OptionsToJson
