import Pygt1000.Lib.Affixes
import Pygt1000.Lib.Runs
import Pygt1000.Lib.Spacing
import Pygt1000.OptionsToJson
import Pygt1000.SpecToJson

/-!
# From the text of the PDF to the parameter tables (`scripts/pdf-to-tables.py`)

| here | there |
| --- | --- |
| `splitCells`, `isHexBytes`, `isFurniture`, `formatRow` | the same (`pdf-to-tables.py:71-110`) |
| `canonicalName`                    | `canonical_name` (`:113-129`) |
| `sectionNames?`, `isChapter`       | `SECTION_RE`, `CHAPTER_RE` (`:44-45`) |
| `State`, `step`                    | the variables of `parse_tables` and the body of its loop (`:134-201`) |
| `parseTables`                      | `parse_tables` |
| `tableKind`, `rowsToJson`          | `table_kind`, `rows_to_json` (`:206-226`) |

The lines are what pypdf makes of the pages. A cell is a list of characters, a row and a name of a
table are strings.
-/

namespace Pygt1000.PdfTables

abbrev Cell := List Char

/-! ## Rows and cells -/

/-- `re.sub(r"\s+", " ", p).strip()`. -/
def cleaned (p : List Char) : Cell := Text.strip Text.isSpace (Text.collapse p)

/-- `split_cells` (`:71-77`). -/
def splitCells (line : List Char) : List Cell :=
  (((Text.strip Text.isSpace line).splitOn '|').drop 1).dropLast.map cleaned

/-- `HEX_BYTE_RE.match` (`:46`), of a token without white space. -/
def isHexByte (token : List Char) : Bool :=
  let hex c := ('0' ≤ c && c ≤ '9') || ('A' ≤ c && c ≤ 'F')
  match token with
  | [a, b] => hex a && hex b
  | _ => false

/-- `is_hex_bytes` (`:80-84`). -/
def isHexBytes (cell : Cell) (count : Option Nat) : Bool :=
  let toks := Text.words (cell.dropWhile (· = '#'))
  count.all (· = toks.length) && !toks.isEmpty && toks.all isHexByte

/-- `HEADER_CELLS` (`:48`). -/
def headerCells : List Cell :=
  ["Offset".toList, "Address".toList, "Description".toList, "Start".toList]

/-- `is_furniture` (`:87-95`). -/
def isFurniture (cells : List Cell) : Bool :=
  if cells = [] then true
  else if cells.all fun c => c.all ['-', '+', ' '].contains then true
  else
    let nonempty := cells.filter (· ≠ [])
    nonempty ≠ [] && nonempty.all headerCells.contains

/-- What a cell adds to the row (`:103-109`). -/
def formatCell (cell : Cell) : List Char :=
  match cell with
  | [] => [' ', '|']
  | '#' :: _ => cell ++ [' ', '|']
  | _ => ' ' :: cell ++ [' ', '|']

/-- `format_row` (`:98-110`). -/
def formatRow (cells : List Cell) : String := String.ofList ('|' :: cells.flatMap formatCell)

/-! ## Headers -/

/-- `canonical_name` (`:113-129`), of a list that is not empty. -/
def canonicalName : List (List Char) → List Char
  | [] => []
  | [name] => name
  | first :: names =>
    let front := names.foldl (fun p n => Affixes.keepPrefix n p) first
    let back := names.foldl (fun s n => Affixes.keepSuffix n s) first
    if (first :: names).any fun n => n.length < front.length + back.length then front
    else front ++ back

/-- `[n.strip() for n in m.group(1).split(",")]` of a match of `SECTION_RE` (`:143-145`). -/
def sectionNames? : List Char → Option (List (List Char))
  | '*' :: s =>
    match s.dropWhile Text.isSpace with
    | '[' :: s =>
      let group := s.takeWhile (· ≠ ']')
      if group ≠ [] ∧ group.length < s.length then
        some ((group.splitOn ',').map (Text.strip Text.isSpace))
      else none
    | _ => none
  | _ => none

/-- `CHAPTER_RE.match` (`:45`): a number, a dot, white space, and then anything else. -/
def isChapter (stripped : List Char) : Bool :=
  match OptionsToJson.some1 (fun c => (Text.digit? c).isSome) stripped with
  | some ('.' :: s) => (OptionsToJson.some1 Text.isSpace s).any (· ≠ [])
  | _ => false

/-- `"address map" in stripped.lower()`. Of the letters that only `str.lower` knows the small form
of, none becomes one of these. -/
def namesAddressMap (stripped : List Char) : Bool :=
  decide ("address map".toList <:+: stripped.map Char.toLower)

/-! ## The loop -/

structure State where
  tables : List (String × List String)
  current : Option String
  inAddressMap : Bool
  auxSkip : Bool
deriving DecidableEq, Repr

def fresh : State := ⟨[], none, false, false⟩

/-- `tables.setdefault(name, [])`, and the rows it gets after those it has. -/
def addRows (name : String) (rows : List String) (tables : List (String × List String)) :
    List (String × List String) :=
  Dict.set name ((tables.lookup name).getD [] ++ rows) tables

def State.addRow (s : State) (name : String) (row : String) : State :=
  { s with tables := addRows name [row] s.tables }

def elision : String := "| : | | |"

/-- A row of cells that is no furniture, no total and no header of a target list (`:182-201`). -/
def readRow (s : State) (cells : List Cell) : State :=
  let first := cells.headD []
  match s.current with
  | none =>
    if s.inAddressMap && decide (2 ≤ cells.length) && isHexBytes first (some 4) then
      s.addRow "base-addresses" (formatRow cells)
    else s
  | some name =>
    if first ≠ [] ∧ first ≠ [':'] ∧ isHexBytes first none = false then s
    else if first = [':'] then
      if 3 ≤ cells.length then s.addRow name elision else s
    else s.addRow name (formatRow cells)

/-- A line that starts with a pipe (`:164-201`). -/
def readPiped (s : State) (cells : List Cell) : State :=
  if isFurniture cells then s
  else if "Total Size".toList ∈ cells then s
  else if cells.head? = some ['#'] then { s with auxSkip := true }
  else if s.auxSkip then s
  else readRow s cells

/-- The body of the loop (`:140-201`). -/
def step (s : State) (raw : String) : State :=
  let stripped := Text.strip Text.isSpace raw.toList
  match sectionNames? stripped with
  | some names =>
    let name := String.ofList (canonicalName names)
    { tables := addRows name [] s.tables, current := some name, inAddressMap := false, auxSkip := false }
  | none =>
    if isChapter stripped then
      { s with current := none, inAddressMap := namesAddressMap stripped, auxSkip := false }
    else if stripped.head? = some '|' then readPiped s (splitCells stripped)
    else s

/-- `parse_tables` (`:132-203`). -/
def parseTables (lines : List String) : List (String × List String) :=
  (Runs.run step fresh lines).tables.filter fun x => x.2 ≠ []

/-! ## The converters -/

inductive Kind where
  | map
  | params
deriving DecidableEq, Repr

/-- `table_kind` (`:206-214`). -/
def tableKind : List String → Kind
  | [] => .params
  | row :: rows =>
    let cells := splitCells row.toList
    if cells.length = 2 ∧ '[' ∈ cells.getLastD [] then .map
    else if 3 ≤ cells.length then .params
    else tableKind rows

/-- What a converter makes of a table. -/
inductive Json where
  | map (entries : List (String × SpecToJson.Entry))
  | params (entries : List (String × OptionsToJson.Entry))
deriving DecidableEq, Repr

/-- `rows_to_json` (`:217-226`): `None` where the converter raises. -/
def rowsToJson (rows : List String) : Kind → Option Json
  | .map => (SpecToJson.convertToJson rows).toOption.map .map
  | .params => (OptionsToJson.processData rows).toOption.map .params

end Pygt1000.PdfTables
