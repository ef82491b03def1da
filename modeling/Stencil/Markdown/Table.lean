import Stencil.Markdown.Cell
import Stencil.Text.Width

/-!
Tables in Markdown. The cells of a column are read in the light of those above them, and decide
its kind. Numbers stand at the right, and so do all cells of a column of numbers; other cells stand
at the left, and headers in the middle. Columns are as wide as their widest cell on a terminal.
-/

namespace Stencil.Markdown

/-! ## Cells of a column -/

/-- How often each kind has been met, in the order in which they were met first. -/
abbrev Tally := List (CellKind × Nat)

namespace Tally

def add (kind : CellKind) : Tally → Tally
  | [] => [(kind, 1)]
  | (met, count) :: later =>
      if met == kind then (met, count + 1) :: later else (met, count) :: add kind later

/-- The most frequent kind, of several the one that was met first. -/
def leading? : Tally → Option CellKind
  | [] => none
  | (kind, count) :: later =>
      if later.all (·.2 ≤ count) then some kind else leading? later

end Tally

example : Tally.leading? [(.integer, 1), (.text, 2), (.truth, 2)] = some .text := by decide

/-- The cells of a column. Where most cells so far are texts, the next one is a text too. -/
def readCells (tally : Tally) : List String → List Cell
  | [] => []
  | given :: later =>
      let given := cellText given
      let cell := if tally.leading? == some .text then .text given else Cell.ofText given
      cell :: readCells (tally.add cell.kind) later

example : readCells [] ["x", "1"] = [.text "x", .text "1"] := by decide +kernel

/-! ## Widths -/

/-- What follows the parameters of a terminal sequence, up to its last character. -/
def afterSequence? (text : List Char) : Option (List Char) :=
  let rest := text.dropWhile fun c => '0' ≤ c && c ≤ '?'
  match rest.dropWhile fun c => ' ' ≤ c && c ≤ '/' with
  | last :: rest => if '@' ≤ last && last ≤ '~' then some rest else none
  | [] => none

/-- A text without its terminal sequences, `fuel` characters of it at the most. -/
def dropSequences : (fuel : Nat) → List Char → List Char
  | 0, text => text
  | _, [] => []
  | fuel + 1, c :: rest =>
      let sequence? := match c, rest with
        | '\x1b', '[' :: inner => afterSequence? inner
        | '\x9b', inner => afterSequence? inner
        | _, _ => none
      match sequence? with
      | some later => dropSequences fuel later
      | none => c :: dropSequences fuel rest

/-- The columns of a text on a terminal; sequences that set its colours take none. -/
def visibleWidth (text : String) : Nat :=
  let characters := text.toList
  displayWidth (.ofList (dropSequences characters.length characters))

example : visibleWidth "\x1b[1mb\x1b[0m" = 1 := by decide +kernel

def blanks (count : Nat) : String := .ofList (List.replicate count ' ')

/-- A bar inside a cell is escaped, and takes no room for it. -/
def escapeBars (text : String) : String :=
  .ofList (text.toList.flatMap fun c => if c == '|' then ['\\', '|'] else [c])

/-! ## Columns -/

structure Column where
  header : String
  cells : List Cell

namespace Column

/-- The kinds that stand for a column in which they occur, the strongest first. -/
def kindOrder : List CellKind := [.text, .real, .integer, .truth, .infinity, .notANumber, .blank]

def numberKinds : List CellKind := [.integer, .real, .infinity, .notANumber]

/-- The kind of a column: of numbers of several kinds it is a real one, and truth values beside
other cells make it one of texts. -/
def kind (column : Column) : CellKind :=
  let kinds := kindOrder.filter fun kind => column.cells.any (·.kind == kind)
  if 2 ≤ kinds.length && kinds.all numberKinds.contains then .real
  else if 2 ≤ kinds.length && kinds.contains .truth then .text
  else kinds.head?.getD .text

def isNumeric (column : Column) : Bool := column.kind == .real || column.kind == .integer

/-- The places of the numbers in a column of real numbers: one more than they have on average,
but no more than the most that one of them has. -/
def places (column : Column) : Nat :=
  let all := column.cells.filterMap Cell.places?
  let total := all.foldl (· + ·) 0
  min ((total + all.length - 1) / all.length + 1) (all.foldl max 0)

/-- The text of a cell in its column. -/
def shown (column : Column) (cell : Cell) : String :=
  if column.kind == .real then cell.shownWith column.places else cell.shown

/-- The least width that the line below the headers needs. -/
def leastWidth : Nat := 3

def width (column : Column) : Nat :=
  (column.cells.map fun cell => visibleWidth (column.shown cell)).foldl max
    (max leastWidth (visibleWidth column.header))

/-- The header in the middle of a column. -/
def headerText (column : Column) : String :=
  let gap := column.width - visibleWidth column.header
  escapeBars (blanks (gap / 2) ++ column.header ++ blanks (gap - gap / 2))

/-- The rule below a header, with a colon at the side of a column of numbers. -/
def rule (column : Column) : String :=
  if column.isNumeric then .ofList (List.replicate (column.width - 1) '-') ++ ":"
  else .ofList (List.replicate column.width '-')

/-- A cell at its side of a column. -/
def cellText (column : Column) (cell : Cell) : String :=
  let text := column.shown cell
  let gap := blanks (column.width - visibleWidth text)
  let isRight := column.isNumeric || cell.places?.isSome
  escapeBars (if isRight then gap ++ text else text ++ gap)

end Column

example : (Column.mk "x" ([.integer 1, .real ⟨false, 25, -1⟩])).places = 1 := by decide +kernel

/-! ## Tables -/

def line (cells : List String) : String :=
  "| " ++ joinTexts " | " cells ++ " |\n"

/-- The columns of rows under their headers; a cell that a row lacks is empty. -/
def columnsOf (headers : List String) (rows : List (List String)) : List Column :=
  headers.mapIdx fun position header =>
    ⟨cellText header, readCells [] (rows.map fun row => row[position]?.getD "")⟩

/-- A table with a line of headers, a rule, and a line for each row. Without headers and rows it is
empty. -/
def table (headers : List String) (rows : List (List String)) : String :=
  let columns := columnsOf headers rows
  if headers.isEmpty && rows.isEmpty then ""
  else line (columns.map Column.headerText) ++ line (columns.map Column.rule) ++
    String.join ((List.range rows.length).map fun position =>
      line (columns.map fun column =>
        column.cellText (column.cells[position]?.getD .blank)))

example : table ["#", "Type"] [["1", "007"], ["2", "str"]] =
    "|  #  | Type |\n| --: | ---- |\n|   1 |    7 |\n|   2 | str  |\n" := by
  decide +kernel

example : table ["x"] [["1.5"], ["2"]] = "|  x  |\n| --: |\n| 1.5 |\n| 2.0 |\n" := by
  decide +kernel

end Stencil.Markdown
