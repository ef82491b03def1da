import Stencil.Number.Decimal
import Stencil.Number.Layout
import Stencil.Text.Lines

/-!
Cells of a table. A text that reads as a number, a truth value or nothing is a cell of that kind,
and is written in the form of its kind.
-/

namespace Stencil.Markdown

inductive CellKind where
  | text
  | integer
  | real
  | infinity
  | notANumber
  | truth
  | blank
deriving DecidableEq, Repr

inductive Cell where
  | text (value : String)
  | integer (value : Int)
  | real (value : Decimal)
  | infinity
  | notANumber
  | truth (value : Bool)
  | blank
deriving DecidableEq, Repr

/-! ## Text of a cell -/

def isLineEnd (c : Char) : Bool := c == '\r' || c == '\n'

/-- A cell is one line: a run of line ends becomes a space, and a tab two. -/
def flatten : (inBreak : Bool) → List Char → List Char
  | _, [] => []
  | inBreak, c :: rest =>
      if isLineEnd c then (if inBreak then [] else [' ']) ++ flatten true rest
      else (if c == '\t' then [' ', ' '] else [c]) ++ flatten false rest

/-- The text of a cell without the quotation marks around it. -/
def cellText (given : String) : String :=
  let opened := given.toList.dropWhile (· == '"')
  .ofList (flatten false (opened.reverse.dropWhile (· == '"')).reverse)

example : ["\"q\"", "a\r\n\nb", "a\tb"].map cellText = ["q", "a b", "a  b"] := by decide +kernel

namespace Cell

def kind : Cell → CellKind
  | text _ => .text
  | integer _ => .integer
  | real _ => .real
  | infinity => .infinity
  | notANumber => .notANumber
  | truth _ => .truth
  | blank => .blank

/-! ## Reading -/

/-- An integer in whose digits commas do not count. -/
def groupedInteger? (given : String) : Option Int :=
  Numeral.integer? (.ofList (given.toList.filter (· != ',')))

def ofDecimal? (value : Decimal) : Option Cell :=
  match value.whole? with
  | some whole => some (integer whole)
  | none => if value.toBinary64.isFinite then some (real value) else none

def truth? (given : String) : Option Cell :=
  let small := String.ofList (given.toList.map Char.toLower)
  if small == "true" then some (truth true)
  else if small == "false" then some (truth false)
  else none

def word (given : String) : Cell :=
  match truth? given with
  | some cell => cell
  | none => if given.toList.all Character.isBlank then blank else text given

/-- The cell that a text stands for. -/
def ofText (given : String) : Cell :=
  match groupedInteger? given, Decimal.read? given with
  | some value, _ => integer value
  | none, some .infinite => infinity
  | none, some .notANumber => notANumber
  | none, some (.number value) => (ofDecimal? value).getD (word given)
  | none, none => word given

example : ["007", "1,000", "1.5e3", "-0.0", "99e2"].map ofText =
    [7, 1000, 1500, 0, 9900].map integer := by
  decide +kernel

example : ["1.50", "-inf", "nan", "TRUE", " ", "1e309", "str"].map ofText =
    [real ⟨false, 150, -2⟩, infinity, notANumber, truth true, blank, text "1e309",
      text "str"] := by
  decide +kernel

/-! ## Writing -/

/-- The most places that a number is written with. -/
def mostPlaces : Nat := 99

/-- The places that a real number needs: those behind the point in its shortest digits, or as many
as its exponent says if these have no point. -/
def placesOf (value : Decimal) : Nat :=
  let shortest := (NumberLayout.plain.write value.toBinary64).toList
  let places := match shortest.dropWhile (· != '.') with
    | _ :: fraction => fraction.length
    | [] => Numeral.naturalOf ((shortest.dropWhile (· != 'e')).filter Char.isDigit)
  min places mostPlaces

/-- The places of a number; other cells have none. -/
def places? : Cell → Option Nat
  | integer _ => some 0
  | real value => some (placesOf value)
  | _ => none

/-- The text of a cell, in which a number has the given places. -/
def shownWith (places : Nat) : Cell → String
  | text value => value
  | integer value => (⟨value < 0, value.natAbs, 0⟩ : Decimal).fixed places
  | real value => value.fixed places
  | infinity => "Infinity"
  | notANumber => "NaN"
  | truth true => "True"
  | truth false => "False"
  | blank => ""

/-- The text of a cell on its own. -/
def shown (cell : Cell) : String := cell.shownWith (cell.places?.getD 0)

example : ["1.50", "-7", "Inf", "false", "1e-7"].map (fun given => (ofText given).shown) =
    ["1.5", "-7", "Infinity", "False", "0.0000001"] := by
  decide +kernel

end Cell

end Stencil.Markdown
