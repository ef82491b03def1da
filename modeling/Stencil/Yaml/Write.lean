import Stencil.Value.Shown
import Stencil.Yaml.Plain

/-!
Writing of YAML documents in block style, the keys of a table in their order. A line is broken at a
single space once it is longer than 80 columns. Where the next indicator stands depends on what has
been written on its line, so a document is written on a sheet that remembers that.
-/

namespace Stencil.Yaml

/-! ## Sheets -/

/-- `written` holds the characters in reverse. `afterBlank` says whether the next indicator needs
no space before it, and `isMargin` whether nothing but indentation and indicators of blocks stands
on the line. -/
structure Sheet where
  written : List Char := []
  column : Nat := 0
  afterBlank : Bool := true
  isMargin : Bool := true

namespace Sheet

def text (sheet : Sheet) : String := .ofList sheet.written.reverse

def put (sheet : Sheet) (characters : List Char) : Sheet :=
  { sheet with
    written := characters.reverse ++ sheet.written
    column := sheet.column + characters.length }

def breakLine (sheet : Sheet) (end_ : Char) : Sheet :=
  { written := end_ :: sheet.written, column := 0, afterBlank := true, isMargin := true }

def indicator (sheet : Sheet) (needsBlank : Bool) (mark : String) (staysMargin : Bool) : Sheet :=
  let characters := if sheet.afterBlank || !needsBlank then mark.toList else ' ' :: mark.toList
  { sheet.put characters with afterBlank := false, isMargin := sheet.isMargin && staysMargin }

/-- Moves on to column `indent`, on a new line if the place is taken. -/
def indent (sheet : Sheet) (indent : Nat) : Sheet :=
  let isTaken := !sheet.isMargin || indent < sheet.column ||
    (sheet.column == indent && !sheet.afterBlank)
  let sheet := if isTaken then sheet.breakLine '\n' else sheet
  if sheet.column < indent then
    { sheet.put (List.replicate (indent - sheet.column) ' ') with afterBlank := true }
  else sheet

end Sheet

/-- The column after which a line is broken. -/
def bestWidth : Nat := 80

/-! ## Scalars -/

/-- Where a scalar stands: whether its lines may be broken, and where they go on. -/
structure Place where
  mayBreak : Bool
  indent : Nat

/-- Writes a scalar of words between spaces. A single space at which a line is broken goes away. -/
def plainRest (place : Place) (sheet : Sheet) : List Char → Sheet
  | [] => sheet
  | c :: rest =>
      let isSingle := !(sheet.written.head? == some ' ') && rest.head? != some ' '
      if c == ' ' && isSingle && place.mayBreak && bestWidth < sheet.column then
        plainRest place { sheet.indent place.indent with afterBlank := false, isMargin := false } rest
      else plainRest place (sheet.put [c]) rest

def plain (place : Place) (sheet : Sheet) (text : List Char) : Sheet :=
  if text.isEmpty then sheet
  else
    let sheet := if sheet.afterBlank then sheet else sheet.put [' ']
    plainRest place { sheet with afterBlank := false, isMargin := false } text

/-- Writes the text between single quotes; `before` is the character before it, if there is one.
A line feed is doubled by an empty line, and the text goes on at the margin of its place. -/
def singleQuotedRest (place : Place) (before : Option Char) (sheet : Sheet) : List Char → Sheet
  | [] => sheet
  | c :: rest =>
      let sheet :=
        if isBreak c then
          let isFirst := !before.any isBreak
          let sheet := if isFirst && c == '\n' then sheet.breakLine '\n' else sheet
          let sheet := sheet.breakLine c
          if rest.head?.any isBreak then sheet else sheet.indent place.indent
        else if c == '\'' then sheet.put ['\'', '\'']
        else
          let isSingle := before != some ' ' && before.isSome && rest.head?.any (· != ' ')
          if c == ' ' && isSingle && place.mayBreak && bestWidth < sheet.column then
            sheet.indent place.indent
          else sheet.put [c]
      singleQuotedRest place (some c) sheet rest

def singleQuoted (place : Place) (sheet : Sheet) (text : List Char) : Sheet :=
  let sheet := sheet.indicator true "'" false
  (singleQuotedRest place none sheet text).indicator false "'" false

def shortEscape? (c : Char) : Option Char :=
  match c with
  | '\x00' => some '0'
  | '\x07' => some 'a'
  | '\x08' => some 'b'
  | '\t' => some 't'
  | '\n' => some 'n'
  | '\x0b' => some 'v'
  | '\x0c' => some 'f'
  | '\r' => some 'r'
  | '\x1b' => some 'e'
  | '"' => some '"'
  | '\\' => some '\\'
  | '\x85' => some 'N'
  | '\xa0' => some '_'
  | '\u2028' => some 'L'
  | '\u2029' => some 'P'
  | _ => none

/-- Whether a character stands for itself between double quotes. -/
def standsForItself (c : Char) : Bool :=
  let n := c.toNat
  ((0x20 ≤ n && n ≤ 0x7e) && c != '"' && c != '\\') ||
    ((0xa0 ≤ n && n ≤ 0xd7ff || 0xe000 ≤ n && n ≤ 0xfffd) &&
      c != '\u2028' && c != '\u2029' && c != '\ufeff')

def capitalHexDigits (width n : Nat) : List Char :=
  (Quoted.hexDigits width n).map Char.toUpper

def escaped (c : Char) : List Char :=
  match shortEscape? c with
  | some letter => ['\\', letter]
  | none =>
      if c.toNat ≤ 0xff then '\\' :: 'x' :: capitalHexDigits 2 c.toNat
      else if c.toNat ≤ 0xffff then '\\' :: 'u' :: capitalHexDigits 4 c.toNat
      else '\\' :: 'U' :: capitalHexDigits 8 c.toNat

/-- Writes the text between double quotes. `waiting` holds characters, the last one first, that
stand for themselves and are not yet written. A line is broken before a space, after an escape or
just behind the character after one, once what is written up to there does not fit; of an escape
the last character does not count. A backslash marks the break. -/
def doubleQuotedRest (place : Place) (isFirst : Bool) (waiting : List Char) (sheet : Sheet) :
    List Char → Sheet
  | [] => sheet.put waiting.reverse
  | c :: rest =>
      let isPlain := standsForItself c
      let sheet := if isPlain then sheet else (sheet.put waiting.reverse).put (escaped c)
      let pending := if isPlain then waiting else []
      let mayBreak :=
        place.mayBreak && !isFirst && !rest.isEmpty && (c == ' ' || pending.isEmpty)
      let reached := if isPlain then sheet.column + pending.length else sheet.column - 1
      if mayBreak && bestWidth < reached then
        let sheet := (sheet.put (pending.reverse ++ ['\\'])).indent place.indent
        let sheet := { sheet with afterBlank := false, isMargin := false }
        let next := if isPlain then some c else rest.head?
        let sheet := if next == some ' ' then sheet.put ['\\'] else sheet
        doubleQuotedRest place false (if isPlain then [c] else []) sheet rest
      else doubleQuotedRest place false (if isPlain then c :: pending else []) sheet rest

def doubleQuoted (place : Place) (sheet : Sheet) (text : List Char) : Sheet :=
  let sheet := sheet.indicator true "\"" false
  (doubleQuotedRest place true [] sheet text).indicator false "\"" false

def scalar (place : Place) (sheet : Sheet) (text : String) : Sheet :=
  let characters := text.toList
  match styleOf characters with
  | .plain => plain place sheet characters
  | .singleQuoted => singleQuoted place sheet characters
  | .doubleQuoted => doubleQuoted place sheet characters

/-! ## Blocks -/

/-- The number of columns that a block stands further in than the one around it. -/
def step : Nat := 2

/-- The most characters of a key on the line of its value. -/
def longestSimpleKey : Nat := 122

/-- Whether a key stands in front of its value without a mark of its own. -/
def isSimpleKey (key : String) : Bool :=
  key.length ≤ longestSimpleKey && key != "" && !isMultiline key.toList

/-- The words of a value that is neither a text nor holds other values. -/
def plainWord : Value → String
  | .null => "null"
  | .bool true => "true"
  | .bool false => "false"
  | .float value => NumberLayout.dotted.write value
  | value => value.shown

mutual

/-- Writes a value in a block that stands at `indent`; `inTable` says whether it is the value of a
key. -/
def node (inTable : Bool) (indent : Nat) (sheet : Sheet) : Value → Sheet
  | .list [] => (sheet.indicator true "[" false).indicator false "]" false
  | .list (member :: later) =>
      items (if inTable && !sheet.isMargin then indent else indent + step) sheet (member :: later)
  | .table [] => (sheet.indicator true "\x7b" false).indicator false "\x7d" false
  | .table (entry :: later) => entries (indent + step) sheet (entry :: later)
  | .text text => scalar ⟨true, indent + step⟩ sheet text
  | value => plain ⟨true, indent + step⟩ sheet (plainWord value).toList

def items (indent : Nat) (sheet : Sheet) : List Value → Sheet
  | [] => sheet
  | member :: later =>
      let sheet := (sheet.indent indent).indicator true "-" true
      items indent (node false indent sheet member) later

def entries (indent : Nat) (sheet : Sheet) : List (String × Value) → Sheet
  | [] => sheet
  | (key, value) :: later =>
      let sheet := sheet.indent indent
      let sheet :=
        if isSimpleKey key then
          (scalar ⟨false, indent + step⟩ sheet key).indicator false ":" false
        else
          let sheet := scalar ⟨true, indent + step⟩ (sheet.indicator true "?" true) key
          (sheet.indent indent).indicator true ":" true
      entries indent (node true indent sheet value) later

end

mutual

/-- The first time of day in a value, for which YAML has no form. -/
def firstTime? : Value → Option TimeOfDay
  | .time time => some time
  | .list members => firstTimeAmong? members
  | .table entries => firstTimeBelow? entries
  | _ => none

def firstTimeAmong? : List Value → Option TimeOfDay
  | [] => none
  | member :: later => (firstTime? member).or (firstTimeAmong? later)

def firstTimeBelow? : List (String × Value) → Option TimeOfDay
  | [] => none
  | (_, value) :: later => (firstTime? value).or (firstTimeBelow? later)

end

/-- The document of a table, or the first value in it that has no form. -/
def write (table : Table) : Except TimeOfDay String :=
  match firstTime? (.table table) with
  | some time => .error time
  | none =>
      match table with
      | [] => .ok "\x7b\x7d\n"
      | _ => .ok ((entries 0 {} table).indent 0).text

def unwritableMessage (time : TimeOfDay) : String :=
  s!"('cannot represent an object', {time.call})"

end Stencil.Yaml
