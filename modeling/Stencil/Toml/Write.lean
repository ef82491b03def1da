import Stencil.Toml.Document
import Stencil.Value.Shown

/-!
Writing of TOML documents. The plain values of a table come first and its tables after them, each
under its full name. An array takes one line for each member; an array of tables is written inline
unless one of them would not fit its line. A missing value has no form.
-/

namespace Stencil.Toml

/-! ## Strings and keys -/

def escapeCharacter (c : Char) : List Char :=
  match c with
  | '\x08' => ['\\', 'b']
  | '\n' => ['\\', 'n']
  | '\x0c' => ['\\', 'f']
  | '\r' => ['\\', 'r']
  | '"' => ['\\', '"']
  | '\\' => ['\\', '\\']
  | _ => if isBarredFromLine c then '\\' :: 'u' :: Quoted.hexDigits 4 c.toNat else [c]

def stringText (text : String) : String :=
  .ofList ('"' :: text.toList.flatMap escapeCharacter ++ ['"'])

def keyText (name : String) : String :=
  if name != "" && name.toList.all isBareKeyCharacter then name else stringText name

example : ["a-1", "", "é"].map keyText = ["a-1", "\"\"", "\"é\""] := by decide +kernel

/-! ## Values on a line of their own -/

def indentOf (level : Nat) : String := String.join (List.replicate level "    ")

mutual

/-- The text of a value inside an array at a level of nesting; none if something in it has no
form. -/
def inlineText? (level : Nat) : Value → Option String
  | .null => none
  | .bool true => some "true"
  | .bool false => some "false"
  | .text value => some (stringText value)
  | .list [] => some "[]"
  | .list (member :: later) => do
      let lines ← memberLines? level (member :: later)
      return "[\n" ++ joinTexts ",\n" lines ++ ",\n" ++ indentOf level ++ "]"
  | .table [] => some "\x7b\x7d"
  | .table (entry :: later) => do
      let parts ← inlineEntries? (entry :: later)
      return "\x7b " ++ joinTexts ", " parts ++ " \x7d"
  | value => some value.shown

def memberLines? (level : Nat) : List Value → Option (List String)
  | [] => some []
  | member :: later => do
      let text ← inlineText? (level + 1) member
      return (indentOf (level + 1) ++ text) :: (← memberLines? level later)

def inlineEntries? : List (String × Value) → Option (List String)
  | [] => some []
  | (key, value) :: later => do
      let text ← inlineText? 0 value
      return (keyText key ++ " = " ++ text) :: (← inlineEntries? later)

end

/-! ## Tables -/

/-- The most characters of a line with an inline table. -/
def longestLine : Nat := 100

/-- Whether a table fits a line of an array. One without a form stays there, to fail there. -/
def fitsLine (member : Value) : Bool :=
  match inlineText? 0 member with
  | none => true
  | some text =>
      (indentOf 1 ++ text ++ ",").length ≤ longestLine && !text.toList.contains '\n'

def isTable : Value → Bool
  | .table _ => true
  | _ => false

/-- Whether the value of a key is written in blocks of its own. -/
def standsApart : Value → Bool
  | .table _ => true
  | .list members => !members.isEmpty && members.all isTable && !members.all fitsLine
  | _ => false

def below (name key : String) : String :=
  if name == "" then keyText key else name ++ "." ++ keyText key

/-- The lines of the plain values of a table. -/
def plainLines? (entries : List (String × Value)) : Option String :=
  String.join <$> (entries.filter (!standsApart ·.2)).mapM fun (key, value) => do
    return keyText key ++ " = " ++ (← inlineText? 0 value) ++ "\n"

/-- The block of a table without the tables in it: its name, which a table that holds nothing but
tables does not need, and its plain values. -/
def headBlock? (name : String) (inArray : Bool) (entries : List (String × Value)) :
    Option (List String) := do
  let lines ← plainLines? entries
  let isNamed := inArray ||
    (name != "" && (entries.any (!standsApart ·.2) || !entries.any (standsApart ·.2)))
  let header := if inArray then s!"[[{name}]]\n" else if isNamed then s!"[{name}]\n" else ""
  return if header == "" && lines == "" then [] else [header ++ lines]

mutual

/-- The blocks of the tables among entries of the table `name`. -/
def blocksBelow? (name : String) : List (String × Value) → Option (List String)
  | [] => some []
  | (key, value) :: later => do
      let blocks ← blocksOf? (below name key) value
      return blocks ++ (← blocksBelow? name later)

/-- The blocks of a value that stands apart. -/
def blocksOf? (name : String) : Value → Option (List String)
  | .table entries => do
      return (← headBlock? name false entries) ++ (← blocksBelow? name entries)
  | .list members => if standsApart (.list members) then arrayBlocks? name members else some []
  | _ => some []

def arrayBlocks? (name : String) : List Value → Option (List String)
  | [] => some []
  | .table entries :: later => do
      return (← headBlock? name true entries) ++ (← blocksBelow? name entries) ++
        (← arrayBlocks? name later)
  | _ :: later => arrayBlocks? name later

end

/-- The document of a table, with a blank line between its blocks. None if a value is missing. -/
def write? (table : Table) : Option String := do
  let blocks := (← headBlock? "" false table) ++ (← blocksBelow? "" table)
  return joinTexts "\n" blocks

/-- Why `write?` gives nothing. -/
def missingValueMessage : String := "Object of type 'NoneType' is not TOML serializable"

example : write? [("a", .table [("b", .int 1)]), ("c", .list [.int 2])] =
    some "c = [\n    2,\n]\n\n[a]\nb = 1\n" := by
  decide +kernel

end Stencil.Toml
