import Stencil.Number.MachineWord
import Stencil.Value.Shown

/-!
Writing of JSON. Documents keep every character that needs no escape, and refuse integers that do
not fit 64 bits and tables that are nested too deeply. Records of a log are one line of ASCII, in which a value that JSON does not have
is written as it would be shown quoted.
-/

namespace Stencil.Json

/-! ## Strings -/

def shortEscape? (c : Char) : Option (List Char) :=
  match c with
  | '"' => some ['\\', '"']
  | '\\' => some ['\\', '\\']
  | '\x08' => some ['\\', 'b']
  | '\t' => some ['\\', 't']
  | '\n' => some ['\\', 'n']
  | '\x0c' => some ['\\', 'f']
  | '\r' => some ['\\', 'r']
  | _ => none

def unitEscape (unit : Nat) : List Char := '\\' :: 'u' :: Quoted.hexDigits 4 unit

/-- A character by its code units, of which one beyond the first plane has two. -/
def unitEscapes (c : Char) : List Char :=
  if c.toNat < 0x10000 then unitEscape c.toNat
  else
    let offset := c.toNat - 0x10000
    unitEscape (0xD800 + offset / 0x400) ++ unitEscape (0xDC00 + offset % 0x400)

/-- A string in which the characters are escaped for which `isEscaped` holds. -/
def stringText (isEscaped : Char → Bool) (text : String) : String :=
  .ofList ('"' :: (text.toList.flatMap fun c =>
    match shortEscape? c with
    | some escape => escape
    | none => if isEscaped c then unitEscapes c else [c]) ++ ['"'])

def isControl (c : Char) : Bool := c.toNat < 0x20

def isNotPrintableAscii (c : Char) : Bool := c.toNat < 0x20 || 0x7e < c.toNat

example : stringText isControl "é\n\x01" = "\"é\\n\\u0001\"" := by decide +kernel

example : stringText isNotPrintableAscii "é😀" = "\"\\u00e9\\ud83d\\ude00\"" := by decide +kernel

/-! ## Documents -/

/-- Whether a document is one line, or has a line for each member. -/
inductive Spacing where
  | dense
  | spread
deriving DecidableEq, Repr

def lineBreak (spacing : Spacing) (level : Nat) : String :=
  match spacing with
  | .dense => ""
  | .spread => "\n" ++ String.join (List.replicate level "  ")

def colon : Spacing → String
  | .dense => ":"
  | .spread => ": "

/-- Brackets around members, the closing one at `level`. -/
def bracket (spacing : Spacing) (level : Nat) (opening closing : String)
    (members : List String) : String :=
  if members.isEmpty then opening ++ closing
  else
    let inner := lineBreak spacing (level + 1)
    opening ++ inner ++ joinTexts ("," ++ inner) members ++ lineBreak spacing level ++ closing

/-- Why a table has no document. -/
inductive WriteError where
  /-- An integer does not fit 64 bits. -/
  | wideInteger
  | tooDeep
deriving DecidableEq, Repr

def WriteError.message : WriteError → String
  | wideInteger => "Integer exceeds 64-bit range"
  | tooDeep => "Recursion limit reached"

/-- Lists and tables may stand inside each other up to this level, that of the outermost being
zero. -/
def deepestBracket : Nat := 253

mutual

def documentText (spacing : Spacing) (level : Nat) : Value → Except WriteError String
  | .null => .ok "null"
  | .bool true => .ok "true"
  | .bool false => .ok "false"
  | .int value => if fitsEither value then .ok (toString value) else .error .wideInteger
  | .float value => .ok (NumberLayout.compact.write value)
  | .text value => .ok (stringText isControl value)
  | .date value => .ok (stringText isControl value.toString)
  | .time value => .ok (stringText isControl value.toString)
  | .dateTime value => .ok (stringText isControl value.toString)
  | .list members =>
      if deepestBracket < level then .error .tooDeep
      else (documentMembers spacing (level + 1) members).map (bracket spacing level "[" "]")
  | .table entries =>
      if deepestBracket < level then .error .tooDeep
      else (documentEntries spacing (level + 1) entries).map (bracket spacing level "\x7b" "\x7d")

def documentMembers (spacing : Spacing) (level : Nat) :
    List Value → Except WriteError (List String)
  | [] => .ok []
  | member :: later => do
      let text ← documentText spacing level member
      return text :: (← documentMembers spacing level later)

def documentEntries (spacing : Spacing) (level : Nat) :
    List (String × Value) → Except WriteError (List String)
  | [] => .ok []
  | (key, value) :: later => do
      let text ← documentText spacing level value
      return (stringText isControl key ++ colon spacing ++ text) ::
        (← documentEntries spacing level later)

end

/-- The document of a table, or the first reason in it why it has none. -/
def write (spacing : Spacing) (table : Table) : Except WriteError String :=
  documentText spacing 0 (.table table)

example : (write .dense [("a", .list [.int 1, .null])]).toOption =
    some "\x7b\"a\":[1,null]\x7d" := by
  decide +kernel

/-! ## Records -/

/-- Numbers of a record; the ones without digits have names. -/
def recordNumber : NumberLayout :=
  { NumberLayout.plain with infinity := "Infinity", notANumber := "NaN" }

mutual

def recordText : Value → String
  | .null => "null"
  | .bool true => "true"
  | .bool false => "false"
  | .int value => toString value
  | .float value => recordNumber.write value
  | .text value => stringText isNotPrintableAscii value
  | .list members => "[" ++ joinTexts ", " (recordMembers members) ++ "]"
  | .table entries => "\x7b" ++ joinTexts ", " (recordEntries entries) ++ "\x7d"
  | value => stringText isNotPrintableAscii value.quoted

def recordMembers : List Value → List String
  | [] => []
  | member :: later => recordText member :: recordMembers later

def recordEntries : List (String × Value) → List String
  | [] => []
  | (key, value) :: later =>
      (stringText isNotPrintableAscii key ++ ": " ++ recordText value) :: recordEntries later

end

end Stencil.Json
