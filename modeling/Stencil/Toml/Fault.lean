import Stencil.Text.Lines
import Stencil.Text.Quoted

/-!
What can be wrong with a TOML document, and where. A place is told by the number of characters
that are left from it on, which a reader knows without counting from the front.
-/

namespace Stencil.Toml

/-- A dotted key, or the chain of keys that leads to a table. -/
abbrev Key := List String

inductive Cause where
  | invalidStatement
  | statementGoesOn
  | missing (delimiter : String)
  | controlCharacter (c : Char)
  | declaredTwice (key : Key)
  | overwritten
  | openTableName
  | openArrayName
  | immutable (key : Key)
  | redefined (key : Key)
  | missingEquals
  | invalidKey
  | openArray
  | openInlineTable
  | duplicateKey (name : String)
  | unknownEscape
  | invalidHexadecimal
  | noScalarValue
  | openString
  | illegalCharacter (c : Char)
  | invalidDate
  | invalidValue
  /-- An integer with more digits than may be read; this fault has no place of its own. -/
  | longInteger (digits : Nat)
deriving DecidableEq, Repr

structure Fault where
  cause : Cause
  left : Nat
deriving DecidableEq, Repr

/-- Fails in front of `rest`. -/
def failAt {α : Type} (rest : List Char) (cause : Cause) : Except Fault α :=
  .error ⟨cause, rest.length⟩

/-- The most digits of a decimal integer. -/
def longestInteger : Nat := 4300

def quotedKey (key : Key) : String :=
  match key.map Quoted.literal with
  | [only] => s!"({only},)"
  | names => "(" ++ joinTexts ", " names ++ ")"

def Cause.message : Cause → String
  | invalidStatement => "Invalid statement"
  | statementGoesOn => "Expected newline or end of document after a statement"
  | missing delimiter => s!"Expected {Quoted.literal delimiter}"
  | controlCharacter c => s!"Found invalid character {Quoted.literal (.singleton c)}"
  | declaredTwice key => s!"Cannot declare {quotedKey key} twice"
  | overwritten => "Cannot overwrite a value"
  | openTableName => "Expected ']' at the end of a table declaration"
  | openArrayName => "Expected ']]' at the end of an array declaration"
  | immutable key => s!"Cannot mutate immutable namespace {quotedKey key}"
  | redefined key => s!"Cannot redefine namespace {quotedKey key}"
  | missingEquals => "Expected '=' after a key in a key/value pair"
  | invalidKey => "Invalid initial character for a key part"
  | openArray => "Unclosed array"
  | openInlineTable => "Unclosed inline table"
  | duplicateKey name => s!"Duplicate inline table key {Quoted.literal name}"
  | unknownEscape => "Unescaped '\\' in a string"
  | invalidHexadecimal => "Invalid hex value"
  | noScalarValue => "Escaped character is not a Unicode scalar value"
  | openString => "Unterminated string"
  | illegalCharacter c => s!"Illegal character {Quoted.literal (.singleton c)}"
  | invalidDate => "Invalid date or datetime"
  | invalidValue => "Invalid value"
  | longInteger digits =>
      s!"Exceeds the limit ({longestInteger} digits) for integer string conversion: " ++
        s!"value has {digits} digits; use sys.set_int_max_str_digits() to increase the limit"

/-- The line and the column of the place after `passed`, both counted from one. -/
def placeAfter (passed : List Char) : Nat × Nat :=
  (passed.count '\n' + 1, (passed.reverse.takeWhile (· != '\n')).length + 1)

/-- The text of a fault in `document`. -/
def Fault.message (document : List Char) (fault : Fault) : String :=
  match fault.cause with
  | .longInteger digits => (Cause.longInteger digits).message
  | cause =>
      let place :=
        if fault.left == 0 then "end of document"
        else
          let (line, column) := placeAfter (document.take (document.length - fault.left))
          s!"line {line}, column {column}"
      s!"{cause.message} (at {place})"

example : (Fault.mk .invalidValue 2).message "a\nb = c\n".toList =
    "Invalid value (at line 2, column 5)" := by
  decide +kernel

end Stencil.Toml
