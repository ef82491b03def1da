import Stencil.Text.Printable

/-!
Quoted literals: a text between single quotes, or between double quotes where it holds single
quotes and no double ones, with a backslash escape for the quote, the backslash and every
character that is not printable. The literal is one line of printable characters.
-/

namespace Stencil.Quoted

def hexDigit (value : Nat) : Char :=
  if value < 10 then Char.ofNat (0x30 + value) else Char.ofNat (0x57 + value)

/-- The lowest `width` hexadecimal digits of `value`, in small letters. -/
def hexDigits : (width : Nat) → (value : Nat) → List Char
  | 0, _ => []
  | width + 1, value => hexDigits width (value / 16) ++ [hexDigit (value % 16)]

example : hexDigits 4 0xad = "00ad".toList := by decide

def quoteFor (text : List Char) : Char :=
  if text.contains '\'' && !text.contains '"' then '"' else '\''

def escape (quote c : Char) : List Char :=
  if c == quote || c == '\\' then ['\\', c]
  else if c == '\n' then ['\\', 'n']
  else if c == '\r' then ['\\', 'r']
  else if c == '\t' then ['\\', 't']
  else if Character.isPrintable c then [c]
  else if c.toNat < 0x100 then ['\\', 'x'] ++ hexDigits 2 c.toNat
  else if c.toNat < 0x10000 then ['\\', 'u'] ++ hexDigits 4 c.toNat
  else ['\\', 'U'] ++ hexDigits 8 c.toNat

def encode (text : List Char) : List Char :=
  let quote := quoteFor text
  quote :: text.flatMap (escape quote) ++ [quote]

def literal (text : String) : String :=
  .ofList (encode text.toList)

example : literal "it's" = "\"it's\"" := by decide +kernel

example : literal "'\"\n" = "'\\'\"\\n'" := by decide +kernel

example : literal "\x00\u2028😀" = "'\\x00\\u2028😀'" := by decide +kernel

end Stencil.Quoted
