import Stencil.Template.Placeholder
import Stencil.Text.Quoted

/-!
Reading of formatted literals: the letter `f` and a quoted literal in which braces mean the same
as in a format string. What is read is the text with its holes that the literal stands for.
-/

namespace Stencil.BodyLiteral

def hexValue? (c : Char) : Option Nat :=
  if '0' ≤ c && c ≤ '9' then some (c.toNat - 0x30)
  else if 'a' ≤ c && c ≤ 'f' then some (c.toNat - 0x57)
  else none

/-- The character with the code that the first `width` characters write. -/
def codeAt? (width : Nat) (rest : List Char) : Option Char :=
  let digits := rest.take width
  if digits.length < width then none
  else (digits.foldl (fun code? digit => do return (← code?) * 16 + (← hexValue? digit))
    (some 0)).map Char.ofNat

/-- The character that an escape stands for, and the number of characters that it has after its
backslash. -/
def escaped? : List Char → Option (Char × Nat)
  | [] => none
  | c :: rest =>
      if c == '\\' || c == '\'' || c == '"' then some (c, 1)
      else if c == 'n' then some ('\n', 1)
      else if c == 'r' then some ('\r', 1)
      else if c == 't' then some ('\t', 1)
      else if c == 'x' then (codeAt? 2 rest).map (·, 3)
      else if c == 'u' then (codeAt? 4 rest).map (·, 5)
      else if c == 'U' then (codeAt? 8 rest).map (·, 9)
      else none

/-- Reads up to the closing quote, which must be the last character; the first `skip` characters
belong to a piece already read. -/
def readAfter? (quote : Char) (skip : Nat) : List Char → Option (List Piece)
  | [] => none
  | c :: rest =>
      match skip with
      | skip + 1 => readAfter? quote skip rest
      | 0 =>
          if c == quote then if rest.isEmpty then some [] else none
          else if c == '\n' then none
          else if c == '\\' then
            match escaped? rest with
            | none => none
            | some (value, length) => (readAfter? quote length rest).map (.character value :: ·)
          else if c == '{' then
            if rest.head? == some '{' then (readAfter? quote 1 rest).map (.character '{' :: ·)
            else
              let name := rest.takeWhile fun c => c != '{' && c != '}'
              if (rest.drop name.length).head? == some '}' && !name.isEmpty then
                (readAfter? quote (name.length + 1) rest).map (.field name :: ·)
              else none
          else if c == '}' then
            if rest.head? == some '}' then (readAfter? quote 1 rest).map (.character '}' :: ·)
            else none
          else (readAfter? quote 0 rest).map (.character c :: ·)

/-- The pieces of a formatted literal. -/
def read? : List Char → Option (List Piece)
  | 'f' :: quote :: rest =>
      if quote == '\'' || quote == '"' then readAfter? quote 0 rest else none
  | _ => none

example : read? "f'a\\n\x7b\x7b\x7bb\x7d\\'\\xe9'".toList =
    some ("a\n\x7b".toList.map .character ++ [.field ['b']] ++ "'é".toList.map .character) := by
  decide +kernel

end Stencil.BodyLiteral
