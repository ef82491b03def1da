import Stencil.Number.MachineWord
import Stencil.Toml.Scalar
import Stencil.Value.Basic

/-!
Strict reading of JSON: no comments, no comma in front of a closing bracket, no number that is
none, and escapes of surrogates only in pairs. An integer that does not fit 64 bits becomes a
floating-point number; of a key that is written twice, the later value counts.
-/

namespace Stencil.Json

open Toml (digitRun hexNumber? isDigit naturalOf)

def isBlank (c : Char) : Bool := c == ' ' || c == '\t' || c == '\n' || c == '\r'

def skipBlanks (text : List Char) : List Char := text.dropWhile isBlank

/-- The most levels of nesting. -/
def deepestLevel : Nat := 1024

/-! ## Strings -/

def simpleEscape? (c : Char) : Option Char :=
  match c with
  | '"' => some '"'
  | '\\' => some '\\'
  | '/' => some '/'
  | 'b' => some '\x08'
  | 'f' => some '\x0c'
  | 'n' => some '\n'
  | 'r' => some '\r'
  | 't' => some '\t'
  | _ => none

/-- The code unit that four hexadecimal digits write. -/
def codeUnit? (text : List Char) : Option Nat :=
  if text.length < 4 then none else hexNumber? (text.take 4)

/-- The character that an escape stands for, and the number of characters that it takes up after
its backslash. -/
def escape? (text : List Char) : Option (Char × Nat) :=
  match text with
  | 'u' :: rest => do
      let unit ← codeUnit? rest
      if unit < 0xD800 || 0xDFFF < unit then return (Char.ofNat unit, 5)
      if 0xDBFF < unit then none
      match rest.drop 4 with
      | '\\' :: 'u' :: later => do
          let low ← codeUnit? later
          if low < 0xDC00 || 0xDFFF < low then none
          return (Char.ofNat (0x10000 + (unit - 0xD800) * 0x400 + (low - 0xDC00)), 11)
      | _ => none
  | c :: _ => (simpleEscape? c).map (·, 1)
  | [] => none

/-- The contents of a string up to its closing quote; the first `skip` characters belong to an
escape already read. -/
def stringAfter? (skip : Nat) : List Char → Option (List Char × List Char)
  | [] => none
  | c :: rest =>
      match skip with
      | skip + 1 => stringAfter? skip rest
      | 0 =>
          if c == '"' then some ([], rest)
          else if c == '\\' then do
            let (value, length) ← escape? rest
            let (contents, left) ← stringAfter? length rest
            return (value :: contents, left)
          else if c.toNat < 0x20 then none
          else do
            let (contents, left) ← stringAfter? 0 rest
            return (c :: contents, left)

/-! ## Numbers -/

/-- Digits in front of a point; a zero stands alone. -/
def wholeDigits? (text : List Char) : Option (List Char × List Char) :=
  match text with
  | '0' :: rest => some (['0'], rest)
  | _ =>
      let digits := text.takeWhile isDigit
      if digits.isEmpty then none else some (digits, text.drop digits.length)

/-- Digits behind a point; none without a point. -/
def fractionDigits? (text : List Char) : Option (List Char × List Char) :=
  match text with
  | '.' :: rest =>
      let digits := rest.takeWhile isDigit
      if digits.isEmpty then none else some (digits, rest.drop digits.length)
  | _ => some ([], text)

/-- The power of ten behind an exponent mark, if there is a mark. -/
def exponent? (text : List Char) : Option (Option Int × List Char) :=
  match text with
  | c :: rest =>
      if c == 'e' || c == 'E' then
        let (sign, rest) : Int × List Char := match rest with
          | '+' :: rest => (1, rest)
          | '-' :: rest => (-1, rest)
          | _ => (1, rest)
        let digits := rest.takeWhile isDigit
        if digits.isEmpty then none
        else some (some (sign * naturalOf digits), rest.drop digits.length)
      else some (none, text)
  | [] => some (none, text)

/-- The number of digits written, as a value; one beyond all floating-point numbers is none. -/
def numberValue? (negative : Bool) (whole fraction : List Char) (exponent : Option Int) :
    Option Value :=
  let magnitude := naturalOf whole
  let integer : Int := if negative then -magnitude else magnitude
  if fraction.isEmpty && exponent.isNone && fitsEither integer then some (.int integer)
  else
    match Binary64.ofDecimal negative (naturalOf (whole ++ fraction))
        (exponent.getD 0 - fraction.length) with
    | .finite sign mantissa power => some (.float (.finite sign mantissa power))
    | _ => none

def number? (text : List Char) : Option (Value × List Char) := do
  let (negative, text) := match text with
    | '-' :: rest => (true, rest)
    | _ => (false, text)
  let (whole, rest) ← wholeDigits? text
  let (fraction, rest) ← fractionDigits? rest
  let (exponent, rest) ← exponent? rest
  return (← numberValue? negative whole fraction exponent, rest)

/-! ## Values -/

mutual

/-- A value at the head of a text. `limit` bounds the number of values still to be read, and
`level` the levels of nesting that are left. -/
def value? : (limit : Nat) → (level : Nat) → List Char → Option (Value × List Char)
  | 0, _, _ => none
  | limit + 1, level, text =>
      match skipBlanks text with
      | '"' :: rest => do
          let (contents, rest) ← stringAfter? 0 rest
          return (.text (.ofList contents), rest)
      | '[' :: rest =>
          if level == 0 then none
          else match skipBlanks rest with
          | ']' :: rest => some (.list [], rest)
          | rest => do
              let (members, rest) ← members? limit (level - 1) rest
              return (.list members, rest)
      | '{' :: rest =>
          if level == 0 then none
          else match skipBlanks rest with
          | '}' :: rest => some (.table [], rest)
          | rest => do
              let (entries, rest) ← entries? limit (level - 1) rest
              return (.table (Table.ofEntries entries), rest)
      | 't' :: 'r' :: 'u' :: 'e' :: rest => some (.bool true, rest)
      | 'f' :: 'a' :: 'l' :: 's' :: 'e' :: rest => some (.bool false, rest)
      | 'n' :: 'u' :: 'l' :: 'l' :: rest => some (.null, rest)
      | text => number? text

def members? : (limit : Nat) → (level : Nat) → List Char → Option (List Value × List Char)
  | 0, _, _ => none
  | limit + 1, level, text => do
      let (member, rest) ← value? limit level text
      match skipBlanks rest with
      | ']' :: rest => return ([member], rest)
      | ',' :: rest => do
          let (members, rest) ← members? limit level rest
          return (member :: members, rest)
      | _ => none

def entries? : (limit : Nat) → (level : Nat) → List Char →
    Option (List (String × Value) × List Char)
  | 0, _, _ => none
  | limit + 1, level, text =>
      match skipBlanks text with
      | '"' :: rest => do
          let (key, rest) ← stringAfter? 0 rest
          match skipBlanks rest with
          | ':' :: rest => do
              let (member, rest) ← value? limit level rest
              match skipBlanks rest with
              | '}' :: rest => return ([(.ofList key, member)], rest)
              | ',' :: rest => do
                  let (entries, rest) ← entries? limit level rest
                  return ((.ofList key, member) :: entries, rest)
              | _ => none
          | _ => none
      | _ => none

end

/-- The value that a whole text writes. -/
def read? (text : String) : Option Value :=
  let characters := text.toList
  match value? (characters.length + 1) deepestLevel characters with
  | some (value, rest) => if (skipBlanks rest).isEmpty then some value else none
  | none => none

end Stencil.Json
