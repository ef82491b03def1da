import Stencil.Text.Lines
import Stencil.Toml.Scalar

/-!
Texts as scalars of YAML. A text may stand without quotes unless it reads as a value of another
kind, or holds something that means more than itself where it stands.
-/

namespace Stencil.Yaml

open Toml (isDigit)

/-! ## Other readings of a text -/

def isDigitOrUnderscore (c : Char) : Bool := isDigit c || c == '_'

def dropSign (text : List Char) : List Char :=
  match text with
  | '+' :: rest | '-' :: rest => rest
  | _ => text

/-- The words that stand for a truth value, for nothing, for a merge or for a default. -/
def reservedWords : List String :=
  ["yes", "no", "true", "false", "on", "off"].flatMap
      (fun word => [word, .ofList (word.toList.take 1 |>.map Char.toUpper) ++
        .ofList (word.toList.drop 1), .ofList (word.toList.map Char.toUpper)]) ++
    ["~", "null", "Null", "NULL", "", "<<", "="]

/-- A digit, and then digits and underscores. -/
def isNumeral (text : List Char) : Bool :=
  text.head?.any isDigit && text.all isDigitOrUnderscore

def isNonEmptyOf (isMember : Char → Bool) (text : List Char) : Bool :=
  !text.isEmpty && text.all isMember

/-- A part of a number to the base of sixty. -/
def isSixtieth (text : List Char) : Bool :=
  match text with
  | [c] => isDigit c
  | [c, d] => '0' ≤ c && c ≤ '5' && isDigit d
  | _ => false

/-- A numeral and at least one further part to the base of sixty, between colons. -/
def isSexagesimal (isFirst : List Char → Bool) (text : List Char) : Bool :=
  match splitAt ':' text with
  | first :: parts => isFirst first && !parts.isEmpty && parts.all isSixtieth
  | [] => false

/-- A numeral that begins with no zero. -/
def isDecimalNumeral (text : List Char) : Bool :=
  isNumeral text && text.head? != some '0'

def isInteger (text : List Char) : Bool :=
  let unsigned := dropSign text
  match unsigned with
  | '0' :: 'b' :: rest => isNonEmptyOf (fun c => c == '0' || c == '1' || c == '_') rest
  | '0' :: 'x' :: rest => isNonEmptyOf (fun c => Toml.isHexDigit c || c == '_') rest
  | '0' :: rest => rest.all fun c => ('0' ≤ c && c ≤ '7') || c == '_'
  | _ => isDecimalNumeral unsigned || isSexagesimal isDecimalNumeral unsigned

/-- An exponent with its sign, or nothing. -/
def isExponent (text : List Char) : Bool :=
  match text with
  | [] => true
  | e :: sign :: digits =>
      (e == 'e' || e == 'E') && (sign == '+' || sign == '-') && isNonEmptyOf isDigit digits
  | _ => false

def isFloat (text : List Char) : Bool :=
  let unsigned := dropSign text
  let whole := unsigned.takeWhile (· != '.')
  match unsigned.drop whole.length with
  | '.' :: rest =>
      let fraction := rest.takeWhile isDigitOrUnderscore
      let isDecimal := isExponent (rest.drop fraction.length)
      if whole.isEmpty then
        ["inf", "Inf", "INF"].any (·.toList == rest) ||
          (unsigned.length == text.length &&
            ((isNumeral fraction && isDecimal) || ["nan", "NaN", "NAN"].any (·.toList == rest)))
      else
        (isNumeral whole && isDecimal) ||
          (isSexagesimal isNumeral whole && rest.all isDigitOrUnderscore)
  | _ => false

/-- The rest after one to `most` digits. -/
def dropDigits? (most : Nat) (text : List Char) : Option (List Char) :=
  let digits := (text.take most).takeWhile isDigit
  if digits.isEmpty then none else some (text.drop digits.length)

/-- The rest after exactly `count` digits. -/
def dropExactly? (count : Nat) (text : List Char) : Option (List Char) :=
  if (text.take count).length == count && (text.take count).all isDigit then
    some (text.drop count)
  else none

def isSpaceOrTab (c : Char) : Bool := c == ' ' || c == '\t'

/-- Whether a text is an offset from universal time, or nothing. -/
def isZone (text : List Char) : Bool :=
  match text.dropWhile isSpaceOrTab with
  | [] => text.isEmpty
  | ['Z'] => true
  | sign :: rest =>
      (sign == '+' || sign == '-') &&
        match dropDigits? 2 rest with
        | some [] => true
        | some (':' :: minutes) => dropExactly? 2 minutes == some []
        | _ => false

/-- Whether a text is a time of day, with or without a fraction and a zone. -/
def isClock (text : List Char) : Bool :=
  let afterSeconds := do
    let rest ← Toml.expect? ':' (← dropDigits? 2 text)
    let rest ← Toml.expect? ':' (← dropExactly? 2 rest)
    dropExactly? 2 rest
  match afterSeconds with
  | some ('.' :: rest) => isZone (rest.dropWhile isDigit)
  | some rest => isZone rest
  | none => false

/-- What follows the day of a date. -/
def isAfterDay (text : List Char) : Bool :=
  match text with
  | c :: rest =>
      if c == 'T' || c == 't' then isClock rest
      else isSpaceOrTab c && isClock (rest.dropWhile isSpaceOrTab)
  | [] => false

def isTimestamp (text : List Char) : Bool :=
  let isDate := do
    let rest ← Toml.expect? '-' (← dropExactly? 4 text)
    let rest ← Toml.expect? '-' (← dropExactly? 2 rest)
    dropExactly? 2 rest
  let afterDate := do
    let rest ← Toml.expect? '-' (← dropExactly? 4 text)
    let rest ← Toml.expect? '-' (← dropDigits? 2 rest)
    dropDigits? 2 rest
  isDate == some [] || afterDate.any isAfterDay

/-- Whether a text would be read as something else than a text. -/
def readsOtherwise (text : List Char) : Bool :=
  reservedWords.any (·.toList == text) || isInteger text || isFloat text || isTimestamp text

example : ["yes", "NO", "1_000", "0o7", "1:30", "1.", "1e5", ".5", "2020-1-2", "y"].map
    (fun text => readsOtherwise text.toList) =
    [true, true, true, false, true, true, false, true, false, false] := by
  decide +kernel

/-! ## Characters that mean more -/

def isBreak (c : Char) : Bool := c == '\n' || c == '\x85' || c == '\u2028' || c == '\u2029'

def isBlankOrBreak (c : Char) : Bool :=
  c == '\x00' || c == ' ' || c == '\t' || c == '\r' || isBreak c

/-- Whether `c` must be escaped wherever it stands. -/
def isSpecial (c : Char) : Bool :=
  let n := c.toNat
  let isPlain :=
    c == '\n' || (0x20 ≤ n && n ≤ 0x7e) || n == 0x85 || (0xa0 ≤ n && n ≤ 0xd7ff) ||
      (0xe000 ≤ n && n ≤ 0xfffd) || (0x10000 ≤ n && n < 0x10ffff)
  !isPlain || n == 0xfeff

/-- Whether the end of the text or a blank comes next. -/
def endsWord (later : List Char) : Bool := (later.head?.map isBlankOrBreak).getD true

/-- Whether a text begins with a character that is an indicator there. -/
def beginsWithIndicator (text : List Char) : Bool :=
  match text with
  | [] => false
  | c :: rest =>
      "#,[]\x7b\x7d&*!|>'\"%@`".toList.contains c ||
        ((c == '?' || c == ':' || c == '-') && endsWord rest)

/-- Whether a colon in front of a blank, or a hash behind one, stands after the first character,
`before`. -/
def holdsIndicator (before : Char) : List Char → Bool
  | [] => false
  | c :: rest =>
      (c == ':' && endsWord rest) || (c == '#' && isBlankOrBreak before) || holdsIndicator c rest

/-- Whether two neighbours stand anywhere in a text for which `related` holds. -/
def hasNeighbours (related : Char → Char → Bool) : List Char → Bool
  | c :: d :: rest => related c d || hasNeighbours related (d :: rest)
  | _ => false

def isMultiline (text : List Char) : Bool := text.any isBreak

/-- Whether a text survives between single quotes. -/
def allowsSingleQuotes (text : List Char) : Bool :=
  !text.any isSpecial && !hasNeighbours (fun c d => c == ' ' && isBreak d) text &&
    !hasNeighbours (fun c d => isBreak c && d == ' ') text

/-- Whether a text survives without quotes. -/
def allowsPlain (text : List Char) : Bool :=
  let bad (end? : Option Char) := end?.any fun c => c == ' ' || isBreak c
  allowsSingleQuotes text && !isMultiline text && !bad text.head? && !bad text.getLast? &&
    !"---".toList.isPrefixOf text && !"...".toList.isPrefixOf text &&
    !beginsWithIndicator text && !holdsIndicator (text.headD ' ') text.tail

inductive Style where
  | plain
  | singleQuoted
  | doubleQuoted
deriving DecidableEq, Repr

/-- The style of a text. -/
def styleOf (text : List Char) : Style :=
  if !readsOtherwise text && allowsPlain text then .plain
  else if allowsSingleQuotes text then .singleQuoted
  else .doubleQuoted

example : ["a", "a: b", "a:b", "", "it's", "\t", "- a", "-a", "a #b"].map
    (fun text => styleOf text.toList) =
    [.plain, .singleQuoted, .plain, .singleQuoted, .plain, .doubleQuoted, .singleQuoted, .plain,
      .singleQuoted] := by
  decide +kernel

end Stencil.Yaml
