import Stencil.Toml.Fault

/-!
Blanks, comments and strings of TOML documents. A basic string stands between double quotes and
has escapes, a literal one between single quotes and has none; either kind may span lines between
tripled quotes. Control characters other than the tab stand in none of them.
-/

namespace Stencil.Toml

def isBlank (c : Char) : Bool := c == ' ' || c == '\t'

def isBlankOrLineEnd (c : Char) : Bool := isBlank c || c == '\n'

def isControl (c : Char) : Bool := c.toNat < 0x20 || c.toNat == 0x7f

/-- Whether a comment or a string of one line may not hold `c`. -/
def isBarredFromLine (c : Char) : Bool := isControl c && c != '\t'

/-- Whether a string of several lines may not hold `c`. -/
def isBarredFromLines (c : Char) : Bool := isBarredFromLine c && c != '\n'

def skipBlanks (text : List Char) : List Char := text.dropWhile isBlank

/-- What is left at the end of the line if a comment begins here. -/
def skipComment (text : List Char) : Except Fault (List Char) :=
  match text with
  | '#' :: rest =>
      let fromFault := rest.dropWhile fun c => c != '\n' && !isBarredFromLine c
      match fromFault with
      | [] => .ok []
      | c :: _ => if c == '\n' then .ok fromFault else failAt fromFault (.controlCharacter c)
  | _ => .ok text

/-- What is left after blanks, line ends and comments; `limit` bounds the number of comments. -/
def skipGaps : (limit : Nat) → List Char → Except Fault (List Char)
  | 0, text => .ok text
  | limit + 1, text =>
      match text.dropWhile isBlankOrLineEnd with
      | '#' :: rest => do skipGaps limit (← skipComment ('#' :: rest))
      | rest => .ok rest

/-! ## Literal strings -/

/-- The text in front of the first `delimiter`, and what is left after it. -/
def splitAtFirst? (delimiter : List Char) : List Char → Option (List Char × List Char)
  | [] => none
  | c :: rest =>
      if delimiter.isPrefixOf (c :: rest) then some ([], (c :: rest).drop delimiter.length)
      else (splitAtFirst? delimiter rest).map fun (before, after) => (c :: before, after)

/-- The text up to `delimiter`. That it is missing is told before what the text may not hold. -/
def literalUntil (delimiter : List Char) (barred : Char → Bool) (text : List Char) :
    Except Fault (List Char × List Char) :=
  match splitAtFirst? delimiter text with
  | none => failAt [] (.missing (.ofList delimiter))
  | some (contents, rest) =>
      match contents.find? barred with
      | some c => failAt (text.dropWhile (!barred ·)) (.controlCharacter c)
      | none => .ok (contents, rest)

/-! ## Basic strings -/

def hexDigitValue? (c : Char) : Option Nat :=
  if '0' ≤ c && c ≤ '9' then some (c.toNat - 0x30)
  else if 'a' ≤ c && c ≤ 'f' then some (c.toNat - 0x57)
  else if 'A' ≤ c && c ≤ 'F' then some (c.toNat - 0x37)
  else none

/-- The number that hexadecimal digits write. -/
def hexNumber? (digits : List Char) : Option Nat :=
  digits.foldl (fun value? c => do return (← value?) * 16 + (← hexDigitValue? c)) (some 0)

/-- A line feed that is escaped, with the blanks around it. -/
def isEscapedBreak (c : Char) : Bool := isBlankOrLineEnd c

def simpleEscape? (c : Char) : Option Char :=
  match c with
  | 'b' => some '\x08'
  | 't' => some '\t'
  | 'n' => some '\n'
  | 'f' => some '\x0c'
  | 'r' => some '\r'
  | '"' => some '"'
  | '\\' => some '\\'
  | _ => none

/-- The character whose number the first `width` characters write in hexadecimal digits. -/
def unicodeEscape (width : Nat) (text : List Char) : Except Fault Char :=
  let digits := text.take width
  match hexNumber? digits with
  | none => failAt text .invalidHexadecimal
  | some code =>
      if digits.length < width then failAt text .invalidHexadecimal
      else if code.isValidChar then .ok (Char.ofNat code)
      else failAt (text.drop width) .noScalarValue

/-- What an escape in front of `text` adds, and the number of characters that it takes up; the
backslash has been read. -/
def escape (spansLines : Bool) (text : List Char) : Except Fault (List Char × Nat) :=
  match text with
  | [] => failAt [] .unknownEscape
  | c :: rest =>
      if spansLines && isEscapedBreak c then
        let blanks := if c == '\n' then 0 else 1 + (rest.takeWhile isBlank).length
        match text.drop blanks with
        | [] => .ok ([], blanks)
        | d :: later =>
            if d == '\n' then .ok ([], blanks + 1 + (later.takeWhile isBlankOrLineEnd).length)
            else failAt (d :: later) .unknownEscape
      else if c == 'u' then (unicodeEscape 4 rest).map fun value => ([value], 5)
      else if c == 'U' then (unicodeEscape 8 rest).map fun value => ([value], 9)
      else match simpleEscape? c with
      | some value => .ok ([value], 1)
      | none => failAt rest .unknownEscape

/-- The text up to the closing quote or quotes; the first `skip` characters belong to an escape
already read. -/
def basicAfter (spansLines : Bool) (skip : Nat) : List Char → Except Fault (List Char × List Char)
  | [] => failAt [] .openString
  | c :: rest =>
      match skip with
      | skip + 1 => basicAfter spansLines skip rest
      | 0 =>
          if c == '"' && !spansLines then .ok ([], rest)
          else if c == '"' && rest.take 2 == ['"', '"'] then .ok ([], rest.drop 2)
          else if c == '\\' then do
            let (added, length) ← escape spansLines rest
            let (contents, left) ← basicAfter spansLines length rest
            return (added ++ contents, left)
          else if (if spansLines then isBarredFromLines c else isBarredFromLine c) then
            failAt (c :: rest) (.illegalCharacter c)
          else do
            let (contents, left) ← basicAfter spansLines 0 rest
            return (c :: contents, left)

/-! ## Strings of either kind -/

/-- One or two further quotes after the closing ones belong to the string. -/
def takeExtraQuotes (quote : Char) (contents rest : List Char) : List Char × List Char :=
  let extra := (rest.take 2).takeWhile (· == quote)
  (contents ++ extra, rest.drop extra.length)

def dropLineEnd : List Char → List Char
  | '\n' :: rest => rest
  | text => text

/-- A string at the head of a text that begins with a quote. -/
def quotation (text : List Char) : Except Fault (String × List Char) := do
  let (contents, rest) ← match text with
    | '"' :: '"' :: '"' :: inside => do
        let (contents, rest) ← basicAfter true 0 (dropLineEnd inside)
        pure (takeExtraQuotes '"' contents rest)
    | '"' :: inside => basicAfter false 0 inside
    | '\'' :: '\'' :: '\'' :: inside => do
        let (contents, rest) ←
          literalUntil ['\'', '\'', '\''] isBarredFromLines (dropLineEnd inside)
        pure (takeExtraQuotes '\'' contents rest)
    | _ => literalUntil ['\''] isBarredFromLine text.tail
  return (.ofList contents, rest)

end Stencil.Toml
