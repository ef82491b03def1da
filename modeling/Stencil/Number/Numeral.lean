import Stencil.Text.Blank
import Stencil.Text.Digit

/-!
Numerals as people type them: digits of any script, single underscores between digits, a sign in
front and blanks around.
-/

namespace Stencil.Numeral

/-- A character of a numeral in ASCII: a digit of any script by its value, and a blank beyond ASCII
as a space. -/
def plainCharacter (c : Char) : Char :=
  if c.toNat < 0x80 then c
  else if Character.isBlank c then ' '
  else match Character.decimalValue? c with
  | some value => Char.ofNat ('0'.toNat + value)
  | none => c

def naturalOf (digits : List Char) : Nat :=
  digits.foldl (fun value c => value * 10 + (c.toNat - '0'.toNat)) 0

/-- Whether a minus sign leads a numeral, and what follows the sign. -/
def splitSign : List Char → Bool × List Char
  | '-' :: rest => (true, rest)
  | '+' :: rest => (false, rest)
  | unsigned => (false, unsigned)

/-- The plain characters of a numeral without the blanks around it. -/
def trimmed (text : String) : List Char :=
  let plain := text.toList.map plainCharacter
  ((plain.dropWhile Character.isAsciiBlank).reverse.dropWhile Character.isAsciiBlank).reverse

/-- A numeral without its underscores, each of which must stand between two digits. `last` is the
character before. -/
def withoutUnderscores? (isDigit : Char → Bool) (last : Char) :
    List Char → Option (List Char)
  | [] => some []
  | c :: rest =>
      if c != '_' then (withoutUnderscores? isDigit c rest).map (c :: ·)
      else if isDigit last && rest.head?.any isDigit then withoutUnderscores? isDigit c rest
      else none

/-! ## Integers -/

/-- The most digits that an integer may have. -/
def longestInteger : Nat := 4300

def integer? (text : String) : Option Int := do
  let (negative, unsigned) := splitSign (trimmed text)
  let digits ← withoutUnderscores? Char.isDigit ' ' unsigned
  if digits.isEmpty || !digits.all Char.isDigit || longestInteger < digits.length then none
  let magnitude : Int := naturalOf digits
  return if negative then -magnitude else magnitude

example : [" 42\n", "1_0", "+1", "1__0", "- 1", "７_７"].map integer? =
    [some 42, some 10, some 1, none, none, some 77] := by
  decide +kernel

/-- The digits of a base that the letter behind a zero names. -/
def isDigitOf? (letter : Char) : Option (Char → Bool) :=
  match letter.toLower with
  | 'x' => some fun c => c.isDigit || ('a' ≤ c.toLower && c.toLower ≤ 'f')
  | 'o' => some fun c => '0' ≤ c && c ≤ '7'
  | 'b' => some fun c => c == '0' || c == '1'
  | _ => none

/-- Whether a text is an integer in a base that its first two characters name. -/
def isPrefixedInteger (text : String) : Bool :=
  match (splitSign (trimmed text)).2 with
  | '0' :: letter :: digits =>
      match isDigitOf? letter with
      | none => false
      | some isDigit =>
          -- The mark of the base counts as a digit in front of an underscore.
          match withoutUnderscores? isDigit '0' digits with
          | none => false
          | some plain => !plain.isEmpty && plain.all isDigit
  | _ => false

example : ["-0x1F", "0b1_0", "0o_7", "0x", "0b2", "10", "0x1_"].map isPrefixedInteger =
    [true, true, true, false, false, false, false] := by
  decide +kernel

/-! ## Real and complex numbers -/

/-- What follows a word, in letters of either case, at the head of a text. -/
def afterWord? (word : String) (text : List Char) : Option (List Char) :=
  if (text.take word.length).map Char.toLower == word.toList then some (text.drop word.length)
  else none

/-- What follows an exponent; a text that begins with none is left as it is. -/
def afterExponent (text : List Char) : List Char :=
  match text with
  | mark :: signed =>
      let digits := (splitSign signed).2
      if (mark == 'e' || mark == 'E') && digits.head?.any Char.isDigit then
        digits.dropWhile Char.isDigit
      else text
  | [] => []

/-- What follows the digits of a real number, of which there are some before or after the point. -/
def afterDigits? (text : List Char) : Option (List Char) :=
  let rest := text.dropWhile Char.isDigit
  let fraction := match rest with
    | '.' :: digits => digits
    | _ => rest
  if text.head?.any Char.isDigit then
    some (afterExponent (if rest.head? == some '.' then fraction.dropWhile Char.isDigit else rest))
  else if rest.head? == some '.' && fraction.head?.any Char.isDigit then
    some (afterExponent (fraction.dropWhile Char.isDigit))
  else none

def afterReal? (text : List Char) : Option (List Char) :=
  let unsigned := (splitSign text).2
  (afterWord? "infinity" unsigned).or <| (afterWord? "inf" unsigned).or <|
    (afterWord? "nan" unsigned).or <| afterDigits? unsigned

def isImaginaryUnit (text : List Char) : Bool := text == ['j'] || text == ['J']

def hasSign (text : List Char) : Bool := text.head? == some '+' || text.head? == some '-'

/-- Whether a text is the imaginary part of a number, which may be the unit alone. -/
def isImaginary (text : List Char) : Bool :=
  match afterReal? text with
  | some rest => isImaginaryUnit rest
  | none => isImaginaryUnit (splitSign text).2

/-- Whether a text is a number with a real part, an imaginary part or both. -/
def isNumber (text : String) : Bool :=
  match withoutUnderscores? Char.isDigit ' ' (trimmed text) with
  | none => false
  | some characters =>
      isImaginary characters ||
        match afterReal? characters with
        | some rest => rest.isEmpty || (hasSign rest && isImaginary rest)
        | none => false

example : ["-1", "-1.5e3", "-.5", "-inf", "-1_0", "-1+2j", "-nan-j", "-J", " -1 "].all isNumber =
    true := by
  decide +kernel

example : ["", "-", "-.", "-1e", "-_1", "1+2", "-x", "- 1"].any isNumber = false := by
  decide +kernel

end Stencil.Numeral
