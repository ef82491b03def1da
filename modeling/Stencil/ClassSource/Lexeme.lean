import Stencil.Text.Identifier
import Stencil.Template.Identifier

/-!
The words of the generated language, as far as a run of word characters can be one: names and
number literals. A word that begins with a digit is a number literal: decimal with underscores
between digits, an exponent or an imaginary sign, or hexadecimal, octal or binary after a prefix.
A zero may not stand in front of a decimal integer other than zero.
-/

namespace Stencil

inductive Radix where
  | decimal
  | hexadecimal
  | octal
  | binary
  | imaginary
deriving DecidableEq, Repr

/-- What can be wrong with a word, or with the place where it stands. -/
inductive SyntaxFault where
  | misplaced
  | badLiteral (radix : Radix)
  | badDigit (digit : Char) (radix : Radix)
  | leadingZero
  | badCharacter (c : Char)
  | longLiteral (digits : Nat)
  | tooDeep
deriving DecidableEq, Repr

namespace Radix

def description : Radix → String
  | decimal => "decimal"
  | hexadecimal => "hexadecimal"
  | octal => "octal"
  | binary => "binary"
  | imaginary => "imaginary"

def isDigit : Radix → Char → Bool
  | binary, c => c == '0' || c == '1'
  | octal, c => '0' ≤ c && c ≤ '7'
  | hexadecimal, c =>
      Character.isAsciiDigit c || ('a' ≤ c && c ≤ 'f') || ('A' ≤ c && c ≤ 'F')
  | _, c => Character.isAsciiDigit c

/-- The fault of finding `c`, or the end, where a digit is due. -/
def fault (radix : Radix) (found : Option Char) : SyntaxFault :=
  match radix, found with
  | octal, some c | binary, some c =>
      if Character.isAsciiDigit c then .badDigit c radix else .badLiteral radix
  | _, _ => .badLiteral radix

end Radix

namespace Lexeme

/-- The most decimal digits that an integer literal may have. -/
def longestInteger : Nat := 4300

/-- Words that may follow a number without a space between. -/
def joiners : List (List Char) :=
  ["and", "else", "for", "or", "not"].map String.toList

/-- The beginnings of `if`, `in` and `is`, which are not looked at any further. -/
def joiningPairs : List (List Char) :=
  ["if", "in", "is"].map String.toList

/-- Whether a word may follow a number without a space between. -/
def mayJoin (rest : List Char) : Bool :=
  joiners.contains rest || joiningPairs.contains (rest.take 2)

/-- What is left after a number that ends here, unless another word runs into it. -/
def endNumber (radix : Radix) (rest : List Char) : Except SyntaxFault (List Char) :=
  if rest.isEmpty || mayJoin rest then .ok rest
  else .error (.badLiteral radix)

/-- What is left after the digits of a decimal number that has begun. An underscore must have a
digit behind it. -/
def decimalDigits : List Char → Except SyntaxFault (List Char)
  | [] => .ok []
  | c :: rest =>
      if Character.isAsciiDigit c then decimalDigits rest
      else if c != '_' then .ok (c :: rest)
      else if rest.head?.any Character.isAsciiDigit then decimalDigits rest
      else .error (.badLiteral .decimal)

/-- What is left after the digits behind a radix prefix. `due` says whether a digit must come now,
and `mayPause` whether an underscore may come before it. -/
def radixDigits (radix : Radix) (due mayPause : Bool) : List Char →
    Except SyntaxFault (List Char)
  | [] => if due then .error (radix.fault none) else .ok []
  | c :: rest =>
      if radix.isDigit c then radixDigits radix false true rest
      else if c == '_' && mayPause then radixDigits radix true false rest
      else if due then .error (radix.fault (some c))
      else if Character.isAsciiDigit c then .error (radix.fault (some c))
      else .ok (c :: rest)

def radixNumber (radix : Radix) (rest : List Char) : Except SyntaxFault (List Char) := do
  endNumber radix (← radixDigits radix true true rest)

def isExponentSign (c : Char) : Bool := c == 'e' || c == 'E'

def isImaginarySign (c : Char) : Bool := c == 'j' || c == 'J'

/-- What is left after the end of a number: an exponent, an imaginary sign, or nothing more.
`integer` says what is left of an integer without either. -/
def numberTail (integer : List Char → Except SyntaxFault (List Char)) (rest : List Char) :
    Except SyntaxFault (List Char) :=
  match rest with
  | [] => integer []
  | c :: later =>
      if isImaginarySign c then endNumber .imaginary later
      else if isExponentSign c then
        if later.head?.any Character.isAsciiDigit then do
          match ← decimalDigits later with
          | [] => .ok []
          | d :: last =>
              if isImaginarySign d then endNumber .imaginary last
              else endNumber .decimal (d :: last)
        else endNumber .decimal (c :: later)
      else integer (c :: later)

/-- The zeros at the front of a number whose first zero has been read, with single underscores
between; what is left begins with no zero. -/
def leadingZeros : List Char → Except SyntaxFault (List Char)
  | [] => .ok []
  | c :: rest =>
      if c == '0' then leadingZeros rest
      else if c != '_' then .ok (c :: rest)
      else if rest.head?.any Character.isAsciiDigit then leadingZeros rest
      else .error (.badLiteral .decimal)

/-- What is left after a number that begins with a zero without a radix prefix. -/
def zeroNumber (rest : List Char) : Except SyntaxFault (List Char) := do
  let rest ← leadingZeros rest
  if rest.head?.any Character.isAsciiDigit then
    numberTail (fun _ => .error .leadingZero) (← decimalDigits rest)
  else numberTail (endNumber .decimal) rest

/-- What is left after the number at the head of a word whose first digit has been read. -/
def number (first : Char) (rest : List Char) : Except SyntaxFault (List Char) :=
  if first != '0' then do numberTail (endNumber .decimal) (← decimalDigits rest)
  else match rest with
  | [] => .ok []
  | c :: later =>
      if c == 'x' || c == 'X' then radixNumber .hexadecimal later
      else if c == 'o' || c == 'O' then radixNumber .octal later
      else if c == 'b' || c == 'B' then radixNumber .binary later
      else zeroNumber (c :: later)

/-- A name must begin and go on with characters of identifiers. -/
def checkName : List Char → Except SyntaxFault Unit
  | [] => .ok ()
  | c :: rest =>
      if !Character.mayStartIdentifier c then .error (.badCharacter c)
      else match rest.find? (!Character.mayContinueIdentifier ·) with
      | some other => .error (.badCharacter other)
      | none => .ok ()

/-- The words that stand for a value although they are keywords. -/
def constants : List String := ["None", "True", "False"]

def isMisplaced (word : List Char) : Bool :=
  Identifier.keywords.any (·.toList == word) && !constants.any (·.toList == word)

/-- Whether a decimal integer has more digits than may be read. -/
def overlong? (word : List Char) : Option SyntaxFault :=
  let digits := word.countP Character.isAsciiDigit
  if word.all (fun c => Character.isAsciiDigit c || c == '_') && word.head? != some '0' &&
      word.head? != some '_' && longestInteger < digits then some (.longLiteral digits)
  else none

/-- Checks a type: the outer result is a fault of the words themselves, the inner one a fault of
what they say together. -/
def checkType (word : List Char) : Except SyntaxFault (Option SyntaxFault) :=
  match word with
  | [] => .ok (some .misplaced)
  | first :: rest =>
      if Character.isAsciiDigit first then do
        let behind ← number first rest
        checkName behind
        let overlong := overlong? (word.take (word.length - behind.length))
        .ok (if behind.isEmpty then overlong else some (overlong.getD .misplaced))
      else do
        checkName word
        .ok (if isMisplaced word then some .misplaced else none)

example : ["str", "None", "0x1F", "1_000", "1e5", "1j", "00"].map
    (fun word => (checkType word.toList).toOption) = List.replicate 7 (some none) := by
  decide +kernel

example : checkType "1if".toList = .ok (some .misplaced) := by rfl

example : checkType "1andE".toList = .error (.badLiteral .decimal) := by rfl

example : checkType "1x".toList = .error (.badLiteral .decimal) := by rfl

example : checkType "007".toList = .error .leadingZero := by rfl

example : checkType "0o8".toList = .error (.badDigit '8' .octal) := by rfl

example : checkType "class".toList = .ok (some .misplaced) := by rfl

end Lexeme

end Stencil
