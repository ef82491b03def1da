import Stencil.Number.Binary64
import Stencil.Number.Numeral

/-!
Decimal numbers as they are written: a coefficient and a power of ten, of which nothing is lost
until a text with a number of places is made.
-/

namespace Stencil

/-- The number `coefficient * 10 ^ exponent`. -/
structure Decimal where
  negative : Bool
  coefficient : Nat
  exponent : Int
deriving DecidableEq, Repr

/-- What a numeral with a point or an exponent may stand for. -/
inductive DecimalReading where
  | number (value : Decimal)
  | infinite
  | notANumber
deriving DecidableEq, Repr

namespace Decimal

/-! ## Reading -/

/-- The characters of a numeral, in which underscores do not count wherever they stand. -/
def plainCharacters (text : String) : List Char :=
  let characters := text.toList.dropWhile Character.isBlank
  let trimmed := (characters.reverse.dropWhile Character.isBlank).reverse
  (trimmed.map Numeral.plainCharacter).filter (· != '_')

/-- Exponents have fewer digits. -/
def exponentLimit : Nat := 1000000000000000000

/-- The power of ten that is written behind a mantissa, its mark included. -/
def exponent? : List Char → Option Int
  | [] => some 0
  | _ :: signed =>
      let (negative, digits) := Numeral.splitSign signed
      if digits.isEmpty || !digits.all Char.isDigit then none
      else
        let magnitude := Numeral.naturalOf digits
        if exponentLimit ≤ magnitude then none
        else some (if negative then -(magnitude : Int) else magnitude)

def isExponentMark (c : Char) : Bool := c == 'e' || c == 'E'

def unsigned? (negative : Bool) (text : List Char) : Option Decimal := do
  let mantissa := text.takeWhile (!isExponentMark ·)
  let whole := mantissa.takeWhile (· != '.')
  let fraction := (mantissa.drop whole.length).drop 1
  let digits := whole ++ fraction
  if digits.isEmpty || !digits.all Char.isDigit then none
  let exponent ← exponent? (text.drop mantissa.length)
  return ⟨negative, Numeral.naturalOf digits, exponent - fraction.length⟩

/-- What is no number may be loud, and may have digits of its own. -/
def isNotANumber (lower : List Char) : Bool :=
  let quiet := if lower.head? == some 's' then lower.drop 1 else lower
  quiet.take 3 == ['n', 'a', 'n'] && (quiet.drop 3).all Char.isDigit

def read? (text : String) : Option DecimalReading :=
  let (negative, unsigned) := Numeral.splitSign (plainCharacters text)
  let lower := unsigned.map Char.toLower
  if lower == "inf".toList || lower == "infinity".toList then some .infinite
  else if isNotANumber lower then some .notANumber
  else (unsigned? negative unsigned).map .number

example : ["1.50", "-.5e3", "5.", "1_0"].map read? =
    [some (.number ⟨false, 150, -2⟩), some (.number ⟨true, 5, 2⟩), some (.number ⟨false, 5, 0⟩),
      some (.number ⟨false, 10, 0⟩)] := by
  decide +kernel

example : ["-Inf", "sNaN12", ".", "1e", "0x1", ""].map read? =
    [some .infinite, some .notANumber, none, none, none, none] := by
  decide +kernel

/-! ## Values -/

def toBinary64 (decimal : Decimal) : Binary64 :=
  .ofDecimal decimal.negative decimal.coefficient decimal.exponent

/-- The digits in front of the point. -/
def wholeMagnitude (decimal : Decimal) : Nat :=
  if decimal.coefficient == 0 then 0
  else if 0 ≤ decimal.exponent then decimal.coefficient * Nat.pow 10 decimal.exponent.toNat
  else if Binary64.decimalLength decimal.coefficient ≤ (-decimal.exponent).toNat then 0
  else decimal.coefficient / Nat.pow 10 (-decimal.exponent).toNat

/-- The integer that a number passes for if its nearest binary number is a whole one: what stands
in front of its point. -/
def whole? (decimal : Decimal) : Option Int :=
  if decimal.toBinary64.toInt?.isSome then
    some (if decimal.negative then -(decimal.wholeMagnitude : Int) else decimal.wholeMagnitude)
  else none

example : [(⟨false, 15, 2⟩ : Decimal), ⟨true, 0, -1⟩, ⟨false, 15, -1⟩, ⟨false, 1, 309⟩].map whole? =
    [some 1500, some 0, none, none] := by
  decide +kernel

/-! ## Writing -/

/-- The quotient rounded to the nearest natural number, a half to the one below. -/
def roundHalfDown (numerator denominator : Nat) : Nat :=
  let below := numerator / denominator
  if denominator < 2 * (numerator % denominator) then below + 1 else below

/-- A number with a fixed number of places behind the point. -/
def fixed (places : Nat) (decimal : Decimal) : String :=
  let shift := decimal.exponent + places
  let units :=
    if 0 ≤ shift then decimal.coefficient * Nat.pow 10 shift.toNat
    else roundHalfDown decimal.coefficient (Nat.pow 10 (-shift).toNat)
  let digits := Nat.toDigits 10 units
  let padded := List.replicate (places + 1 - digits.length) '0' ++ digits
  let whole := padded.take (padded.length - places)
  let fraction := if places == 0 then [] else '.' :: padded.drop (padded.length - places)
  .ofList ((if decimal.negative then ['-'] else []) ++ whole ++ fraction)

example : [(⟨false, 125, -2⟩ : Decimal).fixed 2, (⟨true, 125, -2⟩ : Decimal).fixed 1,
    (⟨false, 5, -1⟩ : Decimal).fixed 0, (⟨false, 10, 0⟩ : Decimal).fixed 2] =
    ["1.25", "-1.2", "0", "10.00"] := by
  decide +kernel

end Decimal

end Stencil
