/-!
Binary floating-point numbers of 64 bits, as exact fractions. A finite number is a mantissa times
a power of two; every other number is rounded to the nearest of them, of two as near to the one
with the even mantissa.
-/

namespace Stencil

/-- A finite number is `mantissa * 2 ^ exponent`. Its mantissa has 53 bits, or fewer where the
exponent is the least one. -/
inductive Binary64 where
  | finite (negative : Bool) (mantissa : Nat) (exponent : Int)
  | infinite (negative : Bool)
  | notANumber
deriving DecidableEq, Repr

namespace Binary64

def leastExponent : Int := -1074

def greatestExponent : Int := 971

def mantissaBits : Nat := 53

def zero (negative : Bool) : Binary64 := .finite negative 0 leastExponent

/-- A fraction of natural numbers as the quotient of `numerator` and `denominator` after both are
scaled to hold `factor` to the power of `exponent`. -/
def scale (factor : Nat) (exponent : Int) (numerator denominator : Nat) : Nat × Nat :=
  if 0 ≤ exponent then (numerator * Nat.pow factor exponent.toNat, denominator)
  else (numerator, denominator * Nat.pow factor (-exponent).toNat)

/-- The quotient rounded to the nearest natural number, a half to the even one. -/
def roundDiv (numerator denominator : Nat) : Nat :=
  let below := numerator / denominator
  let twice := 2 * (numerator % denominator)
  if denominator < twice || (twice == denominator && below % 2 == 1) then below + 1 else below

example : [roundDiv 5 2, roundDiv 7 2, roundDiv 8 3] = [2, 4, 3] := by decide

/-- The mantissa of `numerator / denominator` at an exponent, before it is held to its bits. -/
def mantissaAt (exponent : Int) (numerator denominator : Nat) : Nat :=
  let (numerator, denominator) := scale 2 (-exponent) numerator denominator
  roundDiv numerator denominator

/-- The exponent at which a fraction other than zero has a mantissa of the full number of bits, if
the bounds allow it. -/
def exponentFor (numerator denominator : Nat) : Int :=
  let guess := (numerator.log2 : Int) - denominator.log2 - mantissaBits
  let (scaled, unit) := scale 2 (-guess) numerator denominator
  max leastExponent (if scaled / unit < Nat.pow 2 mantissaBits then guess else guess + 1)

/-- The number nearest to `numerator / denominator`. -/
def ofRatio (negative : Bool) (numerator denominator : Nat) : Binary64 :=
  if numerator == 0 then zero negative
  else
    let exponent := exponentFor numerator denominator
    let mantissa := mantissaAt exponent numerator denominator
    let (mantissa, exponent) :=
      if mantissa == Nat.pow 2 mantissaBits then (Nat.pow 2 (mantissaBits - 1), exponent + 1)
      else (mantissa, exponent)
    if greatestExponent < exponent then .infinite negative else .finite negative mantissa exponent

def ofInt (value : Int) : Binary64 := ofRatio (value < 0) value.natAbs 1

/-- The number of digits that `n` has in base ten, up to a limit. -/
def decimalLengthUpTo : (limit n : Nat) → Nat
  | 0, _ => 0
  | limit + 1, n => if n < 10 then 1 else decimalLengthUpTo limit (n / 10) + 1

def decimalLength (n : Nat) : Nat := decimalLengthUpTo (n.log2 + 1) n

example : [0, 9, 10, 12345].map decimalLength = [1, 1, 2, 5] := by decide +kernel

/-- The number nearest to `digits * 10 ^ exponent`. Powers that no number reaches are told by the
length of the digits alone. -/
def ofDecimal (negative : Bool) (digits : Nat) (exponent : Int) : Binary64 :=
  let magnitude := (decimalLength digits : Int) + exponent
  if digits == 0 || magnitude < -400 then zero negative
  else if 400 < magnitude then .infinite negative
  else
    let (numerator, denominator) := scale 10 exponent digits 1
    ofRatio negative numerator denominator

example : ofDecimal false 1 (-1) = .finite false 0x1999999999999A (-56) := by decide +kernel

example : ofDecimal false 5 (-324) = .finite false 1 leastExponent := by decide +kernel

example : ofDecimal true 18 307 = .infinite true := by decide +kernel

def isFinite : Binary64 → Bool
  | finite .. => true
  | _ => false

/-- The integer that a number is equal to. -/
def toInt? : Binary64 → Option Int
  | finite negative mantissa exponent =>
      let (numerator, denominator) := scale 2 exponent mantissa 1
      if numerator % denominator == 0 then
        let value : Int := numerator / denominator
        some (if negative then -value else value)
      else none
  | _ => none

/-- Equality of values: the two zeros are equal, and what is no number equals nothing. -/
def sameValue : Binary64 → Binary64 → Bool
  | .finite _ 0 _, .finite _ 0 _ => true
  | .notANumber, _ => false
  | left, right => left == right

end Binary64

end Stencil
