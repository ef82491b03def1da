import Stencil.Number.Binary64

/-!
Shortest decimal digits: the fewest digits that read back as a given binary number, and of these
the ones nearest to it. Of two as near, the even one is taken.
-/

namespace Stencil

/-- The value `0.d₁d₂… * 10 ^ point`, so that `point` digits stand in front of the decimal point. -/
structure DecimalDigits where
  digits : Nat
  count : Nat
  point : Int
deriving DecidableEq, Repr

namespace Binary64

/-- Whether `left / 1 ≤ numerator / denominator` in terms of powers of ten. -/
def reachesPower (power : Int) (numerator denominator : Nat) : Bool :=
  let (unit, one) := scale 10 power 1 1
  unit * denominator ≤ numerator * one

/-- The power of ten just above a fraction other than zero. -/
def decade (numerator denominator : Nat) : Int :=
  let guess := (decimalLength numerator : Int) - decimalLength denominator
  if reachesPower guess numerator denominator then guess + 1 else guess

/-- Twice the bounds of the numbers that round to `mantissa * 2 ^ exponent`, in units of
`2 ^ (exponent - 1)`. The gap below a power of two is half as wide. -/
def roundingBounds (mantissa : Nat) (exponent : Int) : Nat × Nat :=
  if mantissa == Nat.pow 2 (mantissaBits - 1) && leastExponent < exponent then
    (4 * mantissa - 1, 4 * mantissa + 2)
  else (4 * mantissa - 2, 4 * mantissa + 2)

/-- Whether `digits * 10 ^ power` rounds to `mantissa * 2 ^ exponent`. -/
def readsBack (mantissa : Nat) (exponent : Int) (digits : Nat) (power : Int) : Bool :=
  let (below, above) := roundingBounds mantissa exponent
  let (numerator, denominator) := scale 10 power digits 1
  let (value, unit) := scale 2 (2 - exponent) numerator denominator
  if mantissa % 2 == 0 then below * unit ≤ value && value ≤ above * unit
  else below * unit < value && value < above * unit

/-- The neighbour of `mantissa * 2 ^ exponent` among the multiples of `10 ^ power` that reads
back, the nearer one if both do. -/
def neighbour? (mantissa : Nat) (exponent power : Int) : Option Nat :=
  let (numerator, denominator) := scale 2 exponent mantissa 1
  let (numerator, denominator) := scale 10 (-power) numerator denominator
  let below := numerator / denominator
  let belowReads := 0 < below && readsBack mantissa exponent below power
  let aboveReads := readsBack mantissa exponent (below + 1) power
  if belowReads && aboveReads then some (roundDiv numerator denominator)
  else if belowReads then some below
  else if aboveReads then some (below + 1)
  else none

/-- Tries `count` digits, then more, for `tries` rounds. -/
def shortestFrom (mantissa : Nat) (exponent point : Int) (count : Nat) :
    (tries : Nat) → DecimalDigits
  | 0 => ⟨mantissa, decimalLength mantissa, point⟩
  | tries + 1 =>
      match neighbour? mantissa exponent (point - count) with
      | none => shortestFrom mantissa exponent point (count + 1) tries
      | some digits =>
          if decimalLength digits ≤ count then ⟨digits, count, point⟩
          else ⟨digits / 10, count, point + 1⟩

/-- The most digits that any number needs. -/
def mostDigits : Nat := 17

/-- The shortest digits of `mantissa * 2 ^ exponent`; a zero has the single digit zero. -/
def shortest (mantissa : Nat) (exponent : Int) : DecimalDigits :=
  if mantissa == 0 then ⟨0, 1, 1⟩
  else
    let (numerator, denominator) := scale 2 exponent mantissa 1
    shortestFrom mantissa exponent (decade numerator denominator) 1 mostDigits

example : shortest 0x1999999999999A (-56) = ⟨1, 1, 0⟩ := by decide +kernel

example : shortest 1 (-1074) = ⟨5, 1, -323⟩ := by decide +kernel

example : shortest (2 ^ 52) 971 = ⟨898846567431158, 15, 308⟩ := by decide +kernel

end Binary64

end Stencil
