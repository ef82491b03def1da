import Stencil.Number.Shortest

/-!
Layouts of floating-point numbers. The digits are the shortest ones in every format; a layout says
where positional notation ends, how wide an exponent is, and what stands for the numbers that
have no digits.
-/

namespace Stencil

structure NumberLayout where
  /-- The number of digits in front of the point for which notation is positional: more than the
  first and no more than the second. -/
  positionalAbove : Int
  positionalTo : Int
  exponentWidth : Nat
  /-- Whether a single digit in front of an exponent gets a point and a zero. -/
  wholeMark : Bool
  infinity : String
  notANumber : String
deriving DecidableEq, Repr

namespace NumberLayout

/-- An exponent has two digits, and begins below four zeros or above sixteen digits. -/
def plain : NumberLayout where
  positionalAbove := -4
  positionalTo := 16
  exponentWidth := 2
  wholeMark := false
  infinity := "inf"
  notANumber := "nan"

/-- An exponent has no more digits than it needs, and positional notation allows one
zero more. A value without digits has no form and is written as missing. -/
def compact : NumberLayout where
  positionalAbove := -5
  positionalTo := 16
  exponentWidth := 1
  wholeMark := false
  infinity := "null"
  notANumber := "null"

def dotted : NumberLayout :=
  { plain with wholeMark := true, infinity := ".inf", notANumber := ".nan" }

def padded (width : Nat) (digits : List Char) : List Char :=
  List.replicate (width - digits.length) '0' ++ digits

/-- The digits in groups before and after the point, which must not be empty. -/
def positional (digits : List Char) (point : Int) : List Char :=
  if point ≤ 0 then '0' :: '.' :: List.replicate (-point).toNat '0' ++ digits
  else if digits.length ≤ point.toNat then
    digits ++ List.replicate (point.toNat - digits.length) '0' ++ ['.', '0']
  else digits.take point.toNat ++ '.' :: digits.drop point.toNat

def scientific (layout : NumberLayout) (digits : List Char) (exponent : Int) : List Char :=
  let fraction := digits.drop 1
  let mark := if !fraction.isEmpty then '.' :: fraction
    else if layout.wholeMark then ['.', '0'] else []
  let sign := if exponent < 0 then '-' else '+'
  digits.take 1 ++ mark ++ 'e' :: sign ::
    padded layout.exponentWidth (Nat.toDigits 10 exponent.natAbs)

/-- The text of a number. -/
def write (layout : NumberLayout) (number : Binary64) : String :=
  let signed (negative : Bool) (text : List Char) : String :=
    .ofList (if negative then '-' :: text else text)
  match number with
  | .notANumber => layout.notANumber
  | .infinite negative => signed (negative && layout.infinity != "null") layout.infinity.toList
  | .finite negative mantissa exponent =>
      let shortest := Binary64.shortest mantissa exponent
      let digits := padded shortest.count (Nat.toDigits 10 shortest.digits)
      let isPositional :=
        layout.positionalAbove < shortest.point && shortest.point ≤ layout.positionalTo
      signed negative
        (if isPositional then positional digits shortest.point
        else layout.scientific digits (shortest.point - 1))

example : ["0.0001", "1e-05", "1e+16", "123.0", "-0.0"] =
    [plain.write (.ofDecimal false 1 (-4)), plain.write (.ofDecimal false 1 (-5)),
      plain.write (.ofDecimal false 1 16), plain.write (.ofDecimal false 123 0),
      plain.write (.zero true)] := by
  decide +kernel

example : ["1.5e-7", "1e+16", "null"] =
    [compact.write (.ofDecimal false 15 (-8)), compact.write (.ofDecimal false 1 16),
      compact.write (.infinite true)] := by
  decide +kernel

example : dotted.write (.ofDecimal false 1 16) = "1.0e+16" := by decide +kernel

end NumberLayout

end Stencil
