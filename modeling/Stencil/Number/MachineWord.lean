/-!
Integers that fit a machine word of 64 bits.
-/

namespace Stencil

/-- One more than the greatest integer of a word with a sign. -/
def signedLimit : Int := 0x8000000000000000

/-- One more than the greatest integer of a word without a sign. -/
def unsignedLimit : Int := 0x10000000000000000

/-- Whether an integer fits a word with a sign. -/
def fitsSigned (value : Int) : Bool := -signedLimit ≤ value && value < signedLimit

/-- Whether an integer fits a word with a sign or one without. -/
def fitsEither (value : Int) : Bool := -signedLimit ≤ value && value < unsignedLimit

example : fitsSigned (2 ^ 63 - 1) && !fitsSigned (2 ^ 63) && fitsEither (2 ^ 64 - 1) = true := by
  decide

end Stencil
