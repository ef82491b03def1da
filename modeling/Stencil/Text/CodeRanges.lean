/-!
Sets of characters listed as sorted, disjoint, closed intervals of code points: the form in
which the properties of the Unicode character database (version 14) are kept here.
-/

namespace Stencil

abbrev CodeRanges := List (Nat × Nat)

/-- The intervals are sorted, so the search ends at the first that begins above the code. -/
def CodeRanges.covers : CodeRanges → Nat → Bool
  | [], _ => false
  | (first, last) :: later, code =>
      if code < first then false else code ≤ last || covers later code

example : CodeRanges.covers [(2, 4), (9, 9)] 4 = true := rfl

example : CodeRanges.covers [(2, 4), (9, 9)] 8 = false := rfl

end Stencil
