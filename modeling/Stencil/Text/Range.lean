/-
Ranges of code points. Character properties are given as lists of ranges, and a property holds of a
character when one of its ranges contains it.
-/

namespace Stencil

/-- The code points from `first` to `last`, both included. -/
structure CodeRange where
  first : Nat
  last : Nat
deriving Repr, DecidableEq

/-- Whether a code point lies in the range. -/
def CodeRange.contains (range : CodeRange) (code : Nat) : Bool :=
  decide (range.first ≤ code) && decide (code ≤ range.last)

/-- Whether one of the ranges contains the code point. -/
def inRanges (ranges : List CodeRange) (code : Nat) : Bool :=
  ranges.any fun range => range.contains code

end Stencil
