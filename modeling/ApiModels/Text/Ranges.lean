/-!
# Ranges of code points

A property of characters is given by the ranges of code points that have it, in ascending order.
-/

namespace ApiModels.Text

/-- Whether a code point lies in one of the ranges, whose ends belong to them. -/
def inRanges (ranges : List (Nat × Nat)) (n : Nat) : Bool :=
  ranges.any fun range => range.1 ≤ n && n ≤ range.2

end ApiModels.Text
