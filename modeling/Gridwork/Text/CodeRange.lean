/-!
# Sets of characters given by ranges of code points

The tables of character properties are arrays of inclusive ranges in ascending order.
-/

namespace Gridwork.Text

/-- A set of code points, as inclusive ranges. -/
abbrev CodeRanges := Array (Nat × Nat)

/-- Whether a character lies in one of the ranges. -/
def CodeRanges.contains (ranges : CodeRanges) (c : Char) : Bool :=
  ranges.any fun range => range.1 ≤ c.toNat && c.toNat ≤ range.2

end Gridwork.Text
