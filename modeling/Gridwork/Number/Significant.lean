import Gridwork.Number.Binary64
import Gridwork.Number.Scientific

/-!
# A double to sixteen significant digits

The text of a number cell: the double rounded to sixteen digits, trailing zeros dropped.
-/

namespace Gridwork

/-- A finite positive double rounded to `places` significant digits, halves going to the even
neighbour. -/
def Binary64.toPlaces (x : Binary64) (places : Nat) : Scientific :=
  let (num, den) := x.ratio
  let place := Scientific.pointPosition num den - places
  let rounded := roundHalfEven (num * Nat.pow 10 (-place).toNat) (den * Nat.pow 10 place.toNat)
  Scientific.stripZeros (places + 1) rounded place

/-- A finite double to sixteen significant digits. -/
def Binary64.significantText (x : Binary64) : String :=
  let sign := if x.isNegative then "-" else ""
  if x.significand = 0 then sign ++ "0" else sign ++ (x.toPlaces 16).layout ""

end Gridwork
