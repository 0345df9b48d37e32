import Gridwork.Number.Rounding

/-!
# Double-precision numbers

A `Binary64` is the bit pattern of an IEEE 754 double. A finite one stands for
`±significand · 2 ^ exponent`; `ofRatio` finds the pattern nearest to a quotient, from which
decimal text (`ofDecimal`) and whole numbers (`ofInt?`) are converted, all in exact arithmetic.
-/

namespace Gridwork

/-- A double, as its bit pattern. -/
structure Binary64 where
  bits : UInt64
  deriving DecidableEq, Repr, Inhabited

namespace Binary64

/-- Whether the sign bit is set. -/
def isNegative (x : Binary64) : Bool := Nat.pow 2 63 ≤ x.bits.toNat

/-- The pattern without its sign bit. -/
def magnitude (x : Binary64) : Nat := x.bits.toNat % Nat.pow 2 63

/-- The magnitude of infinity; larger ones are no numbers. -/
def infinite : Nat := 2047 * Nat.pow 2 52

/-- Whether the number is finite. -/
def isFinite (x : Binary64) : Bool := x.magnitude < infinite

/-- Whether the pattern stands for no number. -/
def isNaN (x : Binary64) : Bool := infinite < x.magnitude

/-- The whole number that the fraction bits spell, with the leading bit that normal numbers do not
store. -/
def significand (x : Binary64) : Nat :=
  let fraction := x.magnitude % Nat.pow 2 52
  if x.magnitude / Nat.pow 2 52 = 0 then fraction else fraction + Nat.pow 2 52

/-- The power of two that the significand is multiplied by. -/
def exponent (x : Binary64) : Int := (max (x.magnitude / Nat.pow 2 52) 1 : Nat) - 1075

/-- The double with a given sign and magnitude. -/
def ofMagnitude (negative : Bool) (magnitude : Nat) : Binary64 :=
  ⟨UInt64.ofNat (if negative then Nat.pow 2 63 + magnitude else magnitude)⟩

/-- The pattern of NaN. -/
def nan : Binary64 := ⟨0x7FF8000000000000⟩

/-- Positive or negative infinity. -/
def infinity (negative : Bool) : Binary64 := ofMagnitude negative infinite

/-- `num / (den · 2 ^ e)` as a quotient of natural numbers. -/
def scaled (num den : Nat) (e : Int) : Nat × Nat :=
  (num * Nat.pow 2 (-e).toNat, den * Nat.pow 2 e.toNat)

/-- The magnitude nearest to `num / den`, that of infinity if the quotient is too large. -/
def magnitudeOfRatio (num den : Nat) : Nat :=
  if num = 0 then 0
  else
    let low : Int := max ((num.log2 : Int) - den.log2 - 53) (-1074)
    let (n, d) := scaled num den low
    let e := if Nat.pow 2 53 ≤ n / d then low + 1 else low
    let (n, d) := scaled num den e
    min infinite ((e + 1074).toNat * Nat.pow 2 52 + roundHalfEven n d)

/-- The double nearest to `num / den`. -/
def ofRatio (negative : Bool) (num den : Nat) : Binary64 :=
  ofMagnitude negative (magnitudeOfRatio num den)

/-- The double nearest to `digits · 10 ^ exponent`. Exponents far outside the range of doubles are
decided without computing the power. -/
def ofDecimal (negative : Bool) (digits : Nat) (exponent : Int) : Binary64 :=
  if digits = 0 then ofMagnitude negative 0
  else if 400 < exponent then infinity negative
  else if exponent < -401 - (digits.log2 : Int) then ofMagnitude negative 0
  else ofRatio negative (digits * Nat.pow 10 exponent.toNat) (Nat.pow 10 (-exponent).toNat)

/-- The double nearest to a whole number, if the number is not too large for one. -/
def ofInt? (n : Int) : Option Binary64 :=
  let x := ofRatio (n < 0) n.natAbs 1
  if x.isFinite then some x else none

/-- The absolute value of a finite double as a quotient. -/
def ratio (x : Binary64) : Nat × Nat :=
  (x.significand * Nat.pow 2 x.exponent.toNat, Nat.pow 2 (-x.exponent).toNat)

end Binary64

end Gridwork
