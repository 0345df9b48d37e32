import Gridwork.Number.Significant

/-!
# Doubles with a chosen number of digits

A double is written in one of three notations: with a number of decimal places (`fixed`), with a
power of ten (`scientific`), or in whichever of the two suits its size (`general`). Digits are
rounded exactly, halves going to the even neighbour.

Signs are left to the caller: all notations write the absolute value of a finite double.
-/

namespace Gridwork

/-- A whole number and the digits behind the point. The point stays away if no digit follows,
unless it is to be kept. -/
def joinPoint (keepPoint : Bool) (whole fraction : List Char) : List Char :=
  if fraction.isEmpty && !keepPoint then whole else whole ++ '.' :: fraction

namespace Binary64

/-- The first `count` significant digits, and how many of them stand before the decimal point;
negative counts are zeros behind the point. Zero has its point behind the first digit. -/
def leadingDigits (x : Binary64) (count : Nat) : List Char × Int :=
  if x.significand = 0 then (Scientific.zeros count, 1)
  else
    let rounded := x.toPlaces count
    let digits := Nat.toDigits 10 rounded.coefficient
    (digits ++ Scientific.zeros (count - digits.length), digits.length + rounded.exponent)

/-- With a given number of decimal places. -/
def fixed (x : Binary64) (places : Nat) (keepPoint : Bool) : List Char :=
  let (num, den) := x.ratio
  let digits := Nat.toDigits 10 (roundHalfEven (num * Nat.pow 10 places) den)
  let digits := Scientific.zeros (places + 1 - digits.length) ++ digits
  let whole := digits.length - places
  joinPoint keepPoint (digits.take whole) (digits.drop whole)

/-- With one digit before the point, a given number of them behind it, and a power of ten. -/
def scientific (x : Binary64) (places : Nat) (keepPoint : Bool) : List Char :=
  let (digits, point) := x.leadingDigits (places + 1)
  joinPoint keepPoint (digits.take 1) (digits.drop 1) ++ 'e' :: Scientific.exponentText (point - 1)

/-- Digits without zeros at the end, unless these are to be kept. -/
def trimZeros (keepZeros : Bool) (digits : List Char) : List Char :=
  if keepZeros then digits else (digits.reverse.dropWhile (· == '0')).reverse

/-- With a given number of significant digits, zeros at the end of the fraction dropped. A power of
ten is written unless the first digit stands at most four places behind the point and no zero has to
be put between the last one and the point. Where the point is to be kept, so are the zeros. -/
def general (x : Binary64) (count : Nat) (keepPoint : Bool) : List Char :=
  let count := max count 1
  let (digits, point) := x.leadingDigits count
  if -4 < point ∧ point ≤ count then
    let whole := if point ≤ 0 then ['0'] else digits.take point.toNat
    let fraction := Scientific.zeros (-point).toNat ++ digits.drop point.toNat
    joinPoint keepPoint whole (trimZeros keepPoint fraction)
  else
    joinPoint keepPoint (digits.take 1) (trimZeros keepPoint (digits.drop 1))
      ++ 'e' :: Scientific.exponentText (point - 1)

end Binary64

end Gridwork
