import Gridwork.Number.Binary64
import Gridwork.Number.Scientific

/-!
# The shortest decimal of a double

Every real number close enough to a double is rounded to it; the numbers that are form an interval
around the double, whose ends belong to it exactly if the significand is even. The shortest decimal
of the double is the one with the fewest digits in that interval and, among those, the nearest.

A decimal with a given number of digits lies in the interval only if one of the two neighbours of
the double on the grid of such decimals does, so `onGrid` looks at these two.
-/

namespace Gridwork

/-- The interval of a double, in quarters of its last binary place: the double itself is
`4 · significand` quarters, and `closed` says whether the ends belong to the interval. -/
structure RoundingInterval where
  low : Nat
  value : Nat
  high : Nat
  closed : Bool

/-- The interval of numbers that are rounded to `x`. Below a power of two the doubles lie twice as
close, so the interval reaches only half as far down. -/
def Binary64.interval (x : Binary64) : RoundingInterval :=
  let m := x.significand
  let powerOfTwo := m == Nat.pow 2 52 && x.exponent != -1074
  ⟨4 * m - (if powerOfTwo then 1 else 2), 4 * m, 4 * m + 2, m % 2 == 0⟩

/-- Whether `a` comes before `b`, or may equal it. -/
def precedes (closed : Bool) (a b : Nat) : Bool := a < b || (closed && a == b)

/-- The decimal nearest to `x` among those of the interval that are multiples of `10 ^ place`. -/
def Binary64.onGrid (x : Binary64) (place : Int) : Option Scientific :=
  let i := x.interval
  -- Everything is scaled so that a quarter and a step of the grid are whole numbers.
  let quarter := Nat.pow 2 (x.exponent - 2).toNat * Nat.pow 10 (-place).toNat
  let step := Nat.pow 2 (2 - x.exponent).toNat * Nat.pow 10 place.toNat
  let below := i.value * quarter / step
  let value := i.value * quarter
  let lower := below * step
  let upper := lower + step
  let lowerFits := precedes i.closed (i.low * quarter) lower
  let upperFits := precedes i.closed upper (i.high * quarter)
  let takeUpper := value - lower > upper - value || (2 * value == lower + upper && below % 2 == 1)
  if lowerFits && !(upperFits && takeUpper) then some (Scientific.stripZeros 20 below place)
  else if upperFits then some (Scientific.stripZeros 20 (below + 1) place)
  else none

/-- The shortest decimal of a finite positive double. Seventeen digits always suffice. -/
def Binary64.shortest (x : Binary64) : Scientific :=
  let (num, den) := x.ratio
  let point := Scientific.pointPosition num den
  ((List.range 17).findSome? fun n => x.onGrid (point - (n + 1 : Nat))).getD ⟨0, 0⟩

/-- The usual text of a double: its shortest decimal, with `.0` behind whole numbers. -/
def Binary64.text (x : Binary64) : String :=
  if x.isNaN then "nan"
  else
    let sign := if x.isNegative then "-" else ""
    if !x.isFinite then sign ++ "inf"
    else if x.significand = 0 then sign ++ "0.0"
    else sign ++ x.shortest.layout ".0"

end Gridwork
