/-!
# Decimal notation

A positive decimal is kept as `coefficient · 10 ^ exponent`. `Scientific.layout` writes it out: with
the point in place when the first digit stands at most four places behind the point and at most
sixteen before it, and with a power of ten otherwise.
-/

namespace Gridwork

/-- The number `coefficient · 10 ^ exponent`. -/
structure Scientific where
  coefficient : Nat
  exponent : Int
  deriving DecidableEq, Repr

namespace Scientific

/-- Moves trailing zeros of the coefficient into the exponent, at most `places` of them. -/
def stripZeros (places : Nat) (coefficient : Nat) (exponent : Int) : Scientific :=
  match places with
  | 0 => ⟨coefficient, exponent⟩
  | places + 1 =>
    if coefficient % 10 = 0 then stripZeros places (coefficient / 10) (exponent + 1)
    else ⟨coefficient, exponent⟩

/-- How many digits stand before the decimal point of `num / den`; negative counts are zeros
behind the point. The quotient is taken to be at least `10 ^ -400`. -/
def pointPosition (num den : Nat) : Int :=
  ((Nat.toDigits 10 (num * Nat.pow 10 400 / den)).length : Int) - 400

/-- A run of zeros. -/
def zeros (n : Nat) : List Char := List.replicate n '0'

/-- The exponent in writing: a sign and at least two digits. -/
def exponentText (e : Int) : List Char :=
  let digits := Nat.toDigits 10 e.natAbs
  (if e < 0 then '-' else '+') :: (zeros (2 - digits.length) ++ digits)

/-- Writes a decimal. `wholeMark` is put behind a number without a fraction that is written without
a power of ten. -/
def layout (wholeMark : String) (x : Scientific) : String :=
  let digits := Nat.toDigits 10 x.coefficient
  let point : Int := digits.length + x.exponent
  if -4 < point ∧ point ≤ 16 then
    if point ≤ 0 then String.ofList ('0' :: '.' :: (zeros (-point).toNat ++ digits))
    else if point < digits.length then
      String.ofList (digits.take point.toNat ++ '.' :: digits.drop point.toNat)
    else String.ofList (digits ++ zeros (point - digits.length).toNat) ++ wholeMark
  else
    let head := digits.take 1
    let tail := digits.drop 1
    let fraction := if tail.isEmpty then [] else '.' :: tail
    String.ofList (head ++ fraction ++ 'e' :: exponentText (point - 1))

end Scientific

end Gridwork
