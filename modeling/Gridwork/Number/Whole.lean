import Gridwork.Text.Blank
import Gridwork.Text.Digit

/-!
# Whole numbers in words

A whole number that is read may have white space around it, a sign, and decimal digits of any script
with single underscores between them; there is a bound on the number of digits. The same bound holds
for a whole number that is written: one with more digits has no text.
-/

namespace Gridwork.Whole

/-- The largest number of digits. -/
def maxDigits : Nat := 4300

/-- Reads a number without sign. -/
def readNat? (cs : List Char) : Option Nat :=
  match Text.groupedDigits? Text.decimalDigit? cs with
  | some digits => if digits.length ≤ maxDigits then some (Text.natOfDigits digits) else none
  | none => none

/-- Reads a whole number. -/
def read? (s : String) : Option Int :=
  match Text.trimChars Text.isWhiteSpace s.toList with
  | '-' :: rest => (readNat? rest).map fun n => -(n : Int)
  | '+' :: rest => (readNat? rest).map fun n => (n : Int)
  | cs => (readNat? cs).map fun n => (n : Int)

/-- Whether a number can be written. -/
def isWritable (n : Int) : Bool := n.natAbs < Nat.pow 10 maxDigits

/-- The text of a number, if it can be written. -/
def text? (n : Int) : Option String := if isWritable n then some (toString n) else none

example : read? " +1_0 " = some 10 ∧ read? "-7" = some (-7) ∧ read? "1__0" = none := by decide

end Gridwork.Whole
