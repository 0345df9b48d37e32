import Gridwork.Text.Blank
import Gridwork.Text.Digit
import Gridwork.Text.Split

/-!
# Numbers and truth values in settings

A setting is given as text. A whole number may have blanks around it, a sign, leading zeros, single
underscores between its digits, and a fraction of zeros. A truth value is one of twelve words in any
case.

`readInt` brings a number into its shortest form, which `plainInt?` reads.
-/

namespace Gridwork.Scalar

/-- Why a text is no whole number. -/
inductive IntFault where
  | notInteger
  | tooLong
  deriving DecidableEq, Repr

/-- The largest number of characters of a whole number in its shortest form. -/
def maxLength : Nat := 4300

/-! ### The shortest form -/

/-- A text behind leading zeros, which underscores may separate; `last` is the last of them. It
stays where no digit follows. A minus sign may follow too: it ends the zeros like a digit. -/
def behindZeros? (last : Char) : List Char → Option (List Char)
  | [] => some [last]
  | '.' :: rest => some (last :: '.' :: rest)
  | c :: rest =>
    if c = '0' ∨ c = '_' then behindZeros? c rest
    else if c = '-' ∨ c.isDigit then some (c :: rest)
    else none

/-- A number without leading zeros. It must begin with a digit. -/
def dropZeros? : List Char → Option (List Char)
  | '0' :: rest => behindZeros? '0' rest
  | c :: rest => if c.isDigit then some (c :: rest) else none
  | [] => none

/-- A number without a plus sign and without leading zeros. -/
def dropPlusAndZeros? : List Char → Option (List Char)
  | '-' :: rest => (dropZeros? rest).map ('-' :: ·)
  | '+' :: rest => dropZeros? rest
  | cs => dropZeros? cs

/-- A number without a fraction of zeros. A point with nothing behind it is no fraction. -/
def dropZeroFraction (cs : List Char) : List Char :=
  match cs.dropWhile (· != '.') with
  | '.' :: '0' :: places =>
    if places.all (· == '0') then cs.takeWhile (· != '.') else cs
  | _ => cs

/-- A number without underscores, if they stand apart from each other and from its ends. -/
def dropUnderscores (cs : List Char) : List Char :=
  let pieces := Text.splitWhere (· == '_') cs
  if pieces.all (!·.isEmpty) then pieces.flatten else cs

/-- The shortest form of a number. -/
def shorten? (cs : List Char) : Option (List Char) := do
  let cs ← dropPlusAndZeros? (Text.trimChars Text.isWhiteSpace cs)
  return dropUnderscores (dropZeroFraction cs)

/-! ### Reading -/

/-- Reads a whole number without a sign that is in its shortest form. -/
def plainNat? : List Char → Option Nat
  | ['0'] => some 0
  | '0' :: _ => none
  | [] => none
  | cs => (cs.mapM Text.asciiDigit?).map Text.natOfDigits

/-- Reads a whole number in its shortest form. -/
def plainInt? : List Char → Option Int
  | '-' :: rest => (plainNat? rest).map fun n => -(n : Int)
  | cs => (plainNat? cs).map fun n => (n : Int)

/-- How many characters the digits take that a text begins with, unless the first is a zero. -/
def digitsLength : List Char → Nat
  | '0' :: _ => 0
  | cs => (cs.takeWhile Char.isDigit).length

/-- How many characters the number takes that a text begins with, a minus sign included. -/
def numberLength : List Char → Nat
  | '-' :: rest => digitsLength rest + 1
  | cs => digitsLength cs

/-- Reads a whole number. The text is too long if already the number at its start is, whatever
follows; a number that is too long only when it has been shortened is none at all. -/
def readInt (s : String) : Except IntFault Int :=
  if maxLength < numberLength s.toList then .error .tooLong
  else
    match (shorten? s.toList).filter (·.length ≤ maxLength) with
    | none => .error .notInteger
    | some short =>
      match plainInt? short with
      | some n => .ok n
      | none => .error .notInteger

example : (readInt " +0_010_0.00 ").toOption = some 100 ∧ (readInt "-007").toOption = some (-7) ∧
    (readInt "8.").toOption = none := by decide

/-- The words for yes. -/
def yesWords : List String := ["true", "t", "1", "on", "yes", "y"]

/-- The words for no. -/
def noWords : List String := ["false", "f", "0", "off", "no", "n"]

/-- Reads a truth value. -/
def readBool? (s : String) : Option Bool :=
  let word := String.ofList (s.toList.map Char.toLower)
  if yesWords.contains word then some true
  else if noWords.contains word then some false
  else none

end Gridwork.Scalar
