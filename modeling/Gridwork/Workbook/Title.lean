import Gridwork.Text.Case
import Gridwork.Text.Digit

/-!
# Sheet titles

A sheet is titled as requested, unless a sheet has that title already, case aside. Then a number is
put behind it: one more than the highest number that follows the requested title anywhere among the
titles in use, written one after the other with commas between them.

That search ignores case, goes from left to right, and takes up again behind each place where it
found the title, together with the digits and one comma that follow it.
-/

namespace Gridwork

/-- Why a title cannot be given. -/
inductive TitleError where
  | invalidChar (c : CodePoint)
  | numberTooLong (digits : Nat)
  | nextTooLong
  deriving DecidableEq, Repr

/-- The largest number of digits that a number behind a title may have. -/
def maxTitleDigits : Nat := 4300

/-- The wording of a title error. -/
def TitleError.message : TitleError → Text
  | .invalidChar c => "Invalid character " ++ ⟨[c]⟩ ++ " found in sheet title"
  | .numberTooLong digits =>
    "Exceeds the limit (4300 digits) for integer string conversion: value has " ++ toString digits
      ++ " digits; use sys.set_int_max_str_digits() to increase the limit"
  | .nextTooLong =>
    "Exceeds the limit (4300 digits) for integer string conversion; use "
      ++ "sys.set_int_max_str_digits() to increase the limit"

namespace Title

/-- Whether a character may not stand in a title. -/
def isInvalidChar (c : CodePoint) : Bool := ("\\*?:/[]" : Text).toList.contains c

/-- The title of a sheet that has none requested. -/
def untitled : Text := "Sheet"

/-- What follows a title at the start of a text, case aside. -/
def dropTitle? : List CodePoint → List CodePoint → Option (List CodePoint)
  | [], text => some text
  | _ :: _, [] => none
  | t :: title, c :: text => if Text.sameIgnoringCase t c then dropTitle? title text else none

/-- A place where a title was found: the digits behind it, and how many code points the title, the
digits and the comma take. -/
structure Find where
  digits : List Nat
  length : Nat

/-- The value of a digit behind a title. -/
def digit? (c : CodePoint) : Option Nat := c.char?.bind Text.decimalDigit?

/-- Whether a digit stands here. -/
def isDigit (c : CodePoint) : Bool := (digit? c).isSome

/-- Looks for a title at the start of a text. -/
def findHere? (title text : List CodePoint) : Option Find :=
  match dropTitle? title text with
  | none => none
  | some rest =>
    let digits := (rest.takeWhile isDigit).filterMap digit?
    let comma := ((rest.dropWhile isDigit).take 1).count (.char ',')
    some ⟨digits, title.length + digits.length + comma⟩

/-- The digits behind each find of a title in a text, after `skip` code points that belong to an
earlier find. -/
def numbersBehind (title : List CodePoint) (skip : Nat) : List CodePoint → List (List Nat)
  | [] => []
  | c :: rest =>
    match skip with
    | skip + 1 => numbersBehind title skip rest
    | 0 =>
      match findHere? title (c :: rest) with
      | some find => find.digits :: numbersBehind title (find.length - 1) rest
      | none => numbersBehind title 0 rest

/-- The titles in use, one after the other. -/
def joined (titles : List Text) : List CodePoint := (Text.intercalate "," titles).toList

/-- The highest of the numbers that a list of digit runs writes; empty runs write none. -/
def highest (runs : List (List Nat)) : Nat :=
  runs.foldl (fun n digits => max n (Text.natOfDigits digits)) 0

/-- The title for a sheet beside others that is wanted to be titled `wanted`, a title without
invalid characters. -/
def unique (titles : List Text) (wanted : Text) : Except TitleError Text :=
  if titles.any fun title => Text.lower title == Text.lower wanted then
    match numbersBehind wanted.toList 0 (joined titles) with
    | [] => .ok wanted
    | runs =>
      match runs.find? fun digits => maxTitleDigits < digits.length with
      | some digits => .error (.numberTooLong digits.length)
      | none =>
        let next := highest runs + 1
        if Nat.pow 10 maxTitleDigits ≤ next then .error .nextTooLong
        else .ok (wanted ++ toString next)
  else .ok wanted

/-- The title for a sheet beside others. -/
def choose (titles : List Text) (wanted : Text) : Except TitleError Text :=
  match wanted.toList.find? isInvalidChar with
  | some c => .error (.invalidChar c)
  | none => unique titles wanted

end Title

end Gridwork
