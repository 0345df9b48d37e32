import Gridwork.Number.Binary64
import Gridwork.Number.Whole
import Gridwork.Text.Blank
import Gridwork.Text.Digit
import Gridwork.Text.Split

/-!
# Rate limits

A rate limit allows a number of calls within a window of time: `60/minute`, `3 per day`,
`5/2 hours`. Several of them are joined by commas, semicolons or bars, which a colon may stand in
front of. A text that is not of this form limits nothing.

A `Tally` counts the calls of one client within one window. `Tally.hit` counts a call against every
limit in turn and stops at the first that it exceeds; refused calls are counted too. The same limit
given twice has one counter. A window so long that no clock can tell its end stops every call that
comes to its limit.
-/

namespace Gridwork.Http

/-- A unit of time. -/
inductive TimeUnit where
  | second
  | minute
  | hour
  | day
  | month
  | year
  deriving DecidableEq, Repr

namespace TimeUnit

/-- The name of a unit. -/
def name : TimeUnit → String
  | .second => "second"
  | .minute => "minute"
  | .hour => "hour"
  | .day => "day"
  | .month => "month"
  | .year => "year"

/-- How many seconds a unit takes; a month has thirty days and a year twelve months. -/
def seconds : TimeUnit → Nat
  | .second => 1
  | .minute => 60
  | .hour => 60 * 60
  | .day => 60 * 60 * 24
  | .month => 60 * 60 * 24 * 30
  | .year => 60 * 60 * 24 * 30 * 12

/-- All units. -/
def all : List TimeUnit := [.second, .minute, .hour, .day, .month, .year]

end TimeUnit

/-- A number of calls that are allowed within a number of units of time. -/
structure RateLimit where
  amount : Nat
  multiple : Nat
  unit : TimeUnit
  deriving DecidableEq, Repr

namespace RateLimit

/-- How many seconds the window of a limit takes. -/
def window (limit : RateLimit) : Nat := limit.multiple * limit.unit.seconds

/-- Whether a clock can tell the end of the window: clocks count in doubles. -/
def isMeasurable (limit : RateLimit) : Bool := (Binary64.ofInt? limit.window).isSome

/-! ### Reading -/

/-- The text behind blanks. -/
def skipBlanks (cs : List Char) : List Char := cs.dropWhile Text.isBlank

/-- The text behind a word in lower case, which may be written in any case. -/
def dropWord? (word cs : List Char) : Option (List Char) :=
  if (cs.take word.length).map Char.toLower = word then some (cs.drop word.length) else none

/-- The digits that a text begins with, as a number, and the text behind them. There is a bound on
the number of digits. -/
def readDigits? (cs : List Char) : Option (Nat × List Char) :=
  let digits := cs.takeWhile Char.isDigit
  if digits.isEmpty || Whole.maxDigits < digits.length then none
  else some (Text.natOfDigits (digits.filterMap Text.asciiDigit?), cs.dropWhile Char.isDigit)

/-- The text behind the sign between the number of calls and the time. -/
def dropPer? (cs : List Char) : Option (List Char) :=
  match skipBlanks cs with
  | '/' :: rest => some (skipBlanks rest)
  | cs => (dropWord? "per".toList cs).map skipBlanks

/-- The unit that a text begins with, and the text behind it; a unit may be in the plural. -/
def readUnit? (cs : List Char) : Option (TimeUnit × List Char) :=
  TimeUnit.all.findSome? fun unit =>
    (dropWord? unit.name.toList cs).map fun rest => (unit, (dropWord? ['s'] rest).getD rest)

/-- Reads one limit. A missing multiple and a multiple of zero count as one. -/
def read? (cs : List Char) : Option RateLimit := do
  let (amount, rest) ← readDigits? (skipBlanks cs)
  let rest ← dropPer? rest
  let (multiple, rest) := (readDigits? rest).getD (1, rest)
  let (unit, rest) ← readUnit? (skipBlanks rest)
  if (skipBlanks rest).isEmpty then
    some ⟨amount, if multiple = 0 then 1 else multiple, unit⟩
  else none

/-- Whether a character separates limits. -/
def isSeparator (c : Char) : Bool := c == ',' || c == ';' || c == '|'

/-- Reads the limits between separators. -/
def readPieces? : List (List Char) → Option (List RateLimit)
  | [] => some []
  | [piece] => (read? piece).map ([·])
  | piece :: rest =>
    match read? (Text.withoutEnd ':' piece), readPieces? rest with
    | some limit, some limits => some (limit :: limits)
    | _, _ => none

/-- The limits that a text names. -/
def readAll (s : String) : List RateLimit :=
  (readPieces? (Text.splitWhere isSeparator s.toList)).getD []

example : readAll "2/hour; 1 per 3 Days" = [⟨2, 1, .hour⟩, ⟨1, 3, .day⟩] := by decide

end RateLimit

/-! ### Counting -/

/-- What becomes of a call. -/
inductive Verdict where
  | allowed
  | refused
  /-- The end of the window of a limit cannot be told. -/
  | unmeasurable
  deriving DecidableEq, Repr

/-- How often every limit has been counted. -/
abbrev Tally := List (RateLimit × Nat)

namespace Tally

/-- How often a limit has been counted. -/
def count (t : Tally) (limit : RateLimit) : Nat := (t.lookup limit).getD 0

/-- Counts a limit once more. -/
def add (t : Tally) (limit : RateLimit) : Tally :=
  (limit, t.count limit + 1) :: t.filter (·.1 ≠ limit)

/-- Counts a call and says what becomes of it. -/
def hit (t : Tally) : List RateLimit → Tally × Verdict
  | [] => (t, .allowed)
  | limit :: rest =>
    if limit.isMeasurable then
      let t := t.add limit
      if t.count limit ≤ limit.amount then t.hit rest else (t, .refused)
    else (t, .unmeasurable)

@[simp] theorem count_add_self (t : Tally) (limit : RateLimit) :
    (t.add limit).count limit = t.count limit + 1 := by
  simp [add, count]

end Tally

end Gridwork.Http
