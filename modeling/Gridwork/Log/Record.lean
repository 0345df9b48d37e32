import Gridwork.Log.Exception
import Gridwork.Log.Level

/-!
# Log records

A record says what happened, when, and where in the program; it can carry an exception and bound
values. Bound values whose name begins with an underscore are private: they do not count as context
of the record.
-/

namespace Gridwork.Log

/-- A point in time, in universal time. -/
structure Moment where
  year : Nat
  month : Nat
  day : Nat
  hour : Nat
  minute : Nat
  second : Nat
  microsecond : Nat
  deriving DecidableEq, Repr

namespace Moment

/-- A number with at least `width` digits. -/
def padded (width n : Nat) : String :=
  let digits := toString n
  String.ofList (List.replicate (width - digits.length) '0') ++ digits

/-- The date. -/
def date (m : Moment) : String :=
  padded 4 m.year ++ "-" ++ padded 2 m.month ++ "-" ++ padded 2 m.day

/-- The time of day to the second. -/
def timeOfDay (m : Moment) : String :=
  padded 2 m.hour ++ ":" ++ padded 2 m.minute ++ ":" ++ padded 2 m.second

/-- The standard form, with microseconds unless there are none. -/
def iso (m : Moment) : String :=
  let fraction := if m.microsecond = 0 then "" else "." ++ padded 6 m.microsecond
  m.date ++ "T" ++ m.timeOfDay ++ fraction ++ "+00:00"

/-- The date of a day, counted from the first of January 1970. The year is taken to begin in March,
so that its days come before the leap day of the next one; months then alternate in length in a
pattern of five, and years in a pattern of four hundred. -/
def dateOfDay (n : Nat) : Nat × Nat × Nat :=
  let day := n + 719468
  let era := day / 146097
  let inEra := day % 146097
  let year := (inEra - inEra / 1460 + inEra / 36524 - inEra / 146096) / 365
  let inYear := inEra - (365 * year + year / 4 - year / 100)
  let month := (5 * inYear + 2) / 153
  let inMonth := inYear - (153 * month + 2) / 5 + 1
  if month < 10 then (400 * era + year, month + 3, inMonth)
  else (400 * era + year + 1, month - 9, inMonth)

example : dateOfDay 0 = (1970, 1, 1) ∧ dateOfDay 11016 = (2000, 2, 29) ∧
    dateOfDay 19724 = (2024, 1, 2) := by decide

/-- A point in time, counted in microseconds from the beginning of 1970. -/
def ofMicroseconds (n : Nat) : Moment :=
  let seconds := n / 1000000
  let (year, month, day) := dateOfDay (seconds / 86400)
  ⟨year, month, day, seconds / 3600 % 24, seconds / 60 % 60, seconds % 60, n % 1000000⟩

end Moment

/-- The place in the program that a record comes from. -/
structure Origin where
  module : String
  function : String
  file : String
  line : Nat
  deriving DecidableEq, Repr

/-- A log record. -/
structure Record where
  level : Level
  message : Text
  time : Moment
  origin : Origin
  exception : Option ExceptionInfo
  extra : Json.Entries

/-- Whether a bound value is private. -/
def isPrivate (key : Text) : Bool := key.toList.head? == some (.char '_')

/-- The bound values that are context of the record. -/
def Record.context (r : Record) : Json.Entries := r.extra.filter fun entry => !isPrivate entry.1

end Gridwork.Log
