import Gridwork.Log.Filling
import Gridwork.Log.Line

/-!
# Where log records go

A `Logging` is the configuration of the log: the form of the lines, the lowest level that is
written, and the stream. Records come in on three ways:

* directly;
* through a named logger of the runtime. Such loggers form a hierarchy by their dotted names. The
  nearest level at or above a logger says which records it takes, and a record that is taken passes
  its logger and every one above it. Some of them, and the one at the top, have a handler, and each
  handler that the record passes hands it on to the log as if it came in directly. The message of
  such a record is a template with arguments;
* as a warning of the runtime, which is a record of the logger for warnings.
-/

namespace Gridwork.Log

/-- Where lines are written to. -/
inductive Stream where
  /-- A stream given by the caller. -/
  | given
  | standardOutput
  | standardError
  deriving DecidableEq, Repr

/-- A configuration of the log. -/
structure Logging where
  production : Bool
  level : Level
  stream : Stream
  deriving DecidableEq, Repr

namespace Logging

/-- The levels that the loggers of the runtime know. -/
def runtimeLevels : List Level := [.debug, .info, .warning, .error, .critical]

/-- Configures the log. The level must be one that the loggers of the runtime know. Without a stream
of the caller, JSON lines go to standard output and colour lines to standard error. -/
def configure? (production : Bool) (level : Level) (streamGiven : Bool) : Option Logging :=
  if runtimeLevels.contains level then
    let stream :=
      if streamGiven then Stream.given
      else if production then .standardOutput
      else .standardError
    some ⟨production, level, stream⟩
  else none

/-- The line of a record. -/
def line (l : Logging) (r : Record) : Text :=
  if l.production then jsonLine r else colourLine r

/-- Whether a record of a given severity is written. -/
def admits (l : Logging) (severity : Nat) : Bool := l.level.severity ≤ severity

/-- The entries that a direct record makes. -/
def entries (l : Logging) (r : Record) : List Text :=
  if l.admits r.level.severity then [l.line r] else []

/-- What a direct record writes. -/
def write (l : Logging) (r : Record) : Text := .join (l.entries r)

end Logging

/-! ### Loggers of the runtime -/

/-- The loggers that are set up by name. -/
def handledLoggers : List String :=
  ["uvicorn", "uvicorn.error", "uvicorn.access", "fastapi", "py.warnings"]

/-- The loggers that a record passes, named by the beginnings of its logger's name up to each point
and the whole name; `above` is what has been read, the last character first. -/
def loggersFrom (above : List Char) : List Char → List String
  | [] => [String.ofList above.reverse]
  | c :: rest =>
    if c = '.' then String.ofList above.reverse :: loggersFrom (c :: above) rest
    else loggersFrom (c :: above) rest

/-- The loggers that a record of a named logger passes, apart from the one at the top. -/
def loggersAbove (name : String) : List String := loggersFrom [] name.toList

/-- The level of a severity in the loggers of the runtime, which name only their own levels. -/
def levelOfSeverity (severity : Nat) : Level :=
  (Logging.runtimeLevels.find? (·.severity == severity)).getD (.numbered severity)

/-- The level under which a handler hands a record on: the one of the same name, or else the number
alone. -/
def handedLevel (level : Level) : Level :=
  (Level.ofName? level.name).getD (.numbered level.severity)

/-- A logger of the runtime. -/
structure Logger where
  /-- The lowest level of the records that it takes, unless that is left to the loggers above. -/
  level : Option Level
  hasHandler : Bool
  deriving DecidableEq, Repr

namespace Logging

/-- The logger of a name. -/
def logger (l : Logging) (name : String) : Logger :=
  if handledLoggers.contains name then ⟨some l.level, true⟩ else ⟨none, false⟩

/-- The logger at the top. -/
def topLogger (l : Logging) : Logger := ⟨some l.level, true⟩

/-- The loggers that a record of a named logger passes, its own first. -/
def passed (l : Logging) (name : String) : List Logger :=
  (loggersAbove name).reverse.map l.logger ++ [l.topLogger]

/-- Whether a named logger takes records of a severity. The nearest level on the way to the top
decides. -/
def takes (l : Logging) (name : String) (severity : Nat) : Bool :=
  match (l.passed name).findSome? (·.level) with
  | some level => level.severity ≤ severity
  | none => true

/-- The entries that a handler makes of a record. -/
def handOn (l : Logging) (r : Record) : List Text :=
  l.entries { r with level := handedLevel r.level }

/-- The entries that a record of a named logger makes. -/
def entriesFrom (l : Logging) (name : String) (r : Record) : List Text :=
  if l.takes name r.level.severity then
    ((l.passed name).filter (·.hasHandler)).flatMap fun _ => l.handOn r
  else []

/-- What a record of a named logger writes. -/
def writeFrom (l : Logging) (name : String) (r : Record) : Text :=
  .join (l.entriesFrom name r)

/-- What a record of a named logger writes if its message is a template. Only the template of a
record that is taken is filled. -/
def writeFilled (l : Logging) (name : String) (r : Record) (args : List Json) :
    Except TemplateFault Text :=
  if l.takes name r.level.severity then
    (fillMessage r.message args).map fun message => l.writeFrom name { r with message }
  else .ok ""

end Logging

/-! ### Warnings -/

/-- The name of the logger for warnings. -/
def warningLogger := "py.warnings"

/-- The message of a warning. -/
def warningMessage (file : String) (line : Nat) (category : String) (text : Text) : Text :=
  file ++ ":" ++ toString line ++ ": " ++ category ++ ": " ++ text ++ "\n"

end Gridwork.Log
