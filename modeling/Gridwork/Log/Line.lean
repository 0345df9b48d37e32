import Gridwork.Json.Display
import Gridwork.Json.Writer
import Gridwork.Log.Record

/-!
# Log lines

In production a record is written as one line of JSON: its own fields first, then its context, which
may override them. In development it is written in colour for a reader at a terminal, with the bound
values behind the message.
-/

namespace Gridwork.Log

/-! ### JSON lines -/

/-- The name of a level in JSON lines, where two names that are not generally known are replaced. -/
def jsonLevelName : Level → String
  | .trace => Level.debug.name
  | .success => Level.info.name
  | level => level.name

/-- The place in the program that a record came from. -/
def location (origin : Origin) : String :=
  origin.file ++ ":" ++ toString origin.line ++ ":" ++ origin.function

/-- The fields that every record has of its own: the place in the program from errors upwards, the
exception if there is one. -/
def ownFields (r : Record) : Json.Entries :=
  let always : Json.Entries :=
    [("level", .str (jsonLevelName r.level)), ("message", .str r.message),
      ("time", .str r.time.iso), ("logger", .str r.origin.module)]
  let place : Json.Entries :=
    if Level.error.severity ≤ r.level.severity then [("location", .str (location r.origin))] else []
  let exception : Json.Entries :=
    match r.exception with
    | some e =>
      [("exception", .obj
        [("type", e.type.elim .null fun s => .str s), ("value", e.value.elim .null .str)])]
    | none => []
  always ++ place ++ exception

/-- All fields of a JSON line. -/
def fields (r : Record) : Json.Entries :=
  r.context.foldl (fun entries entry => Json.Entries.set entry.1 entry.2 entries) (ownFields r)

/-- The JSON line of a record. -/
def jsonLine (r : Record) : Text := Json.write (.obj (fields r)) ++ "\n"

/-! ### Colour lines -/

/-- A terminal code. -/
def code (n : String) : String := "\x1b[" ++ n ++ "m"

/-- A text in a colour. -/
def coloured (colour : String) (text : Text) : Text := colour ++ text ++ code "0"

/-- The colour of a level. -/
def levelColour : Level → String
  | .trace => code "36" ++ code "1"
  | .debug => code "34" ++ code "1"
  | .info => code "1"
  | .success => code "32" ++ code "1"
  | .warning => code "33" ++ code "1"
  | .error => code "31" ++ code "1"
  | .critical => code "41" ++ code "1"
  | .numbered _ => ""

/-- The width of the level column. -/
def levelWidth : Nat := 8

/-- The name of a level, filled up to the width of its column. -/
def paddedName (level : Level) : String :=
  level.name ++ String.ofList (List.replicate (levelWidth - level.name.length) ' ')

/-- The colour line of a record. -/
def colourLine (r : Record) : Text :=
  let level := levelColour r.level
  let cyan (s : String) := coloured (code "36") s
  coloured (code "32") (r.time.date ++ " " ++ r.time.timeOfDay) ++ " | "
    ++ coloured level (paddedName r.level) ++ " | "
    ++ cyan r.origin.module ++ ":" ++ cyan r.origin.function ++ ":" ++ cyan (toString r.origin.line)
    ++ " | " ++ coloured level r.message
    ++ (if r.context.isEmpty then ("" : Text)
      else " | " ++ coloured (code "35") (Json.display (.obj r.extra)))
    ++ "\n"

end Gridwork.Log
