import Gridwork.Log.Level
import Gridwork.Text.Basic

/-!
# Events

What happens while a request is validated, built and stored is reported as events. Each has a level
and a message.
-/

namespace Gridwork

/-- The two kinds of values that have no place in a cell. -/
inductive NestedKind where
  | object
  | array
  deriving DecidableEq, Repr

/-- The name of a kind in messages. -/
def NestedKind.label : NestedKind → String
  | .object => "dict"
  | .array => "list"

/-- Something worth reporting. -/
inductive Event where
  /-- A request has violations. -/
  | rejected (violations : Nat)
  /-- A key beside the workbook is passed over. -/
  | skippedKey (key : Text)
  /-- A value of a data row is an object or array, for which an empty text is written. -/
  | blankedValue (key : Text) (kind : NestedKind)
  /-- A sheet is complete. -/
  | builtSheet (name : Text) (rows : Int)
  /-- A file has been written. -/
  | savedWorkbook (path : String) (size : Nat)
  /-- A request has been answered with a workbook. -/
  | generated (filename : String) (sheets size : Nat)
  deriving DecidableEq, Repr

namespace Event

/-- The level of an event. -/
def level : Event → Log.Level
  | .rejected _ => .debug
  | .skippedKey _ => .warning
  | .blankedValue _ _ => .warning
  | .builtSheet _ _ => .debug
  | .savedWorkbook _ _ => .info
  | .generated _ _ _ => .info

/-- The message of an event. -/
def message : Event → Text
  | .rejected n => "Request rejected with " ++ toString n ++ " validation error(s)"
  | .skippedKey key => "Top-level key \"" ++ key ++ "\" has no handler; skipping it"
  | .blankedValue key kind =>
    "Field \"" ++ key ++ "\" holds a " ++ kind.label ++ " value; writing an empty text cell"
  | .builtSheet name rows => "Built sheet \"" ++ name ++ "\" (" ++ toString rows ++ " rows)"
  | .savedWorkbook path size =>
    "Saved workbook to " ++ path ++ " (" ++ toString size ++ " bytes)"
  | .generated filename sheets size =>
    "Generated " ++ filename ++ ": " ++ toString sheets ++ " sheet(s), " ++ toString size
      ++ " bytes"

end Event

end Gridwork
