import Gridwork.Build.Failure

/-!
# Reading the parts of a request

Before anything is written, a node of the request is read into a plan: the fields that it must have,
found under any of their spellings, and its style. A plan does not depend on the order of the fields
that were read by name. The columns of a header and the entries of a data row keep their order,
since they become the columns of the sheet; the style of a data row is not one of its columns.
-/

namespace Gridwork

/-- A field within a node. -/
def fieldPath (path field : Text) : Text := path ++ "." ++ field

/-- The labels of a header row and their style. -/
structure HeaderPlan where
  style : Style
  columns : List Json
  deriving DecidableEq, Repr

/-- The columns of a data row and their style. -/
structure RowPlan where
  style : Option Style
  columns : List (Text × Json)
  deriving DecidableEq, Repr

/-- A sheet: its name, which is not empty, and the nodes of its header and its rows. -/
structure SheetPlan where
  name : Text
  header : Json
  rows : Json
  deriving DecidableEq, Repr

/-- Reads the style field of a node, if it is present. -/
def readStyleField (path : Text) (entries : Json.Entries) : Except BuildError (Option Style) :=
  match entries.field? Field.style with
  | none => .ok none
  | some spec =>
    match Style.read (fieldPath path Field.style) spec with
    | .ok s => .ok (some s)
    | .error e => .error (.style e)

/-- Reads a header. Without a style of its own it gets the default one. -/
def HeaderPlan.read (path : Text) : Json → Except BuildError HeaderPlan
  | .obj entries =>
    match Json.Entries.field entries Field.columns with
    | .arr columns =>
      match readStyleField path entries with
      | .ok style => .ok ⟨style.getD Style.headerDefault, columns⟩
      | .error e => .error e
    | _ => .error (.notArray (fieldPath path Field.columns))
  | _ => .error (.notObject path)

/-- Reads a data row. -/
def RowPlan.read (path : Text) : Json → Except BuildError RowPlan
  | .obj entries =>
    match readStyleField path entries with
    | .ok style => .ok ⟨style, entries.filter fun entry => !Field.isStyle entry.1⟩
    | .error e => .error e
  | _ => .error (.notObject path)

/-- Reads a sheet. -/
def SheetPlan.read (path : Text) : Json → Except BuildError SheetPlan
  | .obj entries =>
    match Json.Entries.field entries Field.name with
    | .str name =>
      if name.isEmpty then .error (.emptyName (fieldPath path Field.name))
      else
        .ok ⟨name, Json.Entries.field entries Field.header, Json.Entries.field entries Field.rows⟩
    | _ => .error (.notText (fieldPath path Field.name))
  | _ => .error (.notObject path)

/-- Reads the sheets of a workbook, which must have a name. -/
def readSheets : Json → Except BuildError (List Json)
  | .obj entries =>
    match Json.Entries.field entries Field.name with
    | .str _ =>
      match Json.Entries.field entries Field.sheets with
      | .arr (first :: rest) => .ok (first :: rest)
      | _ => .error (.noSheets (fieldPath Field.workbook Field.sheets))
    | _ => .error (.workbookNameMissing (fieldPath Field.workbook Field.name))
  | _ => .error (.notObject Field.workbook)

end Gridwork
