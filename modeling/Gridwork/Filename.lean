import Gridwork.Field
import Gridwork.Text.Case

/-!
# File names

The file of a workbook is named after the workbook: `Filename.derive` reads the name from a request
and `Filename.sanitize` makes it safe, whatever it was.
-/

namespace Gridwork.Filename

/-- The ending of every workbook file. -/
def extension := ".xlsx"

/-- The name that stands in for a missing or empty one. -/
def fallback := "Workbook"

/-- The largest number of characters of a name without its extension. -/
def maxLength : Nat := 64

/-- Whether a character may stand in a file name. -/
def isSafeChar (c : Char) : Bool := c.isAlphanum || c == '_' || c == '-'

/-- A safe character, or else an underscore. -/
def safeChar : CodePoint → Char
  | .char c => if isSafeChar c then c else '_'
  | _ => '_'

/-- Puts an underscore for whatever is unsafe and cuts the name; an empty name becomes the
fallback. -/
def sanitize (t : Text) : String :=
  let cleaned := (t.toList.map safeChar).take maxLength
  if cleaned.isEmpty then fallback else String.ofList cleaned

/-- Appends the extension unless the name ends with it in any case. -/
def withExtension (s : String) : String :=
  if (extension : Text).toList.isSuffixOf (Text.lower s).toList then s else s ++ extension

/-- The name of the workbook that a request describes. -/
def workbookName? (request : Json) : Option Text :=
  match request with
  | .obj entries =>
    match Json.Entries.get? entries Field.workbook with
    | some (.obj workbook) =>
      match Json.Entries.field workbook Field.name with
      | .str s => some s
      | _ => none
    | _ => none
  | _ => none

/-- The file name for the workbook that a request describes. -/
def derive (request : Json) : String :=
  withExtension (sanitize ((workbookName? request).getD fallback))

end Gridwork.Filename
