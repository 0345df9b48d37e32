import Gridwork.Event
import Gridwork.Field
import Gridwork.Validation.Location

/-!
# Validating requests

Three kinds of violations are found, all of them at once:

* a text that looks like a file path, anywhere outside the caller's own data;
* a key that is not in the vocabulary, likewise;
* a request without the structure that every workbook description has.

The caller's own data, below `header` and `rows`, is passed over unless its texts are to be scanned
for paths too; its keys are never looked at.
-/

namespace Gridwork

/-- A reason to refuse a request. -/
inductive Violation where
  | pathLike (place : Location) (value : Text)
  | notAllowed (place : Location)
  | bodyNotObject
  | missing (field : Text)
  | notObject (field : Text)
  | missingOrNotText (field : Text)
  | notArray (field : Text)
  | noSheets (field : Text)
  deriving DecidableEq, Repr

/-- The wording of a violation. -/
def Violation.message : Violation → Text
  | .pathLike place value => "Path-like value detected at " ++ place.text ++ ": " ++ value
  | .notAllowed place => "Field not allowed: " ++ place.text
  | .bodyNotObject => "Request body must be a JSON object"
  | .missing field => "Required field \"" ++ field ++ "\" is missing"
  | .notObject field => "Field \"" ++ field ++ "\" must be an object"
  | .missingOrNotText field => "Required field \"" ++ field ++ "\" is missing or not a string"
  | .notArray field => "Field \"" ++ field ++ "\" must be an array"
  | .noSheets field => "Field \"" ++ field ++ "\" must contain at least one sheet"

namespace Validation

/-! ### Path-like text -/

/-- Whether a text holds a path separator or a traversal token. -/
def containsPathChars : List CodePoint → Bool
  | [] => false
  | .char '/' :: _ => true
  | .char '\\' :: _ => true
  | .char '.' :: .char '.' :: .char ':' :: _ => true
  | _ :: rest => containsPathChars rest

/-- Whether a text looks like a file path. -/
def containsPath (s : Text) : Bool := containsPathChars s.toList

/-- The violation of a node that is a path-like text. -/
def pathViolations (place : Location) : Json → List Violation
  | .str s => if containsPath s then [.pathLike place s] else []
  | _ => []

/-! ### The walk over the caller's data -/

mutual

/-- The path-like texts strictly below a node. -/
def scanBelow (place : Location) : Json → List Violation
  | .obj entries => scanEntries place entries
  | .arr items => scanItems place 0 items
  | _ => []

/-- The path-like texts in an object. -/
def scanEntries (place : Location) : List (Text × Json) → List Violation
  | [] => []
  | (k, v) :: rest =>
    pathViolations (.key k :: place) v ++ scanBelow (.key k :: place) v ++ scanEntries place rest

/-- The path-like texts in an array, whose first member has the given index. -/
def scanItems (place : Location) (i : Nat) : List Json → List Violation
  | [] => []
  | v :: rest =>
    pathViolations (.index i :: place) v ++ scanBelow (.index i :: place) v
      ++ scanItems place (i + 1) rest

end

/-! ### The walk over the request -/

mutual

/-- The violations strictly below a node of the request. -/
def walk (scan : Bool) (place : Location) : Json → List Violation
  | .obj entries => walkEntries scan place entries
  | .arr items => walkItems scan place 0 items
  | _ => []

/-- The violations in an object. -/
def walkEntries (scan : Bool) (place : Location) : List (Text × Json) → List Violation
  | [] => []
  | (k, v) :: rest =>
    let here := .key k :: place
    pathViolations here v
      ++ (if Field.isBusinessData k then (if scan then scanBelow here v else [])
        else (if Field.isAllowed k then [] else [.notAllowed here]) ++ walk scan here v)
      ++ walkEntries scan place rest

/-- The violations in an array, whose first member has the given index. -/
def walkItems (scan : Bool) (place : Location) (i : Nat) : List Json → List Violation
  | [] => []
  | v :: rest =>
    pathViolations (.index i :: place) v ++ walk scan (.index i :: place) v
      ++ walkItems scan place (i + 1) rest

end

/-! ### Structure -/

/-- The name of the sheets field in messages. -/
def sheetsPath : Text := Field.workbook ++ "." ++ Field.sheets

/-- Whether a field holds a text. -/
def hasText (entries : Json.Entries) (field : Text) : Bool :=
  match entries.field field with
  | .str _ => true
  | _ => false

/-- What is missing from the first sheet. -/
def firstSheetViolations : Json → List Violation
  | .obj sheet =>
    if hasText sheet Field.name then []
    else [.missingOrNotText (sheetsPath ++ "[0]." ++ Field.name)]
  | _ => [.notObject (sheetsPath ++ "[0]")]

/-- What is missing from the sheets field. -/
def sheetsViolations : Json → List Violation
  | .null => [.missing sheetsPath]
  | .arr [] => [.noSheets sheetsPath]
  | .arr (first :: _) => firstSheetViolations first
  | _ => [.notArray sheetsPath]

/-- What a request lacks of the structure of every workbook description. -/
def structureViolations : Json → List Violation
  | .obj root =>
    match Json.Entries.get? root Field.workbook with
    | none => [.missing Field.workbook]
    | some .null => [.missing Field.workbook]
    | some (.obj workbook) =>
      (if hasText workbook Field.name then []
        else [.missingOrNotText (Field.workbook ++ "." ++ Field.name)])
        ++ sheetsViolations (Json.Entries.field workbook Field.sheets)
    | some _ => [.notObject Field.workbook]
  | _ => [.bodyNotObject]

end Validation

/-- All violations of a request. With `scan` the texts in the caller's data are examined too. -/
def violations (scan : Bool) (request : Json) : List Violation :=
  Validation.walk scan [] request ++ Validation.structureViolations request

/-- The event of a validation that found violations. -/
def rejectionEvents (found : List Violation) : List Event :=
  if found.isEmpty then [] else [.rejected found.length]

/-- The message of a request refused for its violations. -/
def rejectionMessage (found : List Violation) : Text :=
  "Invalid spreadsheet request: " ++ Text.intercalate "; " (found.map Violation.message)

end Gridwork
