import Gridwork.Style.Reading
import Gridwork.Validation.Location
import Gridwork.Workbook.Title

/-!
# Why a workbook cannot be built

A `BuildError` says what is missing from or wrong with a request; each is reported for a field. If
its wording would show a whole number that is too long to be written, it has none, and what is
raised in its place is the error of writing the number. Building also fails when a sheet has no row
left, and opening a context when its sheet cannot be given a title.
-/

namespace Gridwork

/-- What makes a request impossible to build. -/
inductive BuildError where
  | style (e : StyleError)
  | requestNotObject
  | workbookMissing
  | notObject (path : Text)
  | notArray (path : Text)
  | notText (path : Text)
  | workbookNameMissing (path : Text)
  | noSheets (path : Text)
  | emptyName (path : Text)
  | badTitle (name : Text) (e : TitleError) (path : Text)
  | noHeader (name path : Text)
  | nullValue (key : Text)
  | notFinite (key : Text) (value : Binary64)
  | illegalText (field : Text)
  | tooManyRows (name : Json) (rows : Nat) (limit : Int)
  deriving DecidableEq, Repr

namespace BuildError

/-- The wording of an error, if it has one. -/
def message? : BuildError → Option Text
  | .style e => e.message?
  | .requestNotObject => some "Request must be a JSON object"
  | .workbookMissing => some ("Required field \"" ++ Field.workbook ++ "\" is missing")
  | .notObject path => some ("Field \"" ++ path ++ "\" must be an object")
  | .notArray path => some ("Field \"" ++ path ++ "\" must be an array")
  | .notText path => some ("Field \"" ++ path ++ "\" must be a string")
  | .workbookNameMissing path => some ("Field \"" ++ path ++ "\" is missing or not a string")
  | .noSheets path => some ("Field \"" ++ path ++ "\" must be a non-empty array")
  | .emptyName path => some ("Field \"" ++ path ++ "\" must not be empty")
  | .badTitle name e _ => some ("Invalid sheet name \"" ++ name ++ "\": " ++ e.message)
  | .noHeader name _ => some ("Sheet \"" ++ name ++ "\" must contain a header")
  | .nullValue key => some ("Field \"" ++ key ++ "\" in rows is missing or null")
  | .notFinite key value =>
    some ("Field \"" ++ key ++ "\" must be a finite number, got " ++ value.text)
  | .illegalText field =>
    some ("Field \"" ++ field ++ "\" contains characters not allowed in a cell")
  | .tooManyRows name rows limit =>
    name.display?.map fun shown =>
      "Sheet \"" ++ shown ++ "\" has " ++ toString rows ++ " rows; the limit is "
        ++ toString limit

/-- Whether an error has a wording. -/
def isWorded (e : BuildError) : Bool := e.message?.isSome

/-- The field that an error is reported for. -/
def field : BuildError → Option Text
  | .style e => some e.field
  | .requestNotObject => none
  | .workbookMissing => some Field.workbook
  | .notObject path => some path
  | .notArray path => some path
  | .notText path => some path
  | .workbookNameMissing path => some path
  | .noSheets path => some path
  | .emptyName path => some path
  | .badTitle _ _ path => some path
  | .noHeader _ path => some path
  | .nullValue key => some key
  | .notFinite key _ => some key
  | .illegalText field => some field
  | .tooManyRows _ _ _ => some Field.rows

end BuildError

/-- How building fails. -/
inductive Failure where
  | build (e : BuildError)
  | rowOutOfRange
  | untitled (e : TitleError)
  deriving DecidableEq, Repr

end Gridwork
